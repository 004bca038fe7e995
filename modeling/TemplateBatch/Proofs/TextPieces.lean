import TemplateBatch.Text.Lines
import Mathlib.Data.List.Basic

/-!
Texts in pieces. A text is cut at every character of a kind and put together again from what stands
between them, it begins with another one, it is read line by line, or it is written with a unit of its
own for each character.
-/
namespace TemplateBatch.Text

theorem split_ne_nil (cut : Char → Bool) (cs : List Char) : split cut cs ≠ [] := by
  cases cs with
  | nil => exact List.cons_ne_nil _ _
  | cons c rest =>
    rw [split]
    split
    · exact List.cons_ne_nil _ _
    · split <;> exact List.cons_ne_nil _ _

theorem split_append (cut : Char → Bool) (a b : List Char) (c : Char) (hc : cut c = true) :
    split cut (a ++ c :: b) = split cut a ++ split cut b := by
  induction a with
  | nil => simp [split, hc]
  | cons d a ih =>
    rw [List.cons_append, split, split, ih]
    cases hd : cut d with
    | true => rfl
    | false =>
      obtain ⟨piece, pieces, hpieces⟩ := List.exists_cons_of_ne_nil (split_ne_nil cut a)
      rw [hpieces]
      rfl

/-- Text without a cut belongs to the first piece of what follows it. -/
theorem split_uncut_append (cut : Char → Bool) {a b piece : List Char} {pieces : List (List Char)}
    (h : ∀ c ∈ a, cut c = false) (hb : split cut b = piece :: pieces) :
    split cut (a ++ b) = (a ++ piece) :: pieces := by
  induction a with
  | nil => exact hb
  | cons c a ih =>
    rw [List.forall_mem_cons] at h
    rw [List.cons_append, split, ih h.2, h.1]
    rfl

theorem split_of_uncut (cut : Char → Bool) (cs : List Char) (h : ∀ c ∈ cs, cut c = false) :
    split cut cs = [cs] := by
  have hsplit : split cut (cs ++ []) = [cs ++ []] := split_uncut_append cut h rfl
  rwa [List.append_nil] at hsplit

/-- All but the cuts stands in the pieces. -/
theorem flatten_split (cut : Char → Bool) (cs : List Char) :
    (split cut cs).flatten = cs.filter fun c => !cut c := by
  induction cs with
  | nil => rfl
  | cons c cs ih =>
    cases hc : cut c with
    | true => simp [split, hc, ih]
    | false =>
      obtain ⟨piece, pieces, hsplit⟩ := List.exists_cons_of_ne_nil (split_ne_nil cut cs)
      rw [hsplit] at ih
      simpa [split, hc, hsplit] using ih

theorem split_of_not_mem {c : Char} {cs : List Char} (h : c ∉ cs) : split (· == c) cs = [cs] := by
  apply split_of_uncut
  intro d hd
  rw [beq_eq_false_iff_ne]
  rintro rfl
  exact h hd

theorem uncut_of_mem_split (cut : Char → Bool) (cs piece : List Char)
    (h : piece ∈ split cut cs) : ∀ c ∈ piece, cut c = false := by
  induction cs generalizing piece with
  | nil =>
    rw [List.mem_singleton.mp h]
    exact fun c hc => absurd hc List.not_mem_nil
  | cons d cs ih =>
    rw [split] at h
    cases hd : cut d with
    | true =>
      rw [hd, if_pos rfl] at h
      rcases List.mem_cons.mp h with rfl | hrest
      · exact fun c hc => absurd hc List.not_mem_nil
      · exact ih piece hrest
    | false =>
      obtain ⟨first, rest, hsplit⟩ := List.exists_cons_of_ne_nil (split_ne_nil cut cs)
      rw [hd, if_neg Bool.false_ne_true, hsplit] at h
      rw [hsplit] at ih
      rcases List.mem_cons.mp h with rfl | hrest
      · exact List.forall_mem_cons.mpr ⟨hd, ih first List.mem_cons_self⟩
      · exact ih piece (List.mem_cons_of_mem _ hrest)

theorem not_mem_of_mem_split {c : Char} {cs piece : List Char} (h : piece ∈ split (· == c) cs) :
    c ∉ piece := by
  intro hc
  have huncut := uncut_of_mem_split _ _ piece h c hc
  rw [beq_self_eq_true] at huncut
  cases huncut

theorem joinChars_cons (separator piece : List Char) {ps : List (List Char)} (h : ps ≠ []) :
    joinChars separator (piece :: ps) = piece ++ separator ++ joinChars separator ps := by
  cases ps with
  | nil => exact absurd rfl h
  | cons q qs => rfl

theorem joinChars_append (separator : List Char) {ps qs : List (List Char)} (hps : ps ≠ [])
    (hqs : qs ≠ []) : joinChars separator (ps ++ qs) =
      joinChars separator ps ++ separator ++ joinChars separator qs := by
  induction ps with
  | nil => exact absurd rfl hps
  | cons piece ps ih =>
    by_cases hnil : ps = []
    · rw [hnil]
      exact joinChars_cons _ _ hqs
    · have hrest : ps ++ qs ≠ [] := List.append_ne_nil_of_left_ne_nil hnil qs
      rw [List.cons_append, joinChars_cons _ _ hrest, ih hnil, joinChars_cons _ _ hnil]
      simp only [List.append_assoc]

section Joining
variable {c : Char}

theorem joinChars_isPrefix (separator : List Char) {ps qs : List (List Char)} (h : ps <+: qs) :
    joinChars separator ps <+: joinChars separator qs := by
  obtain ⟨rest, rfl⟩ := h
  by_cases hps : ps = []
  · rw [hps]
    exact List.nil_prefix
  · by_cases hrest : rest = []
    · simp [hrest]
    · rw [joinChars_append _ hps hrest, List.append_assoc]
      exact List.prefix_append _ _

theorem joinChars_split (cs : List Char) : joinChars [c] (split (· == c) cs) = cs := by
  induction cs with
  | nil => rfl
  | cons d cs ih =>
    obtain ⟨piece, ps, hsplit⟩ := List.exists_cons_of_ne_nil (split_ne_nil (· == c) cs)
    rw [split]
    by_cases hd : (d == c) = true
    · rw [if_pos hd, joinChars_cons _ _ (split_ne_nil _ cs), ih, beq_iff_eq.mp hd]
      rfl
    · rw [if_neg hd, hsplit]
      rw [hsplit] at ih
      cases ps with
      | nil => exact congrArg (d :: ·) ih
      | cons q qs => exact congrArg (d :: ·) ih

theorem split_joinChars {ps : List (List Char)} (hne : ps ≠ []) (huncut : ∀ p ∈ ps, c ∉ p) :
    split (· == c) (joinChars [c] ps) = ps := by
  induction ps with
  | nil => exact absurd rfl hne
  | cons p ps ih =>
    rw [List.forall_mem_cons] at huncut
    by_cases hps : ps = []
    · rw [hps]
      exact split_of_not_mem huncut.1
    · have hcut := split_append (· == c) p (joinChars [c] ps) c (beq_self_eq_true c)
      rw [joinChars_cons _ _ hps, List.append_assoc, List.singleton_append, hcut,
        split_of_not_mem huncut.1, ih hps huncut.2]
      rfl

end Joining

/-- Lines that each end with the separator are cut into these lines, with nothing behind the last. -/
theorem split_lines {c : Char} {lines : List (List Char)} (h : ∀ line ∈ lines, c ∉ line) :
    split (· == c) (lines.flatMap fun line => line ++ [c]) = lines ++ [[]] := by
  induction lines with
  | nil => rfl
  | cons line lines ih =>
    rw [List.forall_mem_cons] at h
    rw [List.flatMap_cons, List.append_assoc, List.singleton_append,
      split_append (· == c) line _ c (beq_self_eq_true c), split_of_not_mem h.1, ih h.2]
    rfl

theorem after?_append (start cs : List Char) : after? start (start ++ cs) = some cs := by
  induction start with
  | nil => rfl
  | cons c start ih => rw [List.cons_append, after?, if_pos rfl, ih]

theorem eq_of_after? {start cs rest : List Char} (h : after? start cs = some rest) :
    cs = start ++ rest := by
  induction start generalizing cs with
  | nil => exact Option.some.inj h
  | cons c start ih =>
    cases cs with
    | nil => cases h
    | cons d cs =>
      rw [after?] at h
      split_ifs at h with heq
      rw [heq, ih h, List.cons_append]

theorem isSome_after?_iff {start cs : List Char} :
    (after? start cs).isSome = true ↔ start <+: cs := by
  rw [Option.isSome_iff_exists]
  constructor
  · rintro ⟨rest, hrest⟩
    exact ⟨rest, (eq_of_after? hrest).symm⟩
  · rintro ⟨rest, rfl⟩
    exact ⟨rest, after?_append start rest⟩

theorem startsWith_iff (s start : String) :
    startsWith s start = true ↔ start.toList <+: s.toList :=
  isSome_after?_iff

theorem not_mem_of_all {cs chars : List Char} (h : chars.all fun c => !cs.contains c) :
    ∀ c ∈ cs, c ∉ chars := by
  intro c hc hmem
  have hother := List.all_eq_true.mp h c hmem
  rw [List.contains_iff_mem.mpr hc] at hother
  cases hother

section Stop
variable {c : Char} {a : List Char} (h : c ∉ a)
include h

theorem bne_of_not_mem : ∀ d ∈ a, (d != c) = true := by
  intro d hd
  rw [bne_iff_ne]
  rintro rfl
  exact h hd

theorem takeWhile_ne_append (b : List Char) : (a ++ c :: b).takeWhile (· != c) = a := by
  rw [List.takeWhile_append_of_pos (bne_of_not_mem h)]
  simp

theorem dropWhile_ne_append (b : List Char) : (a ++ c :: b).dropWhile (· != c) = c :: b := by
  rw [List.dropWhile_append_of_pos (bne_of_not_mem h)]
  simp

end Stop

theorem linesFrom_append (line a rest : List Char) (h : '\n' ∉ a) :
    linesFrom line (a ++ '\n' :: rest) = closeLine (a.reverse ++ line) :: linesFrom [] rest := by
  induction a generalizing line with
  | nil => rfl
  | cons c a ih =>
    rw [List.mem_cons, not_or] at h
    rw [List.cons_append, linesFrom, if_neg (Ne.symm h.1), ih _ h.2, List.reverse_cons,
      List.append_assoc, List.singleton_append]

/-- The first line feed ends the first line. -/
theorem lines_append {a : List Char} (h : '\n' ∉ a) (rest : List Char) :
    lines (a ++ '\n' :: rest) = closeLine a.reverse :: lines rest := by
  unfold lines
  rw [linesFrom_append _ _ _ h, List.append_nil]

/-- A line feed ends the lines of the text in front of it. -/
theorem linesFrom_feed (line a b : List Char) :
    linesFrom line (a ++ '\n' :: b) = linesFrom line (a ++ ['\n']) ++ linesFrom [] b := by
  induction a generalizing line with
  | nil => rfl
  | cons c a ih =>
    rw [List.cons_append, List.cons_append, linesFrom, linesFrom]
    by_cases hc : c = '\n'
    · rw [if_pos hc, if_pos hc, ih, List.cons_append]
    · rw [if_neg hc, if_neg hc, ih]

theorem lines_feed (a b : List Char) : lines (a ++ '\n' :: b) = lines (a ++ ['\n']) ++ lines b :=
  linesFrom_feed [] a b

theorem closeLine_reverse (a : List Char) (h : '\r' ∉ a) : closeLine a.reverse = a := by
  unfold closeLine
  split
  · rename_i line hline
    exact absurd (List.mem_reverse.mp (hline ▸ List.mem_cons_self)) h
  · exact List.reverse_reverse a

theorem lines_of_not_mem {line : List Char} (h : '\n' ∉ line) :
    lines line = if line = [] then [] else [line] := by
  suffices hfrom : ∀ before, linesFrom before line =
      if before = [] ∧ line = [] then [] else [before.reverse ++ line] by
    simpa [lines] using hfrom []
  intro before
  induction line generalizing before with
  | nil => simp [linesFrom]
  | cons c line ih =>
    rw [List.mem_cons, not_or] at h
    rw [linesFrom, if_neg (Ne.symm h.1), ih h.2]
    simp

/-- A text ends in its first line, or it has a first line with a line feed and goes on behind it. -/
theorem line_induction {P : List Char → Prop} (last : ∀ a, '\n' ∉ a → P a)
    (feed : ∀ a rest, '\n' ∉ a → P rest → P (a ++ '\n' :: rest)) (cs : List Char) : P cs := by
  induction hlength : cs.length using Nat.strongRecOn generalizing cs with
  | ind n ih =>
    by_cases hfeed : '\n' ∈ cs
    · obtain ⟨a, rest, rfl, ha⟩ := List.eq_append_cons_of_mem hfeed
      rw [List.length_append, List.length_cons] at hlength
      exact feed a rest ha (ih rest.length (by omega) rest rfl)
    · exact last cs hfeed

theorem lines_eq_nil_iff {cs : List Char} : lines cs = [] ↔ cs = [] := by
  induction cs using line_induction with
  | last a ha =>
    rw [lines_of_not_mem ha]
    by_cases hnil : a = []
    · simp [hnil]
    · simp [hnil]
  | feed a rest ha _ => simp [lines_append ha]

/-- A character of a text that is written unit by unit stands in the unit of one character. -/
theorem exists_unit_of_flatMap {f : Char → List Char} {d : Char} {cs front back : List Char}
    (h : cs.flatMap f = front ++ d :: back) :
    ∃ before c after p q, cs = before ++ c :: after ∧ f c = p ++ d :: q ∧
      front = before.flatMap f ++ p ∧ back = q ++ after.flatMap f := by
  induction cs generalizing front with
  | nil => exact absurd h.symm (by simp)
  | cons c cs ih =>
    rw [List.flatMap_cons] at h
    rcases List.append_eq_append_iff.mp h with ⟨more, rfl, hrest⟩ | ⟨more, hunit, hrest⟩
    · obtain ⟨before, c', after, p, q, rfl, hc', rfl, rfl⟩ := ih hrest
      refine ⟨c :: before, c', after, p, q, rfl, hc', ?_, rfl⟩
      rw [List.flatMap_cons, List.append_assoc]
    · cases more with
      | nil =>
        have hfirst : cs.flatMap f = [] ++ d :: back := hrest.symm
        obtain ⟨before, c', after, p, q, rfl, hc', hfront, rfl⟩ := ih hfirst
        refine ⟨c :: before, c', after, p, q, rfl, hc', ?_, rfl⟩
        rw [List.flatMap_cons, List.append_assoc, ← hfront, List.append_nil, hunit,
          List.append_nil]
      | cons e more =>
        rw [List.cons_append, List.cons.injEq] at hrest
        obtain ⟨rfl, rfl⟩ := hrest
        exact ⟨[], c, cs, front, more, rfl, hunit, rfl, rfl⟩

end TemplateBatch.Text
