import TemplateBatch.Proofs.JsonSteps
import Mathlib.Data.List.TakeWhile

/-!
White space behind a text leaves the value that the text denotes as it is. A reader that is given
more white space at the end meets it only in what it leaves, and a reader that fails without it
fails with it, since white space completes no word, number or string.
-/
namespace TemplateBatch.Json

/-- A result with `s` behind the text that is left. -/
def leaving {α : Type} (s : List Char) (r : α × List Char) : α × List Char := (r.1, r.2 ++ s)

section Gap
variable {s : List Char}

theorem IsGap.not_mem (hs : IsGap s) {c : Char} (hc : isSpace c = false) : c ∉ s := by
  intro hmem
  rw [hs c hmem] at hc
  cases hc

theorem IsGap.skipSpace_eq (hs : IsGap s) : skipSpace s = [] := List.dropWhile_eq_nil_iff.mpr hs

/-- White space is skipped up to the end of the text or to a character that stays in front. -/
theorem skipSpace_behind (hs : IsGap s) (cs : List Char) :
    (skipSpace cs = [] ∧ skipSpace (cs ++ s) = []) ∨
    ∃ c rest, isSpace c = false ∧ skipSpace cs = c :: rest ∧
      skipSpace (cs ++ s) = c :: (rest ++ s) := by
  induction cs with
  | nil => exact Or.inl ⟨rfl, hs.skipSpace_eq⟩
  | cons c cs ih =>
    cases hc : isSpace c with
    | true =>
      have hskip (rest : List Char) : skipSpace (c :: rest) = skipSpace rest :=
        List.dropWhile_cons_of_pos hc
      rw [List.cons_append, hskip, hskip]
      exact ih
    | false =>
      exact Or.inr ⟨c, cs, hc, skipSpace_cons c cs hc, skipSpace_cons c (cs ++ s) hc⟩

/-- A word without white space that begins a text with white space behind it begins the text. -/
theorem exists_of_append_gap (hs : IsGap s) (word : List Char) {cs rest : List Char}
    (hword : (word.all fun c => !isSpace c) = true) (h : cs ++ s = word ++ rest) :
    ∃ rest', cs = word ++ rest' ∧ rest = rest' ++ s := by
  obtain ⟨rest', hcs, hrest⟩ | ⟨left, hleft, hgap⟩ := List.append_eq_append_iff.mp h
  · have hnil : rest' = [] := by
      refine List.eq_nil_iff_forall_not_mem.mpr fun c hc => ?_
      have hmem : c ∈ s := hrest ▸ List.mem_append_left rest hc
      have hspace := List.all_eq_true.mp hword c (hcs ▸ List.mem_append_right cs hc)
      rw [hs c hmem] at hspace
      cases hspace
    subst hnil
    exact ⟨[], by rw [hcs, List.append_nil, List.append_nil], by simpa using hrest.symm⟩
  · exact ⟨left, hleft, hgap⟩

/-- What is so of the four white characters is so of white space. -/
theorem of_isSpace {p : Char → Prop} (h : p ' ' ∧ p '\t' ∧ p '\n' ∧ p '\r') {c : Char}
    (hc : isSpace c = true) : p c := by
  simp only [isSpace, Bool.or_eq_true, beq_iff_eq] at hc
  obtain ⟨hspace, htab, hfeed, hreturn⟩ := h
  rcases hc with ((rfl | rfl) | rfl) | rfl
  · exact hspace
  · exact htab
  · exact hfeed
  · exact hreturn

theorem hexValue?_of_isSpace {c : Char} (hc : isSpace c = true) : Text.hexValue? c = none :=
  of_isSpace (p := fun c => Text.hexValue? c = none) (by decide) hc

theorem escaped?_of_isSpace {c : Char} (hc : isSpace c = true) : escaped? c = none :=
  of_isSpace (p := fun c => escaped? c = none) (by decide) hc

theorem isDigit_of_isSpace {c : Char} (hc : isSpace c = true) : c.isDigit = false :=
  of_isSpace (p := fun c => c.isDigit = false) (by decide) hc

theorem readUnit_append (hs : IsGap s) (cs : List Char) :
    readUnit (cs ++ s) = (readUnit cs).map (leaving s) := by
  by_cases hlength : 4 ≤ cs.length
  · match cs, hlength with
    | a :: b :: c :: d :: rest, _ =>
      simp only [List.cons_append, readUnit]
      cases Text.hexValue? a with
      | none => rfl
      | some a =>
        cases Text.hexValue? b with
        | none => rfl
        | some b =>
          cases Text.hexValue? c with
          | none => rfl
          | some c =>
            cases Text.hexValue? d with
            | none => rfl
            | some d => rfl
  · -- The fourth digit would be white space.
    have hnone : readUnit cs = none := by
      unfold readUnit
      split
      · next a b c d rest _ =>
        simp only [List.length_cons] at hlength
        omega
      · rfl
    have hnone' : readUnit (cs ++ s) = none := by
      unfold readUnit
      split
      · next a b c d rest heq =>
        have hfourth : (cs ++ s)[3]? = some d := by rw [heq]; rfl
        rw [List.getElem?_append_right (by omega)] at hfourth
        have hd := hexValue?_of_isSpace (hs d (List.mem_of_getElem? hfourth))
        simp [hd]
      · rfl
    rw [hnone, hnone']
    rfl

theorem readPair_append (hs : IsGap s) (unit : ℕ) (rest : List Char) :
    readPair unit (rest ++ s) = leaving s (readPair unit rest) := by
  unfold readPair
  split_ifs
  · split
    · next more heq =>
      obtain ⟨more', rfl, rfl⟩ := exists_of_append_gap hs ['\\', 'u'] rfl heq
      simp only [List.cons_append, List.nil_append, readUnit_append hs]
      cases readUnit more' with
      | none => rfl
      | some r =>
        simp only [Option.map_some, leaving]
        split_ifs
        · rfl
        · rfl
    · next hother =>
      split
      · next more => exact absurd rfl (hother (more ++ s))
      · rfl
  · rfl
  · rfl

theorem readChar_ordinary {c : Char} (hc : c ≠ '\\') (cs : List Char) :
    readChar (c :: cs) = if c.toNat < 32 then none else some (some c, cs) := by
  rw [readChar]
  · simp only [hc, false_or]
  · exact fun _ h => absurd h hc
  · exact fun _ _ h => absurd h hc

theorem readChar_append (hs : IsGap s) (c : Char) (cs : List Char) :
    readChar (c :: cs ++ s) = (readChar (c :: cs)).map (leaving s) := by
  by_cases hslash : c = '\\'
  · subst hslash
    cases cs with
    | nil =>
      cases s with
      | nil => rfl
      | cons d s =>
        have hd := hs d List.mem_cons_self
        have hunit : d ≠ 'u' := by
          rintro rfl
          exact absurd hd (by decide)
        simp [readChar, escaped?_of_isSpace hd]
    | cons d cs =>
      by_cases hunit : d = 'u'
      · subst hunit
        simp only [List.cons_append, readChar, readUnit_append hs]
        cases readUnit cs with
        | none => rfl
        | some r => exact congrArg some (readPair_append hs r.1 r.2)
      · simp only [List.cons_append, readChar]
        cases escaped? d with
        | none => rfl
        | some e => rfl
  · rw [List.cons_append, readChar_ordinary hslash, readChar_ordinary hslash]
    split_ifs
    · rfl
    · rfl

theorem readStringFrom_gap (hs : IsGap s) (fuel : ℕ) (before : Option (List Char)) :
    readStringFrom fuel before s = none := by
  induction fuel generalizing before s with
  | zero => rfl
  | succ fuel ih =>
    cases s with
    | nil => rfl
    | cons c s =>
      have hspace : isSpace c = true := hs c List.mem_cons_self
      have hquote : c ≠ '"' := of_isSpace (p := fun c => c ≠ '"') (by decide) hspace
      have hslash : c ≠ '\\' := of_isSpace (p := fun c => c ≠ '\\') (by decide) hspace
      rw [readStringFrom, if_neg hquote, readChar_ordinary hslash]
      split_ifs
      · rfl
      · exact ih (fun d hd => hs d (List.mem_cons_of_mem c hd)) _

theorem readStringFrom_append (hs : IsGap s) (fuel : ℕ) (before : Option (List Char))
    (cs : List Char) :
    readStringFrom fuel before (cs ++ s) = (readStringFrom fuel before cs).map (leaving s) := by
  induction fuel generalizing before cs with
  | zero => rfl
  | succ fuel ih =>
    cases cs with
    | nil => exact readStringFrom_gap hs (fuel + 1) before
    | cons c cs =>
      have hchar := readChar_append hs c cs
      rw [List.cons_append] at hchar ⊢
      rw [readStringFrom, readStringFrom, hchar]
      split_ifs
      · rfl
      · cases readChar (c :: cs) with
        | none => rfl
        | some r => exact ih _ r.2

theorem digits_append (hs : IsGap s) (cs : List Char) : digits (cs ++ s) = leaving s (digits cs) := by
  induction cs with
  | nil =>
    cases s with
    | nil => rfl
    | cons c s =>
      have hc : c.isDigit = false := isDigit_of_isSpace (hs c List.mem_cons_self)
      simp [digits, leaving, hc]
  | cons c cs ih =>
    simp only [digits, leaving, Prod.mk.injEq] at ih
    cases hc : c.isDigit with
    | true => simp [digits, leaving, hc, ih]
    | false => simp [digits, leaving, hc]

theorem readDigits_append (hs : IsGap s) (cs : List Char) :
    readDigits (cs ++ s) = (readDigits cs).map (leaving s) := by
  rw [readDigits, readDigits, digits_append hs, apply_ite (Option.map (leaving s))]
  rfl

theorem readInteger_append (hs : IsGap s) (cs : List Char) :
    readInteger (cs ++ s) = (readInteger cs).map (leaving s) := by
  rw [readInteger, readInteger, readDigits_append hs]
  cases readDigits cs with
  | none => rfl
  | some r =>
    simp only [Option.map_some, leaving, Option.bind_eq_bind, Option.bind_some]
    split_ifs
    · rfl
    · rfl

theorem readFraction_append (hs : IsGap s) (cs : List Char) :
    readFraction (cs ++ s) = (readFraction cs).map (leaving s) := by
  unfold readFraction
  split
  · next rest heq =>
    obtain ⟨rest', rfl, rfl⟩ := exists_of_append_gap hs ['.'] rfl heq
    simp only [List.cons_append, List.nil_append, readDigits_append hs, Option.map_map]
    rfl
  · next hother =>
    split
    · next rest => exact absurd rfl (hother (rest ++ s))
    · rfl

theorem readExponent_append (hs : IsGap s) (cs : List Char) :
    readExponent (cs ++ s) = (readExponent cs).map (leaving s) := by
  cases cs with
  | nil =>
    cases s with
    | nil => rfl
    | cons c s =>
      have hspace : isSpace c = true := hs c List.mem_cons_self
      have hmark : ¬ (c = 'e' ∨ c = 'E') :=
        of_isSpace (p := fun c => ¬ (c = 'e' ∨ c = 'E')) (by decide) hspace
      simp only [List.nil_append, readExponent, if_neg hmark]
      rfl
  | cons c cs =>
    by_cases hmark : c = 'e' ∨ c = 'E'
    · simp only [List.cons_append, readExponent, if_pos hmark]
      split
      · next more heq =>
        obtain ⟨more', rfl, rfl⟩ := exists_of_append_gap hs ['+'] rfl heq
        simp only [List.cons_append, List.nil_append, readDigits_append hs, Option.map_map]
        rfl
      · next more heq =>
        obtain ⟨more', rfl, rfl⟩ := exists_of_append_gap hs ['-'] rfl heq
        simp only [List.cons_append, List.nil_append, readDigits_append hs, Option.map_map]
        rfl
      · next hplus hminus =>
        split
        · next more => exact absurd rfl (hplus (more ++ s))
        · next more => exact absurd rfl (hminus (more ++ s))
        · simp only [readDigits_append hs, Option.map_map]
          rfl
    · simp only [List.cons_append, readExponent, if_neg hmark]
      rfl

/-- A sign in front of a number is there or not, whatever follows the text. -/
theorem readNumber_append (hs : IsGap s) (cs : List Char) :
    readNumber (cs ++ s) = (readNumber cs).map (leaving s) := by
  have hsign : (cs ++ s).head? = some '-' ↔ cs.head? = some '-' := by
    cases cs with
    | nil =>
      have hhead : s.head? ≠ some '-' := fun h =>
        hs.not_mem (by decide) (List.mem_of_head? h)
      simpa using hhead
    | cons c cs => rfl
  have hdrop : (cs ++ s).drop (if cs.head? = some '-' then ['-'] else []).length =
      cs.drop (if cs.head? = some '-' then ['-'] else []).length ++ s := by
    cases cs with
    | nil => simp
    | cons c cs =>
      split_ifs
      · rfl
      · rfl
  simp only [readNumber, hsign, hdrop, readInteger_append hs]
  cases readInteger (cs.drop (if cs.head? = some '-' then ['-'] else []).length) with
  | none => rfl
  | some whole =>
    simp only [Option.map_some, leaving, Option.bind_eq_bind, Option.bind_some,
      readFraction_append hs]
    cases readFraction whole.2 with
    | none => rfl
    | some fraction =>
      simp only [Option.map_some, leaving, Option.bind_some, readExponent_append hs]
      cases readExponent fraction.2 with
      | none => rfl
      | some exponent => rfl

/-- Two readers that do not mind white space at the end read a group that does not. -/
theorem readGroup_append {α : Type} {one : List Char → Option (α × List Char)}
    {more : List Char → Option (List α × List Char)} {close : Char} (hs : IsGap s)
    (hone : ∀ cs, one (cs ++ s) = (one cs).map (leaving s))
    (hmore : ∀ cs, more (cs ++ s) = (more cs).map (leaving s)) (cs : List Char) :
    readGroup one more close (cs ++ s) = (readGroup one more close cs).map (leaving s) := by
  rw [readGroup, readGroup, hone]
  cases one cs with
  | none => rfl
  | some r =>
    obtain ⟨x, rest⟩ := r
    simp only [Option.map_some, leaving]
    obtain ⟨hrest, hrest'⟩ | ⟨c, behind, -, hrest, hrest'⟩ := skipSpace_behind hs rest
    · rw [hrest, hrest']
      rfl
    · simp only [hrest, hrest', hmore]
      split_ifs
      · rw [Option.map_map, Option.map_map]
        rfl
      · rfl
      · rfl

theorem readEnclosed_append {α : Type} {more : List Char → Option (List α × List Char)}
    {close : Char} {wrap : List α → Json} (hs : IsGap s)
    (hmore : ∀ cs, more (cs ++ s) = (more cs).map (leaving s)) (cs : List Char) :
    readEnclosed more close wrap (cs ++ s) =
      (readEnclosed more close wrap cs).map (leaving s) := by
  rw [readEnclosed, readEnclosed]
  obtain ⟨hcs, hcs'⟩ | ⟨c, rest, -, hcs, hcs'⟩ := skipSpace_behind hs cs
  · rw [hcs, hcs']
    rfl
  · rw [hcs, hcs']
    dsimp only
    rw [← List.cons_append, hmore]
    split_ifs
    · rfl
    · rw [Option.map_map, Option.map_map]
      rfl

/-- No other reader takes part in reading a value that is no array and no object. -/
theorem readValue_plain_append {fuel : ℕ} {c : Char} {text : List Char} (hs : IsGap s)
    (hc : isSpace c = false) (hbracket : c ≠ '[') (hbrace : c ≠ '\x7b') :
    readValue (fuel + 1) (c :: (text ++ s)) =
      (readValue (fuel + 1) (c :: text)).map (leaving s) := by
  rw [readValue, readValue, skipSpace_cons c _ hc, skipSpace_cons c _ hc, ← List.cons_append]
  split
  · next rest heq =>
    obtain ⟨rest', htext, rfl⟩ := exists_of_append_gap hs ['n', 'u', 'l', 'l'] rfl heq
    rw [htext]
    rfl
  · next rest heq =>
    obtain ⟨rest', htext, rfl⟩ := exists_of_append_gap hs ['t', 'r', 'u', 'e'] rfl heq
    rw [htext]
    rfl
  · next rest heq =>
    obtain ⟨rest', htext, rfl⟩ :=
      exists_of_append_gap hs ['f', 'a', 'l', 's', 'e'] rfl heq
    rw [htext]
    rfl
  · next rest heq =>
    obtain ⟨rest', htext, rfl⟩ := exists_of_append_gap hs ['"'] rfl heq
    rw [htext, readString, readStringFrom_append hs, Option.map_map]
    simp only [List.cons_append, List.nil_append, readString, Option.map_map]
    rfl
  · next heq => exact absurd (List.cons.inj heq).1 hbracket
  · next heq => exact absurd (List.cons.inj heq).1 hbrace
  · next hnull htrue hfalse hstring hlist hrecord =>
    rw [readNumber_append hs, Option.map_map]
    split
    · next rest heq => exact absurd (by rw [heq]; rfl) (hnull (rest ++ s))
    · next rest heq => exact absurd (by rw [heq]; rfl) (htrue (rest ++ s))
    · next rest heq => exact absurd (by rw [heq]; rfl) (hfalse (rest ++ s))
    · next rest heq => exact absurd (by rw [heq]; rfl) (hstring (rest ++ s))
    · next heq => exact absurd (List.cons.inj heq).1 hbracket
    · next heq => exact absurd (List.cons.inj heq).1 hbrace
    · rw [Option.map_map]
      rfl

/-- With `fuel` steps, white space at the end makes no difference to any of the readers. -/
structure Indifferent (s : List Char) (fuel : ℕ) : Prop where
  value (cs : List Char) : readValue fuel (cs ++ s) = (readValue fuel cs).map (leaving s)
  items (cs : List Char) : readItems fuel (cs ++ s) = (readItems fuel cs).map (leaving s)
  members (cs : List Char) : readMembers fuel (cs ++ s) = (readMembers fuel cs).map (leaving s)

section Step
variable {fuel : ℕ} (hs : IsGap s) (h : Indifferent s fuel)
include hs h

theorem Indifferent.value_succ (cs : List Char) :
    readValue (fuel + 1) (cs ++ s) = (readValue (fuel + 1) cs).map (leaving s) := by
  rw [← readValue_skipSpace, ← readValue_skipSpace _ cs]
  obtain ⟨hcs, hcs'⟩ | ⟨c, text, hc, hcs, hcs'⟩ := skipSpace_behind hs cs
  · rw [hcs, hcs', readValue_nil]
    rfl
  · rw [hcs, hcs']
    by_cases hbracket : c = '['
    · subst hbracket
      rw [readValue_array, readValue_array, readEnclosed_append hs h.items]
    by_cases hbrace : c = '\x7b'
    · subst hbrace
      rw [readValue_object, readValue_object, readEnclosed_append hs h.members]
    exact readValue_plain_append hs hc hbracket hbrace

theorem Indifferent.member (cs : List Char) :
    readMember fuel (cs ++ s) = (readMember fuel cs).map (leaving s) := by
  rw [readMember, readMember]
  obtain ⟨hcs, hcs'⟩ | ⟨c, text, -, hcs, hcs'⟩ := skipSpace_behind hs cs
  · rw [hcs, hcs']
    rfl
  simp only [hcs, hcs', readString, readStringFrom_append hs]
  by_cases hquote : c = '"'
  · simp only [if_pos hquote]
    cases readStringFrom fuel (some []) text with
    | none => rfl
    | some key =>
      simp only [Option.map_some, leaving]
      obtain ⟨hkey, hkey'⟩ | ⟨d, rest, -, hkey, hkey'⟩ := skipSpace_behind hs key.2
      · rw [hkey, hkey']
        rfl
      simp only [hkey, hkey', h.value]
      split_ifs
      · rw [Option.map_map, Option.map_map]
        rfl
      · rfl
  · simp only [if_neg hquote]
    rfl

end Step

/-- White space at the end makes no difference to a reader, however many steps it takes. -/
theorem indifferent (hs : IsGap s) (fuel : ℕ) : Indifferent s fuel := by
  induction fuel with
  | zero => exact ⟨fun _ => by simp only [readValue, Option.map_none],
      fun _ => by simp only [readItems, Option.map_none],
      fun _ => by simp only [readMembers, Option.map_none]⟩
  | succ fuel ih =>
    refine ⟨ih.value_succ hs, ?_, ?_⟩
    · rw [readItems_succ]
      exact readGroup_append hs ih.value ih.items
    · rw [readMembers_succ]
      exact readGroup_append hs (ih.member hs) ih.members

end Gap

/-- A text denotes the same value with white space behind it, and none if it denotes none. -/
theorem readChars?_append_gap {s : List Char} (hs : IsGap s) (cs : List Char) :
    readChars? (cs ++ s) = readChars? cs := by
  have hleast : readValue (2 * (cs ++ s).length + 2) cs = readValue (2 * cs.length + 2) cs := by
    rw [readValue_eq_of_le cs (by rw [List.length_append]; omega),
      readValue_eq_of_le cs (n := 2 * cs.length + 2) (by omega)]
  rw [readChars?, readChars?, (indifferent hs _).value, hleast]
  cases readValue (2 * cs.length + 2) cs with
  | none => rfl
  | some r =>
    obtain ⟨j, rest⟩ := r
    simp only [Option.map_some, leaving]
    obtain ⟨hrest, hrest'⟩ | ⟨c, more, -, hrest, hrest'⟩ := skipSpace_behind hs rest
    · rw [hrest, hrest']
    · simp only [hrest, hrest', reduceCtorEq]

end TemplateBatch.Json
