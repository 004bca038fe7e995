import TemplateBatch.Proofs.TextPieces
import Mathlib.Data.List.Forall2

/-!
Indented text. Each line that has something on it stands behind as many spaces as asked for and is
otherwise left alone, and an empty line stays empty, so the text without its margin is the text
indented by nothing. That one is the text itself but for the way its lines end: a carriage return
goes with the line feed behind it, and the line feed that the text ends with is left out.
-/
namespace TemplateBatch.Text

/-- The text without the carriage returns that a line feed follows directly. -/
def withoutReturns : List Char → List Char
  | [] => []
  | c :: rest =>
    if c = '\r' ∧ rest.head? = some '\n' then withoutReturns rest else c :: withoutReturns rest

/-- The text without the line feed that it ends with, if it does. -/
def withoutLastFeed (cs : List Char) : List Char :=
  if cs.getLast? = some '\n' then cs.dropLast else cs

/-- What stands between the line feeds of a text. -/
def rows (s : String) : List (List Char) := split (· == '\n') s.toList

/-- A row behind a margin of spaces; a row with nothing on it has no margin. -/
inductive IsMoved (width : ℕ) : List Char → List Char → Prop
  | empty : IsMoved width [] []
  | behind {row : List Char} (h : row ≠ []) :
      IsMoved width row (List.replicate width ' ' ++ row)

theorem withoutReturns_append {a cs : List Char} (ha : '\n' ∉ a) (hcs : cs.head? ≠ some '\n') :
    withoutReturns (a ++ cs) = a ++ withoutReturns cs := by
  induction a with
  | nil => rfl
  | cons c a ih =>
    rw [List.mem_cons, not_or] at ha
    have hhead : (a ++ cs).head? ≠ some '\n' := by
      cases a with
      | nil => exact hcs
      | cons d a =>
        intro h
        exact ha.2 (Option.some.inj h ▸ List.mem_cons_self)
    rw [List.cons_append, withoutReturns, if_neg (fun h => hhead h.2), ih ha.2, List.cons_append]

theorem withoutReturns_of_not_mem {a : List Char} (ha : '\n' ∉ a) : withoutReturns a = a := by
  have h := @withoutReturns_append a [] ha (by decide)
  rwa [List.append_nil, withoutReturns, List.append_nil] at h

theorem withoutReturns_ne_nil {cs : List Char} (h : cs ≠ []) : withoutReturns cs ≠ [] := by
  induction cs with
  | nil => exact absurd rfl h
  | cons c rest ih =>
    rw [withoutReturns]
    by_cases hreturn : c = '\r' ∧ rest.head? = some '\n'
    · rw [if_pos hreturn]
      apply ih
      rintro rfl
      cases hreturn.2
    · rw [if_neg hreturn]
      exact List.cons_ne_nil _ _

theorem closeLine_concat (a : List Char) (c : Char) :
    closeLine (a ++ [c]).reverse = if c = '\r' then a else a ++ [c] := by
  rw [List.reverse_append, List.reverse_singleton, List.singleton_append]
  unfold closeLine
  split
  · next line heq =>
    obtain ⟨rfl, rfl⟩ := List.cons.inj heq
    rw [if_pos rfl, List.reverse_reverse]
  · next hreturn =>
    have hc : c ≠ '\r' := fun h => hreturn a.reverse (h ▸ rfl)
    rw [if_neg hc, List.reverse_cons, List.reverse_reverse]

theorem closeLine_isPrefix (a : List Char) : closeLine a.reverse <+: a := by
  rcases List.eq_nil_or_concat' a with rfl | ⟨a, c, rfl⟩
  · exact List.prefix_rfl
  · rw [closeLine_concat]
    split_ifs
    · exact List.prefix_append a [c]
    · exact List.prefix_rfl

/-- A carriage return is taken off a line exactly when it is one that the line feed follows. -/
theorem withoutReturns_feed {a : List Char} (ha : '\n' ∉ a) (rest : List Char) :
    withoutReturns (a ++ '\n' :: rest) = closeLine a.reverse ++ '\n' :: withoutReturns rest := by
  have hfeed : withoutReturns ('\n' :: rest) = '\n' :: withoutReturns rest := by
    rw [withoutReturns, if_neg (by simp)]
  rcases List.eq_nil_or_concat' a with rfl | ⟨a, c, rfl⟩
  · exact hfeed
  · rw [List.mem_append, not_or, List.mem_singleton] at ha
    have hhead : (c :: '\n' :: rest).head? ≠ some '\n' :=
      fun h => ha.2 (Option.some.inj h).symm
    rw [List.append_assoc, List.singleton_append, withoutReturns_append ha.1 hhead,
      withoutReturns, closeLine_concat, hfeed]
    by_cases hc : c = '\r'
    · rw [if_pos ⟨hc, rfl⟩, if_pos hc]
    · rw [if_neg (fun h => hc h.1), if_neg hc, List.append_assoc]
      rfl

theorem withoutLastFeed_append (a : List Char) {cs : List Char} (h : cs ≠ []) :
    withoutLastFeed (a ++ cs) = a ++ withoutLastFeed cs := by
  unfold withoutLastFeed
  rw [List.getLast?_append_of_ne_nil _ h, List.dropLast_append_of_ne_nil h]
  by_cases hlast : cs.getLast? = some '\n'
  · rw [if_pos hlast, if_pos hlast]
  · rw [if_neg hlast, if_neg hlast]

theorem withoutLastFeed_feed (a : List Char) : withoutLastFeed (a ++ ['\n']) = a := by
  rw [withoutLastFeed_append a (List.cons_ne_nil _ _)]
  exact List.append_nil a

theorem withoutLastFeed_of_not_mem {a : List Char} (ha : '\n' ∉ a) : withoutLastFeed a = a := by
  unfold withoutLastFeed
  exact if_neg fun h => ha (List.mem_of_getLast? h)

/-- Lines put together again are the text but for what ended them. -/
theorem joinChars_lines (cs : List Char) :
    joinChars ['\n'] (lines cs) = withoutLastFeed (withoutReturns cs) := by
  induction cs using line_induction with
  | last a ha =>
    rw [withoutReturns_of_not_mem ha, withoutLastFeed_of_not_mem ha, lines_of_not_mem ha]
    by_cases hnil : a = []
    · rw [if_pos hnil, hnil]
      rfl
    · rw [if_neg hnil]
      rfl
  | feed a rest ha ih =>
    rw [lines_append ha, withoutReturns_feed ha]
    by_cases hrest : rest = []
    · subst hrest
      exact (withoutLastFeed_feed _).symm
    · have hlines : lines rest ≠ [] := mt lines_eq_nil_iff.mp hrest
      have hkept := withoutLastFeed_append (closeLine a.reverse ++ ['\n'])
        (withoutReturns_ne_nil hrest)
      rw [List.append_assoc, List.singleton_append] at hkept
      rw [joinChars_cons _ _ hlines, ih, hkept]

theorem feed_not_mem_lines (cs : List Char) : ∀ line ∈ lines cs, '\n' ∉ line := by
  induction cs using line_induction with
  | last a ha =>
    intro line hline
    rw [lines_of_not_mem ha] at hline
    by_cases hnil : a = []
    · rw [if_pos hnil] at hline
      cases hline
    · rw [if_neg hnil] at hline
      rwa [List.mem_singleton.mp hline]
  | feed a rest ha ih =>
    rw [lines_append ha, List.forall_mem_cons]
    exact ⟨fun h => ha ((closeLine_isPrefix a).subset h), ih⟩

theorem feed_not_mem_indentLine {line : List Char} (h : '\n' ∉ line) (width : ℕ) :
    '\n' ∉ indentLine width line := by
  unfold indentLine
  split_ifs
  · exact List.not_mem_nil
  · rw [List.mem_append, not_or]
    refine ⟨fun hmargin => ?_, h⟩
    exact absurd (List.eq_of_mem_replicate hmargin) (by decide)

/-- The rows of an indented text are its lines with their margins; a text without lines has one
empty row. -/
theorem rows_indent (s : String) (width : ℕ) :
    rows (indent s width) =
      if lines s.toList = [] then [[]] else (lines s.toList).map (indentLine width) := by
  unfold rows indent indentChars
  rw [String.toList_ofList]
  by_cases hlines : lines s.toList = []
  · rw [if_pos hlines, hlines]
    rfl
  · rw [if_neg hlines]
    apply split_joinChars
    · rwa [ne_eq, List.map_eq_nil_iff]
    · intro row hrow
      obtain ⟨line, hline, rfl⟩ := List.mem_map.mp hrow
      exact feed_not_mem_indentLine (feed_not_mem_lines _ line hline) width

theorem indentLine_zero (line : List Char) : indentLine 0 line = line := by
  unfold indentLine
  split_ifs with hnil
  · exact (List.isEmpty_iff.mp hnil).symm
  · rfl

theorem isMoved_indentLine (width : ℕ) (line : List Char) :
    IsMoved width line (indentLine width line) := by
  unfold indentLine
  split_ifs with hnil
  · rw [List.isEmpty_iff.mp hnil]
    exact .empty
  · exact .behind (mt List.isEmpty_iff.mpr hnil)

theorem IsMoved.drop_eq {width : ℕ} {row moved : List Char} (h : IsMoved width row moved) :
    moved.drop width = row := by
  cases h with
  | empty => exact List.drop_nil
  | behind => exact List.drop_left' List.length_replicate

theorem forall₂_isMoved (s : String) (width : ℕ) :
    List.Forall₂ (IsMoved width) (rows (indent s 0)) (rows (indent s width)) := by
  rw [rows_indent, rows_indent]
  by_cases hlines : lines s.toList = []
  · rw [if_pos hlines, if_pos hlines]
    exact .cons .empty .nil
  · rw [if_neg hlines, if_neg hlines, List.forall₂_map_left_iff, List.forall₂_map_right_iff,
      List.forall₂_same]
    intro line _
    rw [indentLine_zero]
    exact isMoved_indentLine width line

/-- An indented text has the rows of the text indented by nothing, those with something on them
behind the margin and the others empty, so that they are left when the margin is taken off. Indented
by nothing a text is itself without the carriage returns in front of its line feeds and without the
line feed at its end. -/
theorem indent_adds_margin (s : String) (width : ℕ) :
    List.Forall₂ (IsMoved width) (rows (indent s 0)) (rows (indent s width)) ∧
      (rows (indent s width)).map (List.drop width) = rows (indent s 0) ∧
      (indent s 0).toList = withoutLastFeed (withoutReturns s.toList) := by
  have hmoved := forall₂_isMoved s width
  refine ⟨hmoved, ?_, ?_⟩
  · rw [← List.forall₂_eq_eq_eq, List.forall₂_map_left_iff]
    exact hmoved.flip.imp fun _ _ h => h.drop_eq
  · have hkept : indentLine 0 = id := funext indentLine_zero
    unfold indent indentChars
    rw [String.toList_ofList, hkept, List.map_id]
    exact joinChars_lines s.toList

/-- A carriage return stays where no line feed follows it. -/
example : indent "a\r\n\n  b\r" 2 = "  a\n\n    b\r" := by decide +kernel

end TemplateBatch.Text
