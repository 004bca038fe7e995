import TemplateBatch.Diagnostic.CompilerReport
import TemplateBatch.Proofs.JsonSpace
import TemplateBatch.Proofs.RootText

/-!
A compiler report is read line by line. The carriage return that a line may end with is white space
to all who read the line, so that it makes no difference whether it was taken off together with a
line feed, and the parts of a report on both sides of a line feed are read each on its own. What a
line says is decided by the line alone: nothing, one message that the compiler gave, or its own text
as an error, so that no line that stands in a report is lost.
-/
namespace TemplateBatch

namespace Text

theorem dropBlankEnd_append {c : Char} (hc : isBlank c = true) (cs : List Char) :
    dropBlankEnd (cs ++ [c]) = dropBlankEnd cs := by
  rw [dropBlankEnd, List.reverse_append, List.reverse_singleton, List.singleton_append,
    List.dropWhile_cons_of_pos hc, dropBlankEnd]

theorem trimChars_append {c : Char} (hc : isBlank c = true) (cs : List Char) :
    trimChars (cs ++ [c]) = trimChars cs := by
  have hblank : dropBlank [c] = [] := List.dropWhile_cons_of_pos hc
  rw [trimChars, trimChars]
  by_cases hnil : dropBlank cs = []
  · have hdrop : dropBlank (cs ++ [c]) = [] := by
      rw [dropBlank, List.dropWhile_append_of_pos (List.dropWhile_eq_nil_iff.mp hnil)]
      exact hblank
    rw [hdrop, hnil]
  · have hdrop : dropBlank (cs ++ [c]) = dropBlank cs ++ [c] := by
      rw [dropBlank, List.dropWhile_append, if_neg]
      · rfl
      · rwa [List.isEmpty_iff]
    rw [hdrop, dropBlankEnd_append hc]

section Read
variable {α : Type} {f : List Char → Option α}
  (hreturn : ∀ line, f (line ++ ['\r']) = f line)
include hreturn

/-- A line reads the same whether or not a carriage return is taken off it. -/
theorem closeLine_read (line : List Char) : f (closeLine line) = f line.reverse := by
  unfold closeLine
  split
  · next line => rw [List.reverse_cons, hreturn]
  · rfl

/-- The end of a text is read like a line feed there. -/
theorem filterMap_linesFrom_feed (hnil : f [] = none) (line a : List Char) :
    (linesFrom line (a ++ ['\n'])).filterMap f = (linesFrom line a).filterMap f := by
  induction a generalizing line with
  | nil =>
    have hclose : linesFrom line ([] ++ ['\n']) = [closeLine line] := rfl
    rw [hclose]
    cases line with
    | nil => exact List.filterMap_cons_none hnil
    | cons c line =>
      have hend : linesFrom (c :: line) [] = [(c :: line).reverse] := rfl
      rw [hend, List.filterMap_cons, List.filterMap_cons, closeLine_read hreturn]
  | cons c a ih =>
    rw [List.cons_append, linesFrom, linesFrom]
    by_cases hc : c = '\n'
    · rw [if_pos hc, if_pos hc, List.filterMap_cons, List.filterMap_cons, ih]
    · rw [if_neg hc, if_neg hc, ih]

theorem filterMap_lines_feed (hnil : f [] = none) (a b : List Char) :
    (lines (a ++ '\n' :: b)).filterMap f =
      (lines a).filterMap f ++ (lines b).filterMap f := by
  rw [lines_feed, List.filterMap_append, lines, filterMap_linesFrom_feed hreturn hnil]
  rfl

end Read

end Text

namespace Json

open Text (isBlank)

theorem isDigit_of_isBlank {c : Char} (hc : isBlank c = true) : c.isDigit = false := by
  rw [Bool.eq_false_iff]
  intro hdigit
  simp only [Char.isDigit, Bool.and_eq_true, decide_eq_true_eq, ge_iff_le, UInt32.le_iff_toNat_le]
    at hdigit
  simp only [isBlank, Bool.or_eq_true, Bool.and_eq_true, decide_eq_true_eq, beq_iff_eq] at hc
  have hlow : 48 ≤ c.toNat := hdigit.1
  have hhigh : c.toNat ≤ 57 := hdigit.2
  omega

theorem readNumber_of_isBlank {c : Char} (hc : isBlank c = true) (rest : List Char) :
    readNumber (c :: rest) = none := by
  have hsign : c ≠ '-' := by
    rintro rfl
    exact absurd hc (by decide)
  have hdigits : readInteger (c :: rest) = none := by
    rw [readInteger, readDigits, digits, List.takeWhile_cons_of_neg, if_pos rfl]
    · rfl
    · rw [isDigit_of_isBlank hc]
      decide
  simp [readNumber, hsign, hdigits]

/-- White space denotes no value, be it white space to the reader or to others only. -/
theorem readChars?_of_blank {cs : List Char} (h : cs.all isBlank = true) :
    readChars? cs = none := by
  suffices hvalue : ∀ fuel, readValue (fuel + 1) cs = none by
    rw [readChars?, hvalue]
  intro fuel
  obtain ⟨hcs, -⟩ | ⟨c, rest, hspace, hcs, -⟩ := skipSpace_behind isGap_nil cs
  · rw [← readValue_skipSpace, hcs, readValue_nil]
  · have hmem : c ∈ skipSpace cs := hcs ▸ List.mem_cons_self
    have hc : isBlank c = true :=
      List.all_eq_true.mp h c ((List.dropWhile_sublist isSpace).mem hmem)
    have hne (d : Char) (hd : isBlank d = false) : c ≠ d := by
      rintro rfl
      exact absurd hc (by rw [hd]; decide)
    rw [readValue, hcs]
    split
    · next heq => exact absurd (List.cons.inj heq).1 (hne 'n' (by decide))
    · next heq => exact absurd (List.cons.inj heq).1 (hne 't' (by decide))
    · next heq => exact absurd (List.cons.inj heq).1 (hne 'f' (by decide))
    · next heq => exact absurd (List.cons.inj heq).1 (hne '"' (by decide))
    · next heq => exact absurd (List.cons.inj heq).1 (hne '[' (by decide))
    · next heq => exact absurd (List.cons.inj heq).1 (hne '\x7b' (by decide))
    · rw [readNumber_of_isBlank hc]
      rfl

end Json

namespace CompilerReport

/-- The message that a text is, if it is one. -/
def message? (text : String) : Option Entry := (Json.read? text).bind entry?

namespace Entry

/-- The message is of another type than a diagnostic, a note on a failure or the remark that ends a
report. -/
def SaysNothing (e : Entry) : Prop :=
  (∃ kind, e.kind = some kind ∧ kind ≠ "diagnostic") ∨ e.level = "failure-note" ∨
    "aborting due to".toList <+: e.message.toList

theorem isRemark_iff (e : Entry) : e.isRemark = true ↔ e.SaysNothing := by
  rw [isRemark, Bool.or_eq_true, Bool.or_eq_true, Option.any_eq_true, beq_iff_eq,
    Text.startsWith_iff, or_assoc, SaysNothing]
  simp only [bne_iff_ne]

instance (e : Entry) : Decidable e.SaysNothing := decidable_of_iff _ e.isRemark_iff

end Entry

section Lines
variable (m : SourceMap)

theorem readLine_blank {line : List Char} (h : line.all Text.isBlank = true) :
    readLine m line = none := if_pos h

theorem readLine_return (line : List Char) : readLine m (line ++ ['\r']) = readLine m line := by
  have hgap : Json.IsGap ['\r'] := by
    intro c hc
    rw [List.mem_singleton.mp hc]
    decide
  have hblank : (line ++ ['\r']).all Text.isBlank = line.all Text.isBlank := by
    rw [List.all_append]
    exact Bool.and_true _
  rw [readLine, readLine, hblank, Json.readChars?_append_gap hgap,
    Text.trimChars_append (by decide)]

/-- The parts of a report on both sides of a line feed are read each on its own. -/
theorem read_append_feed (a b : String) : read m (a ++ "\n" ++ b) = read m a ++ read m b := by
  have hfeed : "\n".toList = ['\n'] := String.toList_ofList
  rw [read, String.toList_append, String.toList_append, hfeed, List.append_assoc,
    List.singleton_append]
  exact Text.filterMap_lines_feed (readLine_return m) (readLine_blank m rfl) a.toList b.toList

theorem read_line {line : String} (h : '\n' ∉ line.toList) :
    read m line = (readLine m line.toList).toList := by
  rw [read, readChars, Text.lines_of_not_mem h]
  split_ifs with hnil
  · rw [hnil]
    rfl
  · rw [List.filterMap_cons, List.filterMap_nil]
    cases readLine m line.toList with
    | none => rfl
    | some d => rfl

section Line
variable {line : String} (h : '\n' ∉ line.toList)
include h

theorem read_blank (hblank : Text.isBlankText line = true) : read m line = [] := by
  rw [read_line m h, readLine_blank m hblank]
  rfl

theorem read_message {e : Entry} (he : message? line = some e) :
    read m line = if e.isRemark then [] else [e.diagnostic m] := by
  have hblank : ¬ line.toList.all Text.isBlank = true := by
    intro hblank
    rw [message?, Json.read?, Json.readChars?_of_blank hblank] at he
    cases he
  have hread : (Json.readChars? line.toList).bind entry? = some e := he
  rw [read_line m h, readLine, if_neg hblank, hread]
  dsimp only
  split_ifs
  · rfl
  · rfl

theorem read_text (hblank : Text.isBlankText line = false) (hnone : message? line = none) :
    read m line = [.error (Text.trim line)] := by
  have hread : (Json.readChars? line.toList).bind entry? = none := hnone
  have hblank' : ¬ line.toList.all Text.isBlank = true := by
    rw [Text.isBlankText] at hblank
    rw [hblank]
    decide
  rw [read_line m h, readLine, if_neg hblank', hread]
  rfl

end Line

end Lines

/-- A report is read line by line: what stands on both sides of a line feed is read on its own and
in order. A single line says nothing when it is blank or a message that says nothing, it is an error
in itself when it is no message, and it gives one diagnostic when it is any other message. -/
theorem report_read_by_lines (m : SourceMap) :
    (∀ a b : String, read m (a ++ "\n" ++ b) = read m a ++ read m b) ∧
    ∀ line : String, '\n' ∉ line.toList →
      (Text.isBlankText line = true → read m line = []) ∧
      (∀ e, message? line = some e → e.SaysNothing → read m line = []) ∧
      (Text.isBlankText line = false → message? line = none →
        read m line = [.error (Text.trim line)]) ∧
      (∀ e, message? line = some e → ¬ e.SaysNothing → read m line = [e.diagnostic m]) := by
  refine ⟨read_append_feed m, fun line hline => ⟨read_blank m hline, fun e he htold => ?_,
    read_text m hline, fun e he htold => ?_⟩⟩
  · rw [read_message m hline he, if_pos (e.isRemark_iff.mpr htold)]
  · rw [read_message m hline he, if_neg (mt e.isRemark_iff.mp htold)]

end CompilerReport
end TemplateBatch
