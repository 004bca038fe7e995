import Mathlib.Data.List.SplitBy
import TemplateBatch.Proofs.TextPieces
import TemplateBatch.Text.Words

/-!
Where an identifier is cut into words. Its letters and numbers stand in runs, which end at any other
character and where an upper-case letter follows a lower-case letter or a number. The words are the
runs in lower case, so nothing of a letter or number is lost and nothing is said twice.
-/
namespace TemplateBatch.Text

/-- Behind such a character an upper-case letter begins a word. -/
def endsPart (c : Char) : Bool := isLowercase c || isNumeric c

/-- `d` goes on with the word that `c` is the last character of. -/
def continuesWord (c d : Char) : Bool := !(isUppercase d && endsPart c)

/-- The letters and numbers of a text as they stand together in words. -/
def wordRuns (cs : List Char) : List (List Char) :=
  (split (fun c => !isAlphanumeric c) cs).flatMap (List.splitBy continuesWord)

/-- A text in lower case, character by character. -/
def lowered (cs : List Char) : List Char := cs.flatMap toLowercase

/-- Letters and numbers that stand together in one word. -/
structure IsRun (run : List Char) : Prop where
  alphanumeric : ∀ c ∈ run, isAlphanumeric c = true
  isChain : run.IsChain fun c d => continuesWord c d = true

theorem toLowercase_ne_nil (c : Char) : toLowercase c ≠ [] := by
  have hexpansions : ∀ e ∈ lowerExpansions, e.2 ≠ [] := by decide
  rw [toLowercase, mapCase]
  split
  · exact List.cons_ne_nil _ _
  · split
    · rename_i e hfind
      rw [Ne, List.map_eq_nil_iff]
      exact hexpansions e (List.mem_of_find?_eq_some hfind)
    · split <;> exact List.cons_ne_nil _ _

theorem lowered_eq_nil_iff {cs : List Char} : lowered cs = [] ↔ cs = [] := by
  cases cs with
  | nil => simp [lowered]
  | cons c cs => simp [lowered, toLowercase_ne_nil]

theorem lowered_concat (cs : List Char) (c : Char) :
    lowered (cs ++ [c]) = lowered cs ++ toLowercase c := by
  rw [lowered, List.flatMap_append, List.flatMap_singleton]
  rfl

theorem isRun_nil : IsRun [] := ⟨by simp, List.isChain_nil⟩

theorem isRun_concat {run : List Char} {c : Char} (h : IsRun run) (hc : isAlphanumeric c = true)
    (hcontinues : ∀ last ∈ run.getLast?, continuesWord last c = true) : IsRun (run ++ [c]) := by
  constructor
  · intro d hd
    rcases List.mem_append.mp hd with hrun | hlast
    · exact h.alphanumeric d hrun
    · rw [List.mem_singleton.mp hlast]
      exact hc
  · rw [List.isChain_append]
    refine ⟨h.isChain, List.isChain_singleton c, fun last hlast d hd => ?_⟩
    rw [← Option.some.inj hd]
    exact hcontinues last hlast

theorem IsRun.uncut {run : List Char} (h : IsRun run) : ∀ c ∈ run, (!isAlphanumeric c) = false := by
  intro c hc
  rw [h.alphanumeric c hc]
  rfl

theorem wordRuns_run {run : List Char} (h : IsRun run) :
    wordRuns run = if run = [] then [] else [run] := by
  rw [wordRuns, split_of_uncut _ _ h.uncut, List.flatMap_singleton]
  split_ifs with hnil
  · rw [hnil]
    rfl
  · exact List.splitBy_of_isChain hnil h.isChain

theorem wordRuns_append_other (a b : List Char) {c : Char} (hc : isAlphanumeric c = false) :
    wordRuns (a ++ c :: b) = wordRuns a ++ wordRuns b := by
  have hcut : (!isAlphanumeric c) = true := by rw [hc]; rfl
  rw [wordRuns, split_append _ a b c hcut, List.flatMap_append]
  rfl

/-- A run ends where the next letter does not go on with its word. -/
theorem wordRuns_append_cut {run : List Char} {last c : Char} (h : IsRun run)
    (hlast : run.getLast? = some last) (hc : isAlphanumeric c = true)
    (hcut : continuesWord last c = false) (rest : List Char) :
    wordRuns (run ++ c :: rest) = run :: wordRuns (c :: rest) := by
  obtain ⟨piece, pieces, hrest⟩ :=
    List.exists_cons_of_ne_nil (split_ne_nil (fun d => !isAlphanumeric d) rest)
  have hbehind : split (fun d => !isAlphanumeric d) (c :: rest) = (c :: piece) :: pieces := by
    rw [split, hrest, hc]
    rfl
  have hborder : ∀ d ∈ run.getLast?, continuesWord d c = false := by simpa [hlast] using hcut
  have hne : run ≠ [] := by
    rintro rfl
    cases hlast
  rw [wordRuns, split_uncut_append _ h.uncut hbehind, List.flatMap_cons,
    List.splitBy_append_cons piece hborder, List.splitBy_of_isChain hne h.isChain, wordRuns,
    hbehind, List.flatMap_cons]
  rfl

theorem flatten_wordRuns (cs : List Char) : (wordRuns cs).flatten = cs.filter isAlphanumeric := by
  have hpieces (ps : List (List Char)) :
      (ps.flatMap (List.splitBy continuesWord)).flatten = ps.flatten := by
    simp [List.flatMap_def, List.flatten_flatten, Function.comp_def]
  rw [wordRuns, hpieces, flatten_split]
  simp

theorem ne_nil_of_mem_wordRuns {cs run : List Char} (h : run ∈ wordRuns cs) : run ≠ [] := by
  obtain ⟨_, _, hrun⟩ := List.mem_flatMap.mp h
  exact List.ne_nil_of_mem_splitBy hrun

section Scanner
variable (current : List Char) (afterLower : Bool) {c : Char} (rest : List Char)

/-- A character that is neither letter nor number ends the current word, if there is one. -/
theorem wordsFrom_other (hc : isAlphanumeric c = false) :
    wordsFrom current afterLower (c :: rest) =
      wordsFrom current afterLower [] ++ wordsFrom [] false rest := by
  rw [wordsFrom, wordsFrom, hc, if_neg Bool.false_ne_true]
  cases current <;> rfl

theorem wordsFrom_continued (hc : isAlphanumeric c = true)
    (hcontinues : (isUppercase c && afterLower) = false) :
    wordsFrom current afterLower (c :: rest) =
      wordsFrom (current ++ toLowercase c) (endsPart c) rest := by
  rw [wordsFrom, if_pos hc, hcontinues, Bool.false_and, if_neg Bool.false_ne_true]
  rfl

theorem wordsFrom_cut (hc : isAlphanumeric c = true)
    (hcut : (isUppercase c && afterLower) = true) (hcurrent : current ≠ []) :
    wordsFrom current afterLower (c :: rest) =
      current :: wordsFrom (toLowercase c) (endsPart c) rest := by
  rw [wordsFrom, if_pos hc, hcut, if_pos (by simpa using hcurrent)]
  rfl

end Scanner

theorem continuesWord_iff {c d : Char} :
    continuesWord c d = true ↔ (isUppercase d && endsPart c) = false := by
  rw [continuesWord, Bool.not_eq_true']

theorem wordsFrom_nil {run : List Char} (h : IsRun run) (afterLower : Bool) :
    wordsFrom (lowered run) afterLower [] = (wordRuns run).map lowered := by
  rw [wordRuns_run h, wordsFrom]
  by_cases hnil : run = []
  · simp [hnil, lowered]
  · simp [hnil, lowered_eq_nil_iff]

/-- While the scanner is in a run, its current word is the lower case of what it has read of it. It
gives the runs of that together with all that it has still to read. -/
theorem wordsFrom_run {run : List Char} (h : IsRun run) (cs : List Char) :
    wordsFrom (lowered run) (run.getLast?.any endsPart) cs =
      (wordRuns (run ++ cs)).map lowered := by
  induction cs generalizing run with
  | nil => rw [List.append_nil, wordsFrom_nil h]
  | cons c cs ih =>
    cases hc : isAlphanumeric c with
    | false =>
      have hbehind : wordsFrom [] false cs = (wordRuns cs).map lowered := ih isRun_nil
      rw [wordsFrom_other _ _ _ hc, wordsFrom_nil h, hbehind, wordRuns_append_other run cs hc,
        List.map_append]
    | true =>
      have hgoes (before : List Char) (hrun : IsRun (before ++ [c])) :
          wordsFrom (lowered before ++ toLowercase c) (endsPart c) cs =
            (wordRuns (before ++ c :: cs)).map lowered := by
        have hread := ih hrun
        rwa [lowered_concat, List.getLast?_concat, List.append_assoc] at hread
      by_cases hcontinues : ∀ last ∈ run.getLast?, continuesWord last c = true
      · rw [wordsFrom_continued _ _ _ hc, hgoes run (isRun_concat h hc hcontinues)]
        cases hlast : run.getLast? with
        | none => exact Bool.and_false _
        | some last => exact continuesWord_iff.mp (hcontinues last hlast)
      · obtain ⟨last, hlast, hcut⟩ : ∃ last, run.getLast? = some last ∧
            continuesWord last c = false := by
          simpa using hcontinues
        have hborder : (isUppercase c && run.getLast?.any endsPart) = true := by
          rw [hlast]
          simpa [continuesWord] using hcut
        have hword : lowered run ≠ [] := by
          rw [Ne, lowered_eq_nil_iff]
          rintro rfl
          cases hlast
        have hbehind := hgoes [] (isRun_concat isRun_nil hc (by simp))
        rw [wordsFrom_cut _ _ _ hc hborder hword, wordRuns_append_cut h hlast hc hcut,
          List.map_cons]
        exact congrArg (lowered run :: ·) hbehind

theorem words_eq_runs (cs : List Char) : words cs = (wordRuns cs).map lowered :=
  wordsFrom_run isRun_nil cs

theorem flatten_lowered (runs : List (List Char)) :
    (runs.map lowered).flatten = lowered runs.flatten := by
  rw [lowered, List.flatten_eq_flatMap (L := runs), List.flatMap_assoc, List.flatMap_def]
  rfl

/-- The words of a text are its runs in lower case. None is empty, and one behind the other they are
the lower case of all letters and numbers of the text. -/
theorem words_conserve (s : String) :
    words s.toList = (wordRuns s.toList).map lowered ∧
      [] ∉ words s.toList ∧
      (words s.toList).flatten = (s.toList.filter isAlphanumeric).flatMap toLowercase := by
  have hruns := words_eq_runs s.toList
  refine ⟨hruns, ?_, ?_⟩
  · intro hnil
    rw [hruns] at hnil
    obtain ⟨run, hrun, hempty⟩ := List.mem_map.mp hnil
    exact ne_nil_of_mem_wordRuns hrun (lowered_eq_nil_iff.mp hempty)
  · rw [hruns, flatten_lowered, flatten_wordRuns]
    rfl

/-- A letter whose lower case is two characters begins a word like any other. -/
example : words "aİZ9İ".toList = ["a".toList, "i̇z9".toList, "i̇".toList] := by decide +kernel

end TemplateBatch.Text
