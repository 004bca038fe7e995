import TemplateBatch.Crate.Validation
import Mathlib.Data.List.Basic
import Mathlib.Data.List.Forall2

/-!
Clashes of names. The checks on a group of names judge each of its items by those before it, and by
nothing else. Class names are always identifiers, and two paths get the same one just if they differ
in erased characters only, so that the checks on a batch of templates tell exactly those whose path
is like that of a template before them.
-/
namespace TemplateBatch

namespace Crate

section Groups
variable {α : Type} (name : α → String) (bad repeated : α → Diagnostic)

/-- What is wrong with an item behind those that are before it in its group. -/
def verdict (earlier : List α) (x : α) : Option Diagnostic :=
  if Identifier.isIdentifier (name x) then
    if name x ∈ earlier.map name then some (repeated x) else none
  else some (bad x)

/-- The names that are remembered are the identifiers among those that went by. -/
def Remembers (seen : List String) (earlier : List α) : Prop :=
  ∀ n, Identifier.isIdentifier n = true → (n ∈ seen ↔ n ∈ earlier.map name)

variable {name}

theorem Remembers.skip {seen : List String} {earlier : List α} {x : α}
    (h : Remembers name seen earlier)
    (hskip : Identifier.isIdentifier (name x) = true → name x ∈ seen) :
    Remembers name seen (earlier ++ [x]) := by
  intro n hn
  rw [List.map_append, List.mem_append, ← h n hn]
  refine ⟨Or.inl, fun hmem => hmem.elim id fun hx => ?_⟩
  obtain rfl := List.mem_singleton.mp hx
  exact hskip hn

theorem Remembers.add {seen : List String} {earlier : List α} (h : Remembers name seen earlier)
    (x : α) : Remembers name (name x :: seen) (earlier ++ [x]) := by
  intro n hn
  rw [List.map_append, List.mem_append, ← h n hn, List.mem_cons, List.map_singleton,
    List.mem_singleton, or_comm]

theorem zipIdx_one (xs : List α) : xs.zipIdx 1 = xs.zipIdx.map fun s => (s.1, s.2 + 1) :=
  List.zipIdx_succ

/-- The problems of a group are the verdicts on its items in order, each by all items before it. -/
theorem problems_eq_verdicts {seen : List String} {earlier : List α}
    (h : Remembers name seen earlier) (xs : List α) :
    problems name bad repeated seen xs =
      xs.zipIdx.filterMap fun s => verdict name bad repeated (earlier ++ xs.take s.2) s.1 := by
  induction xs generalizing seen earlier with
  | nil => rfl
  | cons x xs ih =>
    have hrest : ∀ {seen}, Remembers name seen (earlier ++ [x]) →
        problems name bad repeated seen xs = (xs.zipIdx 1).filterMap fun s =>
          verdict name bad repeated (earlier ++ (x :: xs).take s.2) s.1 := by
      intro seen hseen
      rw [ih hseen, zipIdx_one, List.filterMap_map]
      refine List.filterMap_congr fun s _ => ?_
      rw [List.append_assoc, Function.comp_apply, List.take_succ_cons, List.singleton_append]
    rw [List.zipIdx_cons, List.filterMap_cons, List.take_zero, List.append_nil, problems, verdict]
    by_cases hname : Identifier.isIdentifier (name x) = true
    · by_cases hseen : name x ∈ seen
      · have hearlier := (h _ hname).mp hseen
        simp only [hname, hseen, hearlier, Bool.not_true, Bool.false_eq_true, if_false, if_true,
          List.contains_iff_mem]
        exact congrArg (_ :: ·) (hrest (h.skip fun _ => hseen))
      · have hearlier : name x ∉ earlier.map name := fun hmem => hseen ((h _ hname).mpr hmem)
        simp only [hname, hseen, hearlier, Bool.not_true, Bool.false_eq_true, if_false, if_true,
          List.contains_iff_mem]
        exact hrest (h.add x)
    · simp only [hname, Bool.not_false, Bool.false_eq_true, if_false, if_true]
      exact congrArg (_ :: ·) (hrest (h.skip fun h => absurd h hname))

theorem problems_nil_eq_verdicts (xs : List α) :
    problems name bad repeated [] xs =
      xs.zipIdx.filterMap fun s => verdict name bad repeated (xs.take s.2) s.1 := by
  have hnothing : Remembers name [] ([] : List α) := fun _ _ => Iff.rfl
  exact problems_eq_verdicts bad repeated hnothing xs

end Groups
end Crate

namespace Identifier

/-- Characters that class names do not tell apart. -/
def SameOrErased (c d : Char) : Prop :=
  c = d ∨ (Text.isAsciiAlphanumeric c = false ∧ Text.isAsciiAlphanumeric d = false)

instance : DecidableRel SameOrErased := fun _ _ => inferInstanceAs (Decidable (_ ∨ _))

/-- Paths of the same length with characters at each place that class names do not tell apart. -/
def Alike (p q : String) : Prop := List.Forall₂ SameOrErased p.toList q.toList

instance : DecidableRel Alike := fun _ _ => inferInstanceAs (Decidable (List.Forall₂ _ _ _))

theorem classChar_eq_iff (c d : Char) : classChar c = classChar d ↔ SameOrErased c d := by
  rw [classChar, classChar, SameOrErased]
  by_cases hc : Text.isAsciiAlphanumeric c = true
  · by_cases hd : Text.isAsciiAlphanumeric d = true
    · simp [hc, hd]
    · have hne : c ≠ d := fun h => hd (h ▸ hc)
      have hblot : c ≠ '_' := fun h => absurd (h ▸ hc) (by decide)
      simp [hc, hd, hne, hblot]
  · by_cases hd : Text.isAsciiAlphanumeric d = true
    · have hne : c ≠ d := fun h => hc (h ▸ hd)
      have hblot : '_' ≠ d := fun h => absurd (h ▸ hd) (by decide)
      simp [hc, hd, hne, hblot]
    · simp [hc, hd]

theorem map_classChar_eq_iff (p q : List Char) :
    p.map classChar = q.map classChar ↔ List.Forall₂ SameOrErased p q := by
  rw [← List.forall₂_eq_eq_eq, List.forall₂_map_left_iff, List.forall₂_map_right_iff]
  simp only [classChar_eq_iff]

theorem className_eq_iff (p q : String) : className p = className q ↔ Alike p q := by
  rw [className, className, String.ofList_inj, classNameChars, classNameChars,
    List.append_cancel_left_eq, map_classChar_eq_iff, Alike]

theorem continuesName_classChar (c : Char) : continuesName (classChar c) = true := by
  rw [classChar, continuesName]
  by_cases hc : Text.isAsciiAlphanumeric c = true
  · simp [hc]
  · simp [hc]

theorem isIdentifier_className (path : String) : isIdentifier (className path) = true := by
  have hstart : startsName 'T' = true := by decide
  have hblot : continuesName '_' = true := by decide
  simp [isIdentifier, className, classNameChars, isIdentifierChars, hstart, hblot,
    continuesName_classChar]

/-- Alike paths are as long as each other, and at every place their characters are equal or neither
is an ASCII letter or digit. -/
theorem alike_iff (p q : String) :
    Alike p q ↔ p.length = q.length ∧ ∀ (i : ℕ) (c d : Char),
      p.toList[i]? = some c → q.toList[i]? = some d → SameOrErased c d := by
  have hlength : p.toList.length = q.toList.length ↔ p.length = q.length := by
    rw [String.length_toList, String.length_toList]
  rw [Alike, List.forall₂_iff_get]
  refine and_congr hlength ⟨fun h i c d hc hd => ?_, fun h i hp hq => ?_⟩
  · obtain ⟨hi, rfl⟩ := List.getElem?_eq_some_iff.mp hc
    obtain ⟨hi', rfl⟩ := List.getElem?_eq_some_iff.mp hd
    exact h i hi hi'
  · exact h i _ _ (List.getElem?_eq_getElem hp) (List.getElem?_eq_getElem hq)

end Identifier

open Identifier

theorem declared_source (templates : List Template) :
    Crate.declared (templates.map Template.source) =
      templates.map fun t => (t.path, t.className) := by
  induction templates with
  | nil => rfl
  | cons t templates ih => exact congrArg (_ :: ·) ih

/-- Two paths have one class name just if they have the same length and differ only where neither
has an ASCII letter or digit. Class names are identifiers. So when the references are in order, a
batch has one problem for each template whose path is like that of a template before it, told at the
path of the later one and in the order of the batch, and no others. -/
theorem class_names_clash :
    (∀ p q : String, className p = className q ↔ p.length = q.length ∧
      ∀ (i : ℕ) (c d : Char), p.toList[i]? = some c → q.toList[i]? = some d →
        c = d ∨ (Text.isAsciiAlphanumeric c = false ∧ Text.isAsciiAlphanumeric d = false)) ∧
    (∀ p, isIdentifier (className p) = true) ∧
    ∀ (batch : List (String × String)) (references : List Reference),
      Crate.referenceProblems references = [] →
      Crate.validate (batch.map fun s => (Template.ofCode s.1 s.2).source) references =
        batch.zipIdx.filterMap fun (s : (String × String) × ℕ) =>
          if ∃ earlier ∈ batch.take s.2, Alike earlier.1 s.1.1 then
            some (Crate.repeatedRenderable s.1.1 (className s.1.1))
          else none := by
  refine ⟨fun p q => (className_eq_iff p q).trans (alike_iff p q), isIdentifier_className, ?_⟩
  intro batch references hreferences
  have hsources : batch.map (fun s => (Template.ofCode s.1 s.2).source) =
      (batch.map fun s => Template.ofCode s.1 s.2).map Template.source := by
    rw [List.map_map]
    rfl
  rw [Crate.validate, hreferences, List.nil_append, Crate.renderableProblems,
    Crate.problems_nil_eq_verdicts, hsources, declared_source, List.map_map, List.zipIdx_map,
    List.filterMap_map]
  refine List.filterMap_congr fun s _ => ?_
  have hrepeated : (∃ earlier ∈ batch.take s.2, Alike earlier.1 s.1.1) ↔
      className s.1.1 ∈ (batch.take s.2).map fun t => className t.1 := by
    simp only [List.mem_map, className_eq_iff]
  simp only [Function.comp_apply, Prod.map, Crate.verdict, Template.ofCode, isIdentifier_className,
    if_true, ← List.map_take, List.map_map, id_eq]
  exact if_congr hrepeated.symm rfl rfl

/-- Of two paths that differ in a mark only the later one is told. -/
theorem class_names_clash_sample :
    Crate.referenceProblems [.source "casing" ""] = [] ∧
    Crate.validate ([("a/b", ""), ("c", ""), ("a.b", "")].map fun s =>
        (Template.ofCode s.1 s.2).source) [.source "casing" ""] =
      [Crate.repeatedRenderable "a.b" "T_a_b"] := by
  have hreferences : Crate.referenceProblems [.source "casing" ""] = [] := by decide +kernel
  exact ⟨hreferences, (class_names_clash.2.2 _ _ hreferences).trans (by decide +kernel)⟩

end TemplateBatch
