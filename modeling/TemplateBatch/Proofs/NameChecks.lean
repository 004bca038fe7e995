import TemplateBatch.Proofs.NameClashes
import TemplateBatch.Proofs.NameMatching

/-!
What the checks on names tell. A name may be declared when it is a segment other than the lone
underscore. The checks find nothing just when all names of both groups may be declared and none
comes twice in its group, and else they tell each occurrence that is in doubt, once and in order.
-/
namespace TemplateBatch

namespace Crate

open Identifier

section Groups
variable {α β : Type} (name : α → String) (bad repeated : α → Diagnostic)

theorem problems_of_declarable (seen : List String) (xs : List α)
    (h : ∀ x ∈ xs, isIdentifier (name x) = true ∧ name x ∉ seen) (hnodup : (xs.map name).Nodup) :
    problems name bad repeated seen xs = [] := by
  induction xs generalizing seen with
  | nil => rfl
  | cons x xs ih =>
    rw [List.forall_mem_cons] at h
    rw [List.map_cons, List.nodup_cons] at hnodup
    have hseen : seen.contains (name x) = false := by simpa using h.1.2
    rw [problems, h.1.1, hseen]
    refine ih (name x :: seen) (fun y hy => ⟨(h.2 y hy).1, ?_⟩) hnodup.2
    rw [List.mem_cons, not_or]
    exact ⟨fun heq => hnodup.1 (heq ▸ List.mem_map_of_mem hy), (h.2 y hy).2⟩

theorem problems_eq_nil_iff (xs : List α) :
    problems name bad repeated [] xs = [] ↔
      (∀ x ∈ xs, IsDeclarable (name x)) ∧ (xs.map name).Nodup := by
  constructor
  · intro h
    obtain ⟨hnames, hnodup⟩ := accepted_of_problems name bad repeated [] xs h
    exact ⟨fun x hx => (isIdentifier_iff _).mp (hnames x hx).1, hnodup⟩
  · rintro ⟨hnames, hnodup⟩
    refine problems_of_declarable name bad repeated [] xs (fun x hx => ⟨?_, ?_⟩) hnodup
    · exact (isIdentifier_iff _).mpr (hnames x hx)
    · exact List.not_mem_nil

/-- The verdicts on the items of a group behind others, in order. -/
def verdicts (earlier xs : List α) : List Diagnostic :=
  xs.zipIdx.filterMap fun s => verdict name bad repeated (earlier ++ xs.take s.2) s.1

theorem verdicts_append (earlier xs ys : List α) :
    verdicts name bad repeated earlier (xs ++ ys) =
      verdicts name bad repeated earlier xs ++ verdicts name bad repeated (earlier ++ xs) ys := by
  rw [verdicts, List.zipIdx_append, List.filterMap_append, Nat.zero_add]
  congr 1
  · refine List.filterMap_congr fun s hs => ?_
    have hlt := List.snd_lt_of_mem_zipIdx hs
    rw [List.take_append_of_le_length (by omega)]
  · rw [List.zipIdx_eq_map_add, List.filterMap_map, verdicts]
    refine List.filterMap_congr fun s _ => ?_
    rw [Function.comp_apply, List.take_length_add_append, List.append_assoc]

/-- Items that are declared in groups of their own are judged by the groups before theirs and by
the items before them in it. -/
theorem verdicts_flatMap (f : β → List α) (earlier : List α) (ys : List β) :
    verdicts name bad repeated earlier (ys.flatMap f) = ys.zipIdx.flatMap fun y =>
      verdicts name bad repeated (earlier ++ (ys.take y.2).flatMap f) (f y.1) := by
  induction ys generalizing earlier with
  | nil => rfl
  | cons y ys ih =>
    rw [List.flatMap_cons, verdicts_append, ih, List.zipIdx_cons, List.flatMap_cons, List.take_zero,
      List.flatMap_nil, List.append_nil, zipIdx_one, List.flatMap_map]
    simp only [List.take_succ_cons, List.flatMap_cons, List.append_assoc]

end Groups

theorem renderableProblems_declared (sources : List Source) :
    renderableProblems (declared sources) = sources.zipIdx.flatMap fun s =>
      s.1.renderables.zipIdx.filterMap fun n =>
        if ¬ IsDeclarable n.1 then some (badRenderable s.1.path n.1)
        else if (∃ before ∈ sources.take s.2, n.1 ∈ before.renderables) ∨
            n.1 ∈ s.1.renderables.take n.2 then
          some (repeatedRenderable s.1.path n.1)
        else none := by
  rw [renderableProblems, problems_nil_eq_verdicts]
  refine (verdicts_flatMap _ _ _ _ [] sources).trans (List.flatMap_congr fun s _ => ?_)
  rw [verdicts, List.zipIdx_map, List.filterMap_map]
  refine List.filterMap_congr fun n _ => ?_
  have hearlier : n.1 ∈ (([] ++ (sources.take s.2).flatMap fun s : Source =>
        s.renderables.map fun name => (s.path, name)) ++
        (s.1.renderables.map fun name => (s.1.path, name)).take n.2).map Prod.snd ↔
      (∃ before ∈ sources.take s.2, n.1 ∈ before.renderables) ∨ n.1 ∈ s.1.renderables.take n.2 := by
    simp [List.map_flatMap, ← List.map_take]
  simp only [Function.comp_apply, Prod.map, id_eq, verdict, isIdentifier_iff, hearlier, ite_not]

theorem referenceProblems_eq (references : List Reference) :
    referenceProblems references = references.zipIdx.filterMap fun r =>
      if ¬ IsDeclarable r.1.name then some (badReference r.1.name)
      else if r.1.name ∈ (references.take r.2).map Reference.name then
        some (repeatedReference r.1.name)
      else none := by
  rw [referenceProblems, problems_nil_eq_verdicts]
  refine List.filterMap_congr fun r _ => ?_
  simp only [verdict, isIdentifier_iff, ite_not]

theorem validate_eq_nil_iff (sources : List Source) (references : List Reference) :
    validate sources references = [] ↔
      (∀ r ∈ references, IsDeclarable r.name) ∧ (references.map Reference.name).Nodup ∧
      (∀ s ∈ sources, ∀ name ∈ s.renderables, IsDeclarable name) ∧
      (sources.flatMap Source.renderables).Nodup := by
  have hnames : (declared sources).map Prod.snd = sources.flatMap Source.renderables := by
    simp [declared, List.map_flatMap, Function.comp_def]
  have hmem : (∀ r ∈ declared sources, IsDeclarable r.2) ↔
      ∀ s ∈ sources, ∀ name ∈ s.renderables, IsDeclarable name := by
    simp only [declared, List.forall_mem_flatMap, List.forall_mem_map]
  rw [validate, List.append_eq_nil_iff, referenceProblems, problems_eq_nil_iff,
    renderableProblems, problems_eq_nil_iff, hnames, hmem, and_assoc]

/-- The checks find nothing just when all names of references and of renderables may be declared
and are distinct in their group. They tell the references first and the renderables then, in the
order of declaration: each name that may not be declared, and each other name that was declared
before in its group. What is told of a renderable is told at the path of the source that declares
it. -/
theorem validate_exact (sources : List Source) (references : List Reference) :
    (validate sources references = [] ↔
      (∀ r ∈ references, IsDeclarable r.name) ∧ (references.map Reference.name).Nodup ∧
      (∀ s ∈ sources, ∀ name ∈ s.renderables, IsDeclarable name) ∧
      (sources.flatMap Source.renderables).Nodup) ∧
    validate sources references =
      (references.zipIdx.filterMap fun r =>
        if ¬ IsDeclarable r.1.name then some (badReference r.1.name)
        else if r.1.name ∈ (references.take r.2).map Reference.name then
          some (repeatedReference r.1.name)
        else none) ++
      (sources.zipIdx.flatMap fun s => s.1.renderables.zipIdx.filterMap fun n =>
        if ¬ IsDeclarable n.1 then some (badRenderable s.1.path n.1)
        else if (∃ before ∈ sources.take s.2, n.1 ∈ before.renderables) ∨
            n.1 ∈ s.1.renderables.take n.2 then
          some (repeatedRenderable s.1.path n.1)
        else none) ∧
    ∀ path name,
      (badRenderable path name).place = some ⟨⟨path⟩, 1, 1⟩ ∧
      (repeatedRenderable path name).place = some ⟨⟨path⟩, 1, 1⟩ := by
  refine ⟨validate_eq_nil_iff sources references, ?_, fun _ _ => ⟨rfl, rfl⟩⟩
  rw [validate, referenceProblems_eq, renderableProblems_declared]

end Crate
end TemplateBatch
