import TemplateBatch.Compilation
import TemplateBatch.Proofs.WorkResults

/-!
Sources are never rejected in silence. Whoever gets no module from the compiler gets at least one
error: every problem with a name is one, and the report of a failed run is given one if it has none.
-/
namespace TemplateBatch

namespace Crate

theorem isError_of_mem_problems {α : Type} (name : α → String) (bad repeated : α → Diagnostic)
    (hbad : ∀ x, (bad x).isError = true) (hrepeated : ∀ x, (repeated x).isError = true)
    (seen : List String) (xs : List α) (d : Diagnostic)
    (hd : d ∈ problems name bad repeated seen xs) : d.isError = true := by
  induction xs generalizing seen with
  | nil => simp [problems] at hd
  | cons x xs ih =>
    rw [problems] at hd
    split at hd
    · rcases List.mem_cons.mp hd with rfl | hrest
      · exact hbad x
      · exact ih seen hrest
    · split at hd
      · rcases List.mem_cons.mp hd with rfl | hrest
        · exact hrepeated x
        · exact ih seen hrest
      · exact ih (name x :: seen) hd

theorem isError_of_mem_validate (sources : List Source) (references : List Reference)
    (d : Diagnostic) (hd : d ∈ validate sources references) : d.isError = true := by
  rcases List.mem_append.mp hd with hreference | hrenderable
  · exact isError_of_mem_problems _ _ _ (fun _ => rfl) (fun _ => rfl) [] references d hreference
  · exact isError_of_mem_problems _ _ _ (fun _ => rfl) (fun _ => rfl) [] _ d hrenderable

end Crate

namespace ModuleCompiler

theorem any_isError_rejection (diagnostics : List Diagnostic) (status : ExitStatus) :
    (rejection diagnostics status).any Diagnostic.isError = true := by
  rw [rejection]
  split
  · assumption
  · rw [List.any_append]
    exact Bool.or_true _

/-- The compiler gave a module or an error. -/
def Decided (r : List Diagnostic × Option CompiledModule) : Prop :=
  r.2 = none → r.1.any Diagnostic.isError = true

variable (m : Machine) (c : ModuleCompiler) (sources : List Source)

theorem yields_build (references : List Reference) (directory : Path) :
    (c.build m sources references directory).Yields Decided := by
  rw [build]
  apply Work.yields_after
  intro _
  apply Work.yields_after
  intro started
  cases started with
  | error cause => exact Work.yields_throw _ _
  | ok outcome =>
    by_cases hsuccess : outcome.status.isSuccess = true
    · simp only [hsuccess, if_true]
      apply Work.yields_after
      intro content
      exact Work.yields_pure _ _ fun h => absurd h (Option.some_ne_none _)
    · simp only [hsuccess]
      exact Work.yields_pure _ _ fun _ => any_isError_rejection _ _

theorem yields_buildInScratch (references : List Reference) :
    (c.buildInScratch m sources references).Yields Decided := by
  rw [buildInScratch]
  apply Work.yields_after
  intro w
  apply Work.yields_after
  intro _
  exact Work.yields_ensuring _ _ _ (yields_build m c sources references _)

/-- Sources that are rejected have been told an error. -/
theorem any_isError_compile (extra : List Reference) (w : World)
    (h : (c.compile m sources extra w).1.result = .ok none) :
    (c.compile m sources extra w).1.diagnostics.any Diagnostic.isError = true := by
  unfold compile at h ⊢
  cases hmissing : missing? m w.tree (c.baseline ++ extra) with
  | some reference =>
    simp only [hmissing] at h
    cases h
  | none =>
    simp only [hmissing] at h ⊢
    cases hproblems : Crate.validate sources (c.baseline ++ extra) with
    | cons d problems =>
      have hd := Crate.isError_of_mem_validate sources (c.baseline ++ extra) d
        (hproblems ▸ List.mem_cons_self)
      simp only [List.any_cons, hd, Bool.true_or]
    | nil =>
      have hyields := yields_buildInScratch m c sources (c.baseline ++ extra) w
      simp only [hproblems] at h ⊢
      rcases hrun : ExceptT.run (c.buildInScratch m sources (c.baseline ++ extra)) w with ⟨r, w'⟩
      rw [hrun] at h hyields
      cases r with
      | error e => cases h
      | ok built =>
        obtain ⟨diagnostics, result⟩ := built
        exact hyields (diagnostics, result) rfl (Except.ok.inj h)

end ModuleCompiler
end TemplateBatch
