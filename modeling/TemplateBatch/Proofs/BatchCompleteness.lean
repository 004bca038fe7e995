import TemplateBatch.Pipeline
import TemplateBatch.Proofs.OutputNames
import TemplateBatch.Proofs.Rejection

/-!
No template is lost in silence. A report without errors holds one output for each template of its
batch, in the order of the batch and under names of their own, whatever compiler, worker and
formatter did.
-/
namespace TemplateBatch

namespace BatchReport

/-- Outputs follow the batch under distinct names, and are complete just when there is no error. -/
structure Accounts (templates : List Template) (r : BatchReport) : Prop where
  nodup : (r.outputs.map RenderedOutput.name).Nodup
  inOrder : (r.outputs.map RenderedOutput.templatePath).Sublist (templates.map Template.path)
  complete : r.hasErrors = false ↔
    r.outputs.map RenderedOutput.templatePath = templates.map Template.path

theorem hasErrors_iff (r : BatchReport) :
    r.hasErrors = true ↔ ∃ d ∈ r.diagnostics, d.severity = .error := by
  simp [hasErrors, List.any_eq_true]

theorem accounts_of_error (templates : List Template) (r : BatchReport)
    (hoccupied : templates ≠ []) (houtputs : r.outputs = []) (herror : r.hasErrors = true) :
    Accounts templates r := by
  refine ⟨?_, ?_, ?_⟩
  · rw [houtputs]
    exact List.nodup_nil
  · rw [houtputs]
    exact List.nil_sublist _
  · rw [houtputs, herror]
    constructor
    · exact fun h => absurd h (by simp)
    · exact fun h => absurd (List.map_eq_nil_iff.mp h.symm) hoccupied

theorem accounts_empty (n : ℕ) : Accounts [] (empty n) :=
  ⟨List.nodup_nil, List.Sublist.refl [], by simp [empty, hasErrors]⟩

section Correlation
variable (response : Response) (options : OutputOptions)

/-- The response has a text for the template. -/
def isAnswered (t : Template) : Bool := (response.text? t.className).isSome

/-- A template gets an output when it was answered, and an error when it was not. -/
theorem correlateFrom_cons (names : OutputNames) (report : BatchReport) (t : Template)
    (templates : List Template) :
    (isAnswered response t = false ∧
      correlateFrom response options names report (t :: templates) =
        correlateFrom response options names (report.addDiagnostic (.notRendered t.path))
          templates) ∨
    (isAnswered response t = true ∧ ∃ text,
      correlateFrom response options names report (t :: templates) =
        correlateFrom response options (names.reserve t.fileStem).2
          (report.addOutput
            ⟨t.path, (names.reserve t.fileStem).1 ++ options.outputSuffix, text⟩)
          templates) := by
  rw [isAnswered, correlateFrom]
  cases response.text? t.className with
  | none => exact Or.inl ⟨rfl, rfl⟩
  | some text => exact Or.inr ⟨rfl, outputText options text, rfl⟩

variable (names : OutputNames) (report : BatchReport) (templates : List Template)

/-- The templates that were answered have the outputs. -/
theorem paths_correlateFrom :
    (correlateFrom response options names report templates).outputs.map
        RenderedOutput.templatePath =
      report.outputs.map RenderedOutput.templatePath ++
        (templates.filter (isAnswered response)).map Template.path := by
  induction templates generalizing names report with
  | nil => simp [correlateFrom]
  | cons t templates ih =>
    rcases correlateFrom_cons response options names report t templates with
      ⟨hanswered, hstep⟩ | ⟨hanswered, text, hstep⟩
    · rw [hstep, ih, List.filter_cons_of_neg (by simp [hanswered])]
      rfl
    · rw [hstep, ih, List.filter_cons_of_pos hanswered]
      simp [addOutput]

/-- The others have an error each. -/
theorem diagnostics_correlateFrom :
    (correlateFrom response options names report templates).diagnostics =
      report.diagnostics ++ (templates.filter fun t => !isAnswered response t).map fun t =>
        .notRendered t.path := by
  induction templates generalizing names report with
  | nil => simp [correlateFrom]
  | cons t templates ih =>
    rcases correlateFrom_cons response options names report t templates with
      ⟨hanswered, hstep⟩ | ⟨hanswered, text, hstep⟩
    · rw [hstep, ih, List.filter_cons_of_pos (by simp [hanswered])]
      simp [addDiagnostic]
    · rw [hstep, ih, List.filter_cons_of_neg (by simp [hanswered])]
      rfl

/-- Outputs are named for the stems of the templates that were answered. -/
theorem names_correlateFrom :
    (correlateFrom response options names report templates).outputs.map RenderedOutput.name =
      report.outputs.map RenderedOutput.name ++
        (names.answers ((templates.filter (isAnswered response)).map Template.fileStem)).map
          fun name => name ++ options.outputSuffix := by
  induction templates generalizing names report with
  | nil => simp [correlateFrom, OutputNames.answers]
  | cons t templates ih =>
    rcases correlateFrom_cons response options names report t templates with
      ⟨hanswered, hstep⟩ | ⟨hanswered, text, hstep⟩
    · rw [hstep, ih, List.filter_cons_of_neg (by simp [hanswered])]
      rfl
    · rw [hstep, ih, List.filter_cons_of_pos hanswered]
      simp [addOutput, OutputNames.answers]

theorem nodup_names_correlateFrom (n : ℕ) :
    ((correlateFrom response options .empty (empty n) templates).outputs.map
      RenderedOutput.name).Nodup := by
  have hanswers := OutputNames.nodup_answers .empty
    ((templates.filter (isAnswered response)).map Template.fileStem) List.nodup_nil
  have hsuffix : Function.Injective fun name => name ++ options.outputSuffix := by
    intro a b h
    exact (String.append_left_inj _).mp h
  rw [names_correlateFrom]
  exact hanswers.map hsuffix

theorem hasErrors_correlateFrom (n : ℕ) :
    (correlateFrom response options .empty (empty n) templates).hasErrors = false ↔
      ∀ t ∈ templates, isAnswered response t = true := by
  rw [hasErrors, diagnostics_correlateFrom]
  simp [empty, HostDiagnostic.notRendered, HostDiagnostic.error]

theorem accounts_correlateFrom (n : ℕ) :
    Accounts templates (correlateFrom response options .empty (empty n) templates) := by
  have hpaths := paths_correlateFrom response options .empty (empty n) templates
  have hnone : (empty n).outputs.map RenderedOutput.templatePath = [] := rfl
  rw [hnone, List.nil_append] at hpaths
  refine ⟨nodup_names_correlateFrom response options templates n, ?_, ?_⟩
  · rw [hpaths]
    exact List.filter_sublist.map Template.path
  · rw [hasErrors_correlateFrom, hpaths]
    constructor
    · intro hall
      rw [List.filter_eq_self.mpr hall]
    · intro heq
      have hlength := congrArg List.length heq
      rw [List.length_map, List.length_map] at hlength
      exact List.filter_eq_self.mp (List.filter_sublist.eq_of_length hlength)

end Correlation

theorem accounts_correlate (n : ℕ) (templates : List Template) (outcome : RunOutcome)
    (options : OutputOptions) (hoccupied : templates ≠ []) :
    Accounts templates (correlate templates outcome options (empty n)) := by
  cases outcome with
  | success response => exact accounts_correlateFrom response options templates n
  | runtimeMissing => exact accounts_of_error templates _ hoccupied rfl rfl
  | transportError text => exact accounts_of_error templates _ hoccupied rfl rfl

end BatchReport

namespace Pipeline

open BatchReport

variable (m : Machine) (p : Pipeline)

theorem formatOutputs_kept {α : Type} (f : RenderedOutput → α)
    (hf : ∀ o text, f { o with text } = f o) (program : Path) (edition : String)
    (outputs : List RenderedOutput) (w : World) :
    (formatOutputs m program edition outputs w).1.map f = outputs.map f := by
  induction outputs generalizing w with
  | nil => rfl
  | cons o outputs ih =>
    simp only [formatOutputs, List.map_cons, ih, hf]

theorem accounts_format (templates : List Template) (report : BatchReport) (w : World)
    (h : Accounts templates report) : Accounts templates (p.format m report w).1 := by
  rw [format]
  by_cases hformat : p.output.formatCode = true
  · rw [if_pos hformat]
    have hkept := fun {α : Type} (f : RenderedOutput → α) hf => formatOutputs_kept m f hf
      (formatter m w.tree p.compiler.toolchain.compiler) p.compiler.options.edition
      report.outputs w
    refine ⟨?_, ?_, ?_⟩
    · rw [hkept RenderedOutput.name fun _ _ => rfl]
      exact h.nodup
    · rw [hkept RenderedOutput.templatePath fun _ _ => rfl]
      exact h.inOrder
    · rw [hkept RenderedOutput.templatePath fun _ _ => rfl]
      exact h.complete
  · rw [if_neg hformat]
    exact h

variable (templates : List Template)

theorem yields_renderModule (built : CompiledModule) (n : ℕ) (hoccupied : templates ≠ []) :
    (p.renderModule m templates built (empty n)).Yields fun r => Accounts templates r.1 := by
  rw [renderModule]
  apply Work.yields_after
  intro ran
  apply Work.yields_after
  intro w
  apply Work.yields_after
  intro _
  apply Work.yields_pure
  exact accounts_format m _ templates _ w
    (accounts_correlate n templates ran.1 p.output hoccupied)

theorem hasErrors_of_compiler (n : ℕ) (diagnostics : List Diagnostic)
    (h : diagnostics.any Diagnostic.isError = true) :
    BatchReport.hasErrors ⟨n, [], diagnostics.map .ofCompiler⟩ = true := by
  obtain ⟨d, hd, herror⟩ := List.any_eq_true.mp h
  rw [hasErrors, List.any_map]
  exact List.any_eq_true.mpr ⟨d, hd, herror⟩

theorem yields_renderBatch :
    (p.renderBatch m templates).Yields fun r => Accounts templates r.1 := by
  rw [renderBatch]
  by_cases hempty : templates = []
  · rw [if_pos hempty]
    apply Work.yields_pure
    rw [hempty]
    exact accounts_empty 0
  · rw [if_neg hempty]
    apply Work.yields_after
    intro w
    have hrejected := ModuleCompiler.any_isError_compile m p.compiler
      (templates.map Template.source) p.references w
    rcases hcompile : p.compiler.compile m (templates.map Template.source) p.references w with
      ⟨⟨diagnostics, result⟩, w'⟩
    rw [hcompile] at hrejected
    apply Work.yields_after
    intro _
    cases result with
    | error e => exact Work.yields_throw _ _
    | ok built =>
      cases built with
      | none =>
        apply Work.yields_pure
        exact accounts_of_error templates _ hempty rfl
          (hasErrors_of_compiler templates.length diagnostics (hrejected rfl))
      | some built => exact yields_renderModule m p templates built templates.length hempty

/-- A report without errors is complete, and one that is not complete has an error. -/
theorem renderBatch_complete (w : World) :
    (∃ e, (ExceptT.run (p.renderBatch m templates) w).1 = .error e) ∨
    ∃ report p', (ExceptT.run (p.renderBatch m templates) w).1 = .ok (report, p') ∧
      (report.hasErrors = false ↔
        report.outputs.map RenderedOutput.templatePath = templates.map Template.path) ∧
      (report.outputs.map RenderedOutput.name).Nodup ∧
      (report.outputs.map RenderedOutput.templatePath).Sublist (templates.map Template.path) ∧
      (report.outputs.map RenderedOutput.templatePath ≠ templates.map Template.path →
        ∃ d ∈ report.diagnostics, d.severity = .error) := by
  cases hresult : (ExceptT.run (p.renderBatch m templates) w).1 with
  | error e => exact Or.inl ⟨e, rfl⟩
  | ok r =>
    have h := yields_renderBatch m p templates w r hresult
    refine Or.inr ⟨r.1, r.2, rfl, h.complete, h.nodup, h.inOrder, fun hmissing => ?_⟩
    rw [← hasErrors_iff, ← Bool.not_eq_false]
    exact fun hnone => hmissing (h.complete.mp hnone)

end Pipeline
end TemplateBatch
