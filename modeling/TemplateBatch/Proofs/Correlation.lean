import TemplateBatch.Proofs.BatchCompleteness
import Mathlib.Data.List.Forall2

/-!
The outcome of a run is parted among the templates of its batch. A template whose type the response
names has one output, any other one error, and both lists follow the batch. Names are given to the
outputs only, as if the templates without one had not been in the batch at all.
-/
namespace TemplateBatch

namespace Response

/-- The first item under a class name has this text. -/
def FirstText (r : Response) (className text : String) : Prop :=
  ∃ before after, r.items = before ++ ⟨className, text⟩ :: after ∧
    ∀ item ∈ before, item.className ≠ className

/-- Some item stands under the class name. -/
def Mentions (r : Response) (className : String) : Prop :=
  ∃ item ∈ r.items, item.className = className

instance (r : Response) (className : String) : Decidable (r.Mentions className) :=
  inferInstanceAs (Decidable (∃ item ∈ r.items, item.className = className))

theorem firstText_of_text? (r : Response) (className text : String)
    (h : r.text? className = some text) : r.FirstText className text := by
  obtain ⟨item, hfind, rfl⟩ := Option.map_eq_some_iff.mp h
  obtain ⟨hname, before, after, hitems, hbefore⟩ := List.find?_eq_some_iff_append.mp hfind
  obtain rfl : item.className = className := by simpa using hname
  exact ⟨before, after, hitems, fun other hother => by simpa using hbefore other hother⟩

theorem mentions_iff (r : Response) (className : String) :
    r.Mentions className ↔ (r.text? className).isSome = true := by
  simp [Mentions, text?]

end Response

namespace BatchReport

section Correlation
variable (response : Response) (options : OutputOptions) (templates : List Template)

/-- The output `o` was made for the template from the first item under its class name. -/
structure Renders (t : Template) (o : RenderedOutput) : Prop where
  templatePath_eq : o.templatePath = t.path
  text_eq : ∃ text, response.FirstText t.className text ∧
    o.text = if options.stripCodeTags then Text.stripCodeTags text else text

theorem isAnswered_eq (t : Template) :
    isAnswered response t = decide (response.Mentions t.className) := by
  rw [isAnswered, Bool.eq_iff_iff, decide_eq_true_iff, Response.mentions_iff]

theorem outputs_correlateFrom (names : OutputNames) (report : BatchReport) :
    ∃ outputs, (correlateFrom response options names report templates).outputs =
        report.outputs ++ outputs ∧
      List.Forall₂ (Renders response options) (templates.filter (isAnswered response))
        outputs := by
  induction templates generalizing names report with
  | nil => exact ⟨[], (List.append_nil _).symm, List.Forall₂.nil⟩
  | cons t templates ih =>
    rw [correlateFrom]
    cases htext : response.text? t.className with
    | none =>
      have hanswered : ¬ isAnswered response t = true := by simp [isAnswered, htext]
      rw [List.filter_cons_of_neg hanswered]
      exact ih names (report.addDiagnostic (.notRendered t.path))
    | some text =>
      have hanswered : isAnswered response t = true := by simp [isAnswered, htext]
      obtain ⟨outputs, houtputs, hrest⟩ := ih (names.reserve t.fileStem).2
        (report.addOutput
          ⟨t.path, (names.reserve t.fileStem).1 ++ options.outputSuffix, outputText options text⟩)
      refine ⟨_ :: outputs, houtputs.trans (List.append_assoc _ _ _), ?_⟩
      rw [List.filter_cons_of_pos hanswered]
      refine List.Forall₂.cons ⟨rfl, text, ?_, rfl⟩ hrest
      exact response.firstText_of_text? t.className text htext

end Correlation

/-- After a run that answered, each template of the batch either has an output or an error, in the
order of the batch. After any other run there is one error and nothing else. -/
theorem correlate_partition (n : ℕ) (templates : List Template) (options : OutputOptions) :
    (∀ response : Response,
      let report := correlate templates (.success response) options (empty n)
      let rendered := templates.filter fun t => response.Mentions t.className
      let missing := templates.filter fun t => ¬ response.Mentions t.className
      List.Forall₂ (Renders response options) rendered report.outputs ∧
      report.outputs.map RenderedOutput.name =
        (OutputNames.empty.answers (rendered.map Template.fileStem)).map
          (fun name => name ++ options.outputSuffix) ∧
      report.diagnostics = missing.map (fun t =>
        ⟨"RENDERGEN02", .error, "'" ++ t.path ++ "' was not rendered", some t.path⟩) ∧
      report.outputs.length + report.diagnostics.length = templates.length) ∧
    (∃ message, correlate templates .runtimeMissing options (empty n) =
      ⟨n, [], [⟨"RENDERGEN01", .error, message, none⟩]⟩) ∧
    ∀ text, correlate templates (.transportError text) options (empty n) =
      ⟨n, [], [⟨"RENDERGEN02", .error,
        "Unexpected error while rendering templates: " ++ text, none⟩]⟩ := by
  refine ⟨?_, ⟨_, rfl⟩, fun text => rfl⟩
  intro response report rendered missing
  have hrendered : templates.filter (isAnswered response) = rendered :=
    List.filter_congr fun t _ => isAnswered_eq response t
  have hmissing : (templates.filter fun t => !isAnswered response t) = missing := by
    apply List.filter_congr
    intro t _
    rw [isAnswered_eq, decide_not]
  obtain ⟨outputs, houtputs, hrenders⟩ :=
    outputs_correlateFrom response options templates .empty (empty n)
  have hnames := names_correlateFrom response options .empty (empty n) templates
  have hdiagnostics : report.diagnostics = missing.map fun t => .notRendered t.path := by
    rw [← hmissing]
    exact diagnostics_correlateFrom response options .empty (empty n) templates
  rw [hrendered] at hrenders hnames
  replace houtputs : report.outputs = outputs := houtputs
  refine ⟨houtputs ▸ hrenders, hnames, hdiagnostics, ?_⟩
  have hlength : templates.length = rendered.length + missing.length := by
    rw [← hrendered, ← hmissing]
    exact List.length_eq_length_filter_add _
  rw [hlength, houtputs, hdiagnostics, ← hrenders.length_eq, List.length_map]

end BatchReport
end TemplateBatch
