import TemplateBatch.Proofs.Delivery
import TemplateBatch.Proofs.WireFormat

/-!
Diagnostics told as JSON. Each of them is an object on a line of its own, in the order of the
report: whatever its texts hold, the object is written without a line feed, and the diagnostic is
read back from it with nothing changed.
-/
namespace TemplateBatch

namespace HostDiagnostic

/-- The diagnostic that a JSON object tells; all four members must be there, the path of the template
being null where there is none. -/
def ofJson? (j : Json) : Option HostDiagnostic := do
  match ← Json.fields? ["id", "severity", "message", "template_path"] j with
  | [id, severity, message, path] =>
    let id ← id.required? Json.text?
    let severity ← severity.required? (Json.oneOf? Severity.choices)
    let message ← message.required? Json.text?
    let templatePath ← path.required? (Json.nullable? Json.text?)
    return { id, severity, message, templatePath }
  | _ => none

end HostDiagnostic

namespace CommandLine

def pathJson (path : Option String) : Json := (path.map Json.text).getD .null

theorem textual_pathJson (path : Option String) : Json.Textual (pathJson path) := by
  cases path with
  | none => exact Json.Textual.null
  | some path => exact Json.textual_text path

theorem textual_diagnosticJson (d : HostDiagnostic) : Json.Textual (diagnosticJson d) := by
  apply Json.textual_record
  intro m hm
  simp only [List.mem_cons, List.not_mem_nil, or_false] at hm
  rcases hm with rfl | rfl | rfl | rfl
  · exact Json.textual_text d.id
  · exact Json.textual_text d.severity.text
  · exact Json.textual_text d.message
  · exact textual_pathJson d.templatePath

theorem nullable?_pathJson (path : Option String) :
    Json.nullable? Json.text? (pathJson path) = some path := by
  cases path with
  | none => rfl
  | some path =>
    have htext : (Json.text path).text? = some path := Json.text?_text path
    rw [pathJson, Option.map_some, Option.getD_some, Json.text, Json.nullable?]
    · rw [← Json.text, htext]
      rfl
    · intro h
      exact Json.noConfusion h

theorem oneOf?_severity (severity : Severity) :
    Json.oneOf? Severity.choices (.text severity.text) = some severity := by
  cases severity <;> decide

theorem ofJson?_diagnosticJson (d : HostDiagnostic) :
    HostDiagnostic.ofJson? (diagnosticJson d) = some d := by
  have hfields := Json.fields?_record
    [("id", .text d.id), ("severity", .text d.severity.text), ("message", .text d.message),
      ("template_path", pathJson d.templatePath)] (by simp)
  simp only [List.map_cons, List.map_nil] at hfields
  have hjson : diagnosticJson d = .record [("id", .text d.id), ("severity", .text d.severity.text),
    ("message", .text d.message), ("template_path", pathJson d.templatePath)] := rfl
  simp [HostDiagnostic.ofJson?, hjson, hfields, Json.Field.required?, Json.text?_text,
    oneOf?_severity, nullable?_pathJson]

/-- The line tells the diagnostic: it is an object, from which the diagnostic can be read. -/
def Tells (line : List Char) (d : HostDiagnostic) : Prop :=
  ∃ members, Json.readChars? line = some (.object members) ∧
    HostDiagnostic.ofJson? (.object members) = some d

theorem tells_diagnosticJson (d : HostDiagnostic) : Tells (diagnosticJson d).compactChars d := by
  have hread := Json.read?_compact (diagnosticJson d) (textual_diagnosticJson d)
  rw [Json.read?, Json.compact, String.toList_ofList] at hread
  exact ⟨_, hread, ofJson?_diagnosticJson d⟩

theorem toList_output (r : BatchReport) :
    (reportEnding r true).output.toList =
      (r.diagnostics.map fun d => (diagnosticJson d).compactChars).flatMap fun line =>
        line ++ ['\n'] := by
  simp [reportEnding, String.toList_join, List.flatMap_map, Json.compact]

/-- A text that tells the diagnostics line by line: cut at its line feeds it has one line for each
of them, in order, and nothing behind the last line feed. -/
def TellsByLines (output : String) (diagnostics : List HostDiagnostic) : Prop :=
  ∃ lines, Text.split (· == '\n') output.toList = lines ++ [[]] ∧
    List.Forall₂ Tells lines diagnostics

theorem tellsByLines_output (r : BatchReport) :
    TellsByLines (reportEnding r true).output r.diagnostics := by
  refine ⟨r.diagnostics.map fun d => (diagnosticJson d).compactChars, ?_, ?_⟩
  · rw [toList_output]
    apply Text.split_lines
    intro line hline
    obtain ⟨d, -, rfl⟩ := List.mem_map.mp hline
    exact Json.feed_not_mem_compactChars _ (textual_diagnosticJson d)
  · rw [List.forall₂_map_left_iff, List.forall₂_same]
    exact fun d _ => tells_diagnosticJson d

/-- Whatever a report holds, the text that is told of it as JSON has one line for each diagnostic, in
order, from which that diagnostic can be read. A command that is to tell its diagnostics so has told
those of the report that it came to, unless it failed. -/
theorem diagnostics_told_by_lines :
    (∀ r : BatchReport, TellsByLines (reportEnding r true).output r.diagnostics) ∧
    ∀ (m : Machine) (w : World) (job : RenderJob),
      let ending := (perform m w (.render { job with json := true })).1
      (∃ failure, ending = .failed failure) ∨
        ∃ r before, (renderReport m job).Gives w r before ∧ ending = reportEnding r true ∧
          TellsByLines ending.output r.diagnostics := by
  refine ⟨tellsByLines_output, fun m w job => ?_⟩
  intro ending
  refine (perform_render_cases m w { job with json := true }).imp_right ?_
  rintro ⟨r, before, hreport, -, hending⟩
  have hreported : ending = reportEnding r true := hending
  refine ⟨r, before, hreport, hreported, ?_⟩
  rw [hreported]
  exact tellsByLines_output r

end CommandLine
end TemplateBatch
