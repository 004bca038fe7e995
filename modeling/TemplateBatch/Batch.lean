import TemplateBatch.Configuration
import TemplateBatch.Diagnostic
import TemplateBatch.OutputNames
import TemplateBatch.Runner
import TemplateBatch.Template
import TemplateBatch.Text.CodeTag

/-!
The report of a batch, and how the outcome of a run is mapped back onto its templates: each template
either has an output under a name of its own or an error that names it.
-/
namespace TemplateBatch

structure RenderedOutput where
  templatePath : String
  /-- Unique within the batch, suffix included. -/
  name : String
  text : String
  deriving DecidableEq, Repr

structure HostDiagnostic where
  id : String
  severity : Severity
  message : String
  templatePath : Option String
  deriving DecidableEq, Repr

structure BatchReport where
  templateCount : Nat
  outputs : List RenderedOutput
  diagnostics : List HostDiagnostic
  deriving DecidableEq, Repr

namespace HostDiagnostic

def runtimeMissingId : String := "RENDERGEN01"

def renderFailedId : String := "RENDERGEN02"

def compileFailedId : String := "RENDERGEN03"

def error (id message : String) (templatePath : Option String) : HostDiagnostic :=
  { id, severity := .error, message, templatePath }

def ofCompiler (d : Diagnostic) : HostDiagnostic :=
  { id := d.code.getD compileFailedId
    severity := d.severity
    message := d.display
    templatePath := d.place.map fun p => p.path.text }

def runtimeMissing : HostDiagnostic :=
  error runtimeMissingId
    ("No compatible Rust runtime was found for the template worker. Install the toolchain's "
      ++ "standard library or point " ++ Configuration.runtimeVariable ++ " at it.")
    none

def transport (text : String) : HostDiagnostic :=
  error renderFailedId ("Unexpected error while rendering templates: " ++ text) none

def notRendered (path : String) : HostDiagnostic :=
  error renderFailedId ("'" ++ path ++ "' was not rendered") (some path)

end HostDiagnostic

namespace BatchReport

def empty (templateCount : Nat) : BatchReport := ⟨templateCount, [], []⟩

def hasErrors (r : BatchReport) : Bool := r.diagnostics.any fun d => d.severity == .error

def addOutput (r : BatchReport) (o : RenderedOutput) : BatchReport :=
  { r with outputs := r.outputs ++ [o] }

def addDiagnostic (r : BatchReport) (d : HostDiagnostic) : BatchReport :=
  { r with diagnostics := r.diagnostics ++ [d] }

def outputText (options : OutputOptions) (text : String) : String :=
  if options.stripCodeTags then Text.stripCodeTags text else text

/-- The report after the templates that are left, with the names given so far. -/
def correlateFrom (response : Response) (options : OutputOptions) :
    OutputNames → BatchReport → List Template → BatchReport
  | _, report, [] => report
  | names, report, t :: templates =>
    match response.text? t.className with
    | none =>
      correlateFrom response options names (report.addDiagnostic (.notRendered t.path)) templates
    | some text =>
      let (name, names') := names.reserve t.fileStem
      correlateFrom response options names'
        (report.addOutput
          { templatePath := t.path
            name := name ++ options.outputSuffix
            text := outputText options text })
        templates

/-- The report with the outcome of the run of all templates. -/
def correlate (templates : List Template) (outcome : RunOutcome) (options : OutputOptions)
    (report : BatchReport) : BatchReport :=
  match outcome with
  | .success response => correlateFrom response options .empty report templates
  | .runtimeMissing => report.addDiagnostic .runtimeMissing
  | .transportError text => report.addDiagnostic (.transport text)

end BatchReport
end TemplateBatch
