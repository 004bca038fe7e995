import TemplateBatch.CommandLine.Failure
import TemplateBatch.CommandLine.Job
import TemplateBatch.Configuration.Document

/-!
The command that renders a batch: it reads the configuration, the worker and the templates, renders
them through a pipeline, writes what came out and then tells the diagnostics.
-/
namespace TemplateBatch.CommandLine

/-- What a command leaves behind: its exit code and what it wrote to its two channels. -/
structure Ending where
  code : Nat
  output : String
  errors : String
  deriving DecidableEq, Repr

namespace Ending

def silent : Ending := ⟨0, "", ""⟩

def failed (f : Failure) : Ending := ⟨1, "", f.text⟩

end Ending

/-- The configuration of a file under the overrides of the environment. -/
def loadConfiguration (m : Machine) (path : Option Path) : Work Failure Configuration := do
  let c ←
    match path with
    | none => pure {}
    | some p => do
      Work.ofExcept .configuration (Configuration.load (← getThe World).tree m.directory p)
  Work.ofExcept .configuration (c.override m.environment.get?)

/-- The resources to stage; there must be a worker among them. -/
def loadBundle (m : Machine) (worker : Option Path) : Work Failure Bundle := do
  let b ←
    match worker with
    | none => pure Bundle.embedded
    | some p => do
      let content ← Work.reading (.worker p) fun t => t.read m.directory p
      pure (Bundle.embedded.insertWorker content)
  if b.hasWorker then return b else throw .noWorker

/-- The templates among files, each of which must be readable whether it is one or not. -/
def loadTemplates (m : Machine) (extension : String) : List Path → Work Failure (List Template)
  | [] => return []
  | p :: ps => do
    let text ← Work.reading (.template p) fun t => t.readText m.directory p
    let rest ← loadTemplates m extension ps
    if isTemplateCandidate p text extension then return Template.ofCode p.text text :: rest
    else return rest

def writeOutput (m : Machine) (directory : Path) (o : RenderedOutput) : Work Failure Unit :=
  let p := directory.join o.name
  Work.changing (.output p) fun t => t.write m.directory p (Text.Utf8.encode o.text)

/-- Write all outputs; without any the directory is not made either. -/
def writeOutputs (m : Machine) (directory : Path) (os : List RenderedOutput) :
    Work Failure Unit := do
  if os = [] then return ()
  Work.altering (.outputDirectory directory) fun t => t.makePath m.directory directory
  os.forM (writeOutput m directory)

def diagnosticJson (d : HostDiagnostic) : Json :=
  .record
    [("id", .text d.id), ("severity", .text d.severity.text), ("message", .text d.message),
      ("template_path", (d.templatePath.map Json.text).getD .null)]

def diagnosticLine (d : HostDiagnostic) : String :=
  d.severity.text ++ "[" ++ d.id ++ "]"
    ++ ((d.templatePath.map fun path => " " ++ path).getD "") ++ ": " ++ d.message

def reportEnding (r : BatchReport) (json : Bool) : Ending where
  code := if r.hasErrors then 1 else 0
  output :=
    if json then String.join (r.diagnostics.map fun d => (diagnosticJson d).compact ++ "\n") else ""
  errors :=
    if json then "" else String.join (r.diagnostics.map fun d => diagnosticLine d ++ "\n")

def renderTemplates (m : Machine) (job : RenderJob) (c : Configuration) (b : Bundle)
    (templates : List Template) : Work Failure Ending := do
  let p ← Work.mapError .host (Pipeline.ofConfiguration m c b)
  let p := job.externals.foldl (fun p e => p.withReference (.external e.1 e.2)) p
  let (report, _) ← Work.mapError .host (p.renderBatch m templates)
  writeOutputs m job.outputDirectory report.outputs
  return reportEnding report job.json

def render (m : Machine) (job : RenderJob) : Work Failure Ending := do
  let c ← loadConfiguration m job.configuration
  let b ← loadBundle m job.worker
  let templates ← loadTemplates m c.output.templateExtension job.files
  if templates = [] then return .silent else renderTemplates m job c b templates

end TemplateBatch.CommandLine
