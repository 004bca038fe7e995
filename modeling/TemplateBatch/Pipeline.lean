import TemplateBatch.Batch
import TemplateBatch.Compilation
import TemplateBatch.Runner
import TemplateBatch.RunConfiguration

/-!
Batches from end to end: build a module of the templates, run it, map the answer back and format the
outputs if asked to. One pipeline serves all batches of a host.
-/
namespace TemplateBatch

inductive HostError where
  | resource (cause : ResourceError)
  | configuration (cause : ConfigurationError)
  | compile (text : String)
  | stage (text : String)
  | transport (text : String)
  deriving DecidableEq, Repr

namespace HostError

def message : HostError → String
  | .resource cause => "RESOURCE/" ++ cause.message
  | .configuration cause => "CONFIG/" ++ cause.message
  | .compile text => "COMPILE/" ++ text
  | .stage text => "STAGE/" ++ text
  | .transport text => "TRANSPORT/" ++ text

def ofCompile : CompileError → HostError
  | .resource cause => .resource cause
  | e => .compile e.message

def ofStage : Staging.StageError → HostError
  | .resource cause => .resource cause
  | e => .stage e.message

def ofRunner : RunnerError → HostError
  | .stage cause => ofStage cause
  | e => .transport e.message

end HostError

structure Pipeline where
  compiler : ModuleCompiler
  runner : Runner
  output : OutputOptions
  references : List Reference
  deriving DecidableEq, Repr

namespace Pipeline

/-- The run configuration for shared modules: the configured directory, and then the one of the
toolchain. Static modules keep the bundled one. -/
def workerConfiguration? (c : Configuration) (libraryDirectory : Path) : Option RunConfiguration :=
  match c.options.linkage with
  | .static => none
  | .dynamic => some (.dynamic (c.runtimeDirectory.toList ++ [libraryDirectory]))

/-- The bundle that is staged for a configuration. -/
def workerBundle (c : Configuration) (libraryDirectory : Path) (b : Bundle) : Bundle :=
  match workerConfiguration? c libraryDirectory with
  | some r => b.insertConfiguration (Text.Utf8.encode r.toText)
  | none => b

def layout (m : Machine) (c : Configuration) : Except Staging.StageError Staging.Layout :=
  match c.stagingDirectory with
  | some d => .ok ⟨d⟩
  | none => Staging.Layout.besideHost m

/-- A pipeline for a configuration, with the worker resources of a bundle. -/
def ofConfiguration (m : Machine) (c : Configuration) (b : Bundle) : Work HostError Pipeline := do
  let compiler ← Work.mapError .ofCompile (ModuleCompiler.ofConfiguration m c)
  let layout ← Work.ofExcept .ofStage (layout m c)
  let bundle := workerBundle c compiler.toolchain.libraryDirectory b
  let (stager, w) := Staging.Stager.create m layout bundle (← getThe World)
  set w
  return {
    compiler
    runner := { stager, runtimeDirectory := c.runtimeDirectory }
    output := c.output
    references := [] }

/-- The pipeline with one more reference for every batch. -/
def withReference (p : Pipeline) (r : Reference) : Pipeline :=
  { p with references := p.references ++ [r] }

/-- The formatter that stands beside the compiler, or else the one on the search path. -/
def formatter (m : Machine) (t : FileTree) (compiler : Path) : Path :=
  match if compiler.isRooted then compiler.parent? else none with
  | some d => if t.exists? m.directory (d.join "rustfmt") then d.join "rustfmt" else ⟨"rustfmt"⟩
  | none => ⟨"rustfmt"⟩

/-- The text as the formatter gives it back; unchanged when the formatter fails. -/
def formatText (m : Machine) (formatter : Path) (edition text : String) (w : World) :
    String × World :=
  let command : Command :=
    { program := formatter
      arguments := ["--edition", edition, "--emit", "stdout"]
      input := Text.Utf8.encode text }
  match command.run m w with
  | (.ok ended, w') =>
    match ended.status.isSuccess, Text.Utf8.decode? ended.output with
    | true, some formatted => (formatted, w')
    | _, _ => (text, w')
  | (.error _, w') => (text, w')

def formatOutputs (m : Machine) (formatter : Path) (edition : String) :
    List RenderedOutput → World → List RenderedOutput × World
  | [], w => ([], w)
  | o :: os, w =>
    let (text, w') := formatText m formatter edition o.text w
    let (os', w'') := formatOutputs m formatter edition os w'
    ({ o with text } :: os', w'')

def format (m : Machine) (p : Pipeline) (report : BatchReport) (w : World) : BatchReport × World :=
  if p.output.formatCode then
    let program := formatter m w.tree p.compiler.toolchain.compiler
    let (outputs, w') := formatOutputs m program p.compiler.options.edition report.outputs w
    ({ report with outputs }, w')
  else (report, w)

def runtimePaths (p : Pipeline) : List Path := p.references.filterMap Reference.runtimePath?

/-- Run a module and map the outcome onto the templates that it was built from. -/
def renderModule (m : Machine) (p : Pipeline) (templates : List Template) (built : CompiledModule)
    (report : BatchReport) : Work HostError (BatchReport × Pipeline) := do
  let (outcome, runner) ← Work.mapError .ofRunner (p.runner.run m built p.runtimePaths)
  let p := { p with runner }
  let correlated := BatchReport.correlate templates outcome p.output report
  let (report, w) := p.format m correlated (← getThe World)
  set w
  return (report, p)

/-- Render a batch. The pipeline that comes back serves the next one. -/
def renderBatch (m : Machine) (p : Pipeline) (templates : List Template) :
    Work HostError (BatchReport × Pipeline) := do
  let report := BatchReport.empty templates.length
  if templates = [] then return (report, p)
  else
    let (compilation, w) :=
      p.compiler.compile m (templates.map Template.source) p.references (← getThe World)
    set w
    match compilation.result with
    | .error e => throw (.ofCompile e)
    | .ok none =>
      return ({ report with diagnostics := compilation.diagnostics.map .ofCompiler }, p)
    | .ok (some built) => p.renderModule m templates built report

end Pipeline
end TemplateBatch
