import TemplateBatch.Compilation
import TemplateBatch.Launch
import TemplateBatch.Message.Request
import TemplateBatch.Message.Response
import TemplateBatch.Staging.Stager

/-!
Running a module in a fresh worker. Callers see an outcome only; exit codes and error output are
turned into it here. The file that holds the module is gone when a run ends, however it ends.
-/
namespace TemplateBatch

inductive RunOutcome where
  | success (response : Response)
  /-- The worker found no runtime that its modules can use. -/
  | runtimeMissing
  | transportError (text : String)
  deriving DecidableEq, Repr

inductive RunnerError where
  | stage (cause : Staging.StageError)
  | system (cause : SystemError)
  deriving DecidableEq, Repr

def RunnerError.message : RunnerError → String
  | .stage cause => cause.message
  | .system cause => "Failed to write module: " ++ cause.message

structure Runner where
  stager : Staging.Stager
  /-- A further directory where workers look for the runtime. -/
  runtimeDirectory : Option Path
  deriving DecidableEq, Repr

namespace Runner

/-- The exit code that is kept for a missing runtime. -/
def runtimeMissingCode : Nat := 150

/-- What an ended worker came to. A missing runtime goes before everything; after that any error
output, an unsuccessful end and a response that cannot be read are errors, in this order. -/
def classify (status : ExitStatus) (output errors : Bytes) : RunOutcome :=
  if status = .exited runtimeMissingCode then .runtimeMissing
  else if errors ≠ [] then .transportError (Text.Utf8.decodeLossy errors)
  else
    match status with
    | .exited 0 =>
      match Response.ofText (Text.Utf8.decodeLossy output) with
      | .ok r => .success r
      | .error e => .transportError e.message
    | .exited code => .transportError ("worker exited with code " ++ toString code)
    | .signaled _ _ => .transportError "worker was terminated by a signal"

def startFailure (worker : Path) : Launch.Failure Staging.StageError → String
  | .notRestaged cause => "failed to restage worker: " ++ cause.message
  | .notStarted cause => "failed to start worker " ++ worker.text ++ ": " ++ cause.message

def workerCommand (r : Runner) (line : String) : Command :=
  { program := r.stager.layout.executablePath
    environment :=
      match r.runtimeDirectory with
      | some d => [(Configuration.runtimeVariable, d.text)]
      | none => []
    input := Text.Utf8.encode line }

/-- Give a request to a staged worker and take what comes back. -/
def exchange (m : Machine) (r : Runner) (line : String) (w : World) : RunOutcome × World :=
  let command := r.workerCommand line
  let restage := fun w =>
    match (r.stager.restage m).run w with
    | (.ok _, w') => (Except.ok (), w')
    | (.error e, w') => (.error e, w')
  match Launch.start (command.run m) restage w with
  | (.ok ended, w') => (classify ended.status ended.output ended.errors, w')
  | (.error e, w') => (.transportError (startFailure command.program e), w')

def moduleName (k : Nat) : String := "rendergen-module-" ++ Machine.serial k ++ ".so"

/-- Write a module to a file of its own. A file that cannot be written is removed again. -/
def writeModule (m : Machine) (content : Bytes) : Work RunnerError Path := do
  let path := m.freshPath (← getThe World) m.temporary moduleName
  Work.changing .system fun t => t.createNew m.directory path Staging.temporaryMode
  Work.recovering (Work.changing .system fun t => t.write m.directory path content)
    (World.trying fun t => t.removeFile m.directory path)
  return path

/-- Stage the worker and have it render the module at `path`. -/
def runFile (m : Machine) (r : Runner) (path : Path) (references : List Path) :
    Work RunnerError (RunOutcome × Runner) := do
  let stager ← Work.mapError .stage (r.stager.stage m)
  let r := { r with stager }
  let request : Request := { compiled := path, references }
  let outcome ← ExceptT.mk fun w =>
    let (outcome, w') := r.exchange m request.toLine w
    (.ok outcome, w')
  return (outcome, r)

/-- Render every template in a module. The libraries in `references` are loaded before it. -/
def run (m : Machine) (r : Runner) (built : CompiledModule) (references : List Path) :
    Work RunnerError (RunOutcome × Runner) := do
  let path ← writeModule m built.content
  Work.ensuring (r.runFile m path references)
    (World.trying fun t => t.removeFile m.directory path)

end Runner
end TemplateBatch
