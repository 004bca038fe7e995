import TemplateBatch.Worker.Bootstrap
import TemplateBatch.Worker.Serve

/-!
The worker as a program. A missing runtime has an exit code of its own and says nothing; any other
failure is told on the error channel, and only a served request on the output.
-/
namespace TemplateBatch.Worker

def runtimeMissingCode : Nat := 150

def failureCode : Nat := 1

/-- How a run of the worker ended. -/
structure Ending where
  code : Nat
  output : Bytes
  errors : String
  events : List Event
  /-- Whether the worker had anything to write to its log. -/
  logged : Bool

/-- The libraries that a runtime asks for before those of the request. -/
def Runtime.preload (r : Runtime) : List Path := r.standardLibrary.toList

/-- A failure and its causes on one line. -/
def failureText (e : WorkerError) : String :=
  Text.join ": " ("rendergen worker failed" :: e.message :: e.causes)

/-- The runtime of the worker that stands at `executable`, if the system can say where that is. -/
def resolveRuntime (words : Wording) (t : FileTree) (base : Location) (vs : Variables)
    (executable : Except SystemError Path) : Except BootstrapError Runtime :=
  match executable with
  | .error cause => .error (.unlocated cause)
  | .ok path => bootstrap words t base vs path

def run (words : Wording) (loader : Loader) (t : FileTree) (base : Location)
    (vs : Variables) (executable : Except SystemError Path) (input : Bytes) : Ending :=
  match resolveRuntime words t base vs executable with
  | .error e =>
    if e.isRuntimeMissing then ⟨runtimeMissingCode, [], "", [], true⟩
    else ⟨failureCode, [], e.message, [], false⟩
  | .ok runtime =>
    let served := serve words loader t base runtime.preload input
    match served.result with
    | .ok () => ⟨0, served.output, "", served.events, true⟩
    | .error e => ⟨failureCode, served.output, failureText e, served.events, true⟩

/-- The worker started like any other program. It leaves the files alone. -/
def program (words : Wording) (loader : Loader) : Program := fun invocation t =>
  let ending :=
    run words loader t invocation.directory invocation.environment (.ok invocation.executable)
      invocation.input
  { status := .exited ending.code
    output := ending.output
    errors := Text.Utf8.encode ending.errors
    tree := t }

end TemplateBatch.Worker
