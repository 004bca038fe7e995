import TemplateBatch.Bundle
import TemplateBatch.Machine

/-!
Where a host puts its worker: a directory that holds the worker program and its run configuration.
-/
namespace TemplateBatch.Staging

inductive StageError where
  | resource (cause : ResourceError)
  | location (detail : String)
  | system (path : Path) (cause : SystemError)
  deriving DecidableEq, Repr

def StageError.message : StageError → String
  | .resource cause => "Worker artifact unavailable: " ++ cause.message
  | .location detail => "Cannot locate staging directory: " ++ detail
  | .system path cause => "Failed to stage " ++ path.text ++ ": " ++ cause.message

inductive Artifact where
  | executable
  | configuration
  deriving DecidableEq, Repr

structure Layout where
  directory : Path
  deriving DecidableEq, Repr

namespace Layout

def executablePath (l : Layout) : Path := l.directory.join Bundle.workerFileName

def configurationPath (l : Layout) : Path := l.directory.join Bundle.configurationFileName

def path (l : Layout) : Artifact → Path
  | .executable => l.executablePath
  | .configuration => l.configurationPath

/-- The directory of the host's own program. -/
def besideHost (m : Machine) : Except StageError Layout :=
  match m.executable.parent? with
  | some directory => .ok ⟨directory⟩
  | none => .error (.location (m.executable.text ++ " has no parent"))

end Layout

/-- What is to be staged. -/
structure Stock where
  executable : Bytes
  configuration : Bytes
  deriving DecidableEq, Repr

namespace Stock

def ofBundle (b : Bundle) : Except ResourceError Stock :=
  match b.require Bundle.workerResource with
  | .error e => .error e
  | .ok executable =>
    match b.require Bundle.configurationResource with
    | .error e => .error e
    | .ok configuration => .ok { executable, configuration }

def content (s : Stock) : Artifact → Bytes
  | .executable => s.executable
  | .configuration => s.configuration

end Stock
end TemplateBatch.Staging
