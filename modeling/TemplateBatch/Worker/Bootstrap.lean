import TemplateBatch.Machine
import TemplateBatch.RunConfiguration
import TemplateBatch.Text.Quoted
import TemplateBatch.Toolchain
import TemplateBatch.Worker.Wording

/-!
What a worker does before it reads its request: it loads the run configuration beside it and, when
modules share the standard library, looks for that in the configured directories and then in those
that the environment names. Only this decides that the runtime is missing.
-/
namespace TemplateBatch.Worker

inductive BootstrapError where
  /-- The worker cannot tell where it stands itself. -/
  | unlocated (cause : SystemError)
  | unreadable (path : Path) (cause : SystemError)
  | malformed (path : Path) (cause : String)
  | runtimeMissing (name : String) (searched : List Path)
  deriving DecidableEq, Repr

namespace BootstrapError

def message : BootstrapError → String
  | .unlocated cause => "Cannot locate worker executable: " ++ cause.message
  | .unreadable path cause =>
    "Invalid run configuration " ++ path.text ++ ": " ++ cause.message
  | .malformed path cause => "Invalid run configuration " ++ path.text ++ ": " ++ cause
  | .runtimeMissing name searched =>
    "Runtime '" ++ name ++ "' not found (searched "
      ++ Text.quotedList (searched.map Path.text) ++ ")"

def isRuntimeMissing : BootstrapError → Bool
  | .runtimeMissing .. => true
  | _ => false

end BootstrapError

structure Runtime where
  configuration : RunConfiguration
  /-- The shared standard library, to be loaded before anything else. -/
  standardLibrary : Option Path
  deriving DecidableEq, Repr

/-- The run configuration at `path`; without the file nothing is required. -/
def loadRunConfiguration (words : Wording) (t : FileTree) (base : Location) (path : Path) :
    Except BootstrapError RunConfiguration :=
  match t.readText base path with
  | .ok text =>
    match RunConfiguration.ofText? text with
    | some c => .ok c
    | none => .error (.malformed path (words.configuration text))
  | .error .notFound => .ok {}
  | .error cause => .error (.unreadable path cause)

/-- The directories that a list separated by colons names. -/
def splitDirectories (s : String) : List Path :=
  (Text.split (· == ':') s.toList).map Path.ofChars

def extraDirectories (vs : Variables) : List Path :=
  match vs.get? Configuration.runtimeVariable with
  | some s => splitDirectories s
  | none => []

/-- The runtime that a configuration asks for, searched in its own directories and then in
`extra`. -/
def resolve (t : FileTree) (base : Location) (c : RunConfiguration) (extra : List Path) :
    Except BootstrapError Runtime :=
  match c.linkage with
  | .static => .ok ⟨c, none⟩
  | .dynamic =>
    let searched := c.searchDirectories ++ extra
    match searched.findSome? (findStandardLibrary t base) with
    | some library => .ok ⟨c, some library⟩
    | none => .error (.runtimeMissing c.name searched)

def bootstrap (words : Wording) (t : FileTree) (base : Location) (vs : Variables)
    (executable : Path) : Except BootstrapError Runtime :=
  match loadRunConfiguration words t base (RunConfiguration.beside executable) with
  | .error e => .error e
  | .ok c => resolve t base c (extraDirectories vs)

end TemplateBatch.Worker
