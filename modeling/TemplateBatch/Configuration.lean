import TemplateBatch.Path
import TemplateBatch.SystemError

/-!
The configuration of a host and the variables of the environment that override it.
-/
namespace TemplateBatch

/-- How modules get the standard library: linked into each, or shared and found at load time. -/
inductive Linkage where
  | static
  | dynamic
  deriving DecidableEq, Repr

def Linkage.text : Linkage → String
  | .static => "static"
  | .dynamic => "dynamic"

def Linkage.choices : List (String × Linkage) := [("static", .static), ("dynamic", .dynamic)]

structure CompilerOptions where
  edition : String := "2021"
  optimization : String := "0"
  linkage : Linkage := .static
  deriving DecidableEq, Repr

structure OutputOptions where
  templateExtension : String := "rtpl"
  outputSuffix : String := ".rs"
  stripCodeTags : Bool := true
  formatCode : Bool := false
  deriving DecidableEq, Repr

structure Configuration where
  /-- The compiler to run, looked up by its usual name when absent. -/
  compiler : Option Path := none
  options : CompilerOptions := {}
  /-- Where the worker is staged, beside the host when absent. -/
  stagingDirectory : Option Path := none
  /-- A further place where the worker looks for the shared standard library. -/
  runtimeDirectory : Option Path := none
  output : OutputOptions := {}
  deriving DecidableEq, Repr

inductive ConfigurationError where
  | unreadable (path : Path) (cause : SystemError)
  | malformed (path : String)
  | invalidValue (key value : String)
  deriving DecidableEq, Repr

def ConfigurationError.message : ConfigurationError → String
  | .unreadable path cause => "failed to read config file " ++ path.text ++ ": " ++ cause.message
  | .malformed path => "failed to parse config file " ++ path
  | .invalidValue key value => "invalid value for " ++ key ++ ": " ++ value

namespace Configuration

def compilerVariable : String := "RENDERGEN_RUSTC"

def stagingVariable : String := "RENDERGEN_STAGING_DIR"

def runtimeVariable : String := "RENDERGEN_RUNTIME_DIR"

def formatVariable : String := "RENDERGEN_FORMAT_CODE"

/-- A switch in the environment; a blank one is off. -/
def switch? (value : String) : Option Bool :=
  let v := Text.lowerAscii (Text.trim value)
  if ["1", "true", "yes", "on"].contains v then some true
  else if ["0", "false", "no", "off", ""].contains v then some false
  else none

/-- A variable that counts only when it is not empty. -/
def pathOr (value : Option String) (otherwise : Option Path) : Option Path :=
  match value with
  | some "" => otherwise
  | some v => some ⟨v⟩
  | none => otherwise

/-- The configuration under the overrides that `lookup` finds. -/
def override (c : Configuration) (lookup : String → Option String) :
    Except ConfigurationError Configuration :=
  let c :=
    { c with
      compiler := pathOr (lookup compilerVariable) c.compiler
      stagingDirectory := pathOr (lookup stagingVariable) c.stagingDirectory
      runtimeDirectory := pathOr (lookup runtimeVariable) c.runtimeDirectory }
  match lookup formatVariable with
  | none => .ok c
  | some value =>
    match switch? value with
    | some b => .ok { c with output := { c.output with formatCode := b } }
    | none => .error (.invalidValue formatVariable value)

end Configuration
end TemplateBatch
