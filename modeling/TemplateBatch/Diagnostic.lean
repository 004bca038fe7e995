import TemplateBatch.Json.Decoder
import TemplateBatch.Path

/-!
Messages about the sources of a module, each with a severity and perhaps a place.
-/
namespace TemplateBatch

inductive Severity where
  | error
  | warning
  | info
  deriving DecidableEq, Repr

def Severity.text : Severity → String
  | .error => "error"
  | .warning => "warning"
  | .info => "info"

def Severity.choices : List (String × Severity) :=
  [("error", .error), ("warning", .warning), ("info", .info)]

structure Place where
  path : Path
  line : Nat
  column : Nat
  deriving DecidableEq, Repr

structure Diagnostic where
  severity : Severity
  /-- The compiler's own code for the message. -/
  code : Option String := none
  message : String
  place : Option Place := none
  /-- The message as the compiler laid it out. -/
  rendered : Option String := none
  deriving DecidableEq, Repr

namespace Diagnostic

def error (message : String) : Diagnostic := { severity := .error, message }

/-- The message about a place. -/
def located (d : Diagnostic) (path : Path) (line column : Nat) : Diagnostic :=
  { d with place := some ⟨path, line, column⟩ }

def isError (d : Diagnostic) : Bool := d.severity == .error

def placeText : Option Place → String
  | some p => p.path.text ++ ":" ++ toString p.line ++ ":" ++ toString p.column ++ ": "
  | none => ""

def codeText : Option String → String
  | some code => "[" ++ code ++ "]"
  | none => ""

def display (d : Diagnostic) : String :=
  placeText d.place ++ d.severity.text ++ codeText d.code ++ ": " ++ d.message

def place? (j : Json) : Option Place := do
  match ← Json.fields? ["path", "line", "column"] j with
  | [path, line, column] =>
    let path ← path.required? Json.text?
    let line ← line.required? Json.natural?
    let column ← column.required? Json.natural?
    return { path := ⟨path⟩, line, column }
  | _ => none

def ofJson? (j : Json) : Option Diagnostic := do
  match ← Json.fields? ["severity", "code", "message", "location", "rendered"] j with
  | [severity, code, message, place, rendered] =>
    let severity ← severity.required? (Json.oneOf? Severity.choices)
    let code ← code.optional? Json.text?
    let message ← message.required? Json.text?
    let place ← place.optional? place?
    let rendered ← rendered.optional? Json.text?
    return { severity, code, message, place, rendered }
  | _ => none

end Diagnostic
end TemplateBatch
