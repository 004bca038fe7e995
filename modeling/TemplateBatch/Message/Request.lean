import TemplateBatch.Json.Decoder
import TemplateBatch.Json.Printer
import TemplateBatch.Json.Reader
import TemplateBatch.Path

/-!
The request that a worker reads: one line that names the module and the libraries to load first.
-/
namespace TemplateBatch

structure Request where
  compiled : Path
  references : List Path
  deriving DecidableEq, Repr

namespace Request

def path? (j : Json) : Option Path := j.text?.map fun t => ⟨t⟩

def ofJson? (j : Json) : Option Request := do
  match ← Json.fields? ["AssemblyPath", "References"] j with
  | [compiled, references] =>
    let compiled ← compiled.required? path?
    let references ← references.orElse? [] (Json.listOf? path?)
    return { compiled, references }
  | _ => none

def ofText? (s : String) : Option Request := (Json.read? s).bind ofJson?

def toJson (q : Request) : Json :=
  .record [("AssemblyPath", .text q.compiled.text),
    ("References", .array (q.references.map fun p => .text p.text))]

/-- The request as it is sent, line feed included. -/
def toLine (q : Request) : String := q.toJson.compact ++ "\n"

end Request
end TemplateBatch
