import TemplateBatch.Bundle
import TemplateBatch.Configuration
import TemplateBatch.Json.Decoder
import TemplateBatch.Json.Printer
import TemplateBatch.Json.Reader

/-!
The run configuration that is staged beside the worker: which runtime its modules need and where the
worker may find it. The host writes it, the worker reads it before anything else.
-/
namespace TemplateBatch

structure RunConfiguration where
  /-- The runtime that every module needs. -/
  name : String := "rust-std"
  linkage : Linkage := .static
  /-- Searched in order for the shared standard library. -/
  searchDirectories : List Path := []
  deriving DecidableEq, Repr

namespace RunConfiguration

/-- Modules share the standard library, which is looked for in `directories`. -/
def dynamic (directories : List Path) : RunConfiguration :=
  { linkage := .dynamic, searchDirectories := directories }

/-- Where the run configuration of a worker program stands. -/
def beside (executable : Path) : Path :=
  (executable.parent?.getD ⟨"."⟩).join Bundle.configurationFileName

def linkageJson? : Json → Option Linkage := Json.oneOf? Linkage.choices

def pathJson? (j : Json) : Option Path := j.text?.map fun t => ⟨t⟩

def runtime? (j : Json) : Option RunConfiguration := do
  match ← Json.fields? ["name", "linkage", "searchDirectories"] j with
  | [name, linkage, directories] =>
    let name ← name.required? Json.text?
    let linkage ← linkage.orElse? .static linkageJson?
    let searchDirectories ← directories.orElse? [] (Json.listOf? pathJson?)
    return { name, linkage, searchDirectories }
  | _ => none

def ofJson? (j : Json) : Option RunConfiguration := do
  match ← Json.fields? ["runtime"] j with
  | [runtime] => runtime.orElse? {} runtime?
  | _ => none

def ofText? (s : String) : Option RunConfiguration := (Json.read? s).bind ofJson?

def toJson (c : RunConfiguration) : Json :=
  .record [("runtime", .record [
    ("name", .text c.name),
    ("linkage", .text c.linkage.text),
    ("searchDirectories", .array (c.searchDirectories.map fun p => .text p.text))])]

/-- The document that is staged, over several lines. -/
def toText (c : RunConfiguration) : String := c.toJson.pretty

end RunConfiguration
end TemplateBatch
