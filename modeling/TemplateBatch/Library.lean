import TemplateBatch.Bytes

/-!
Loadable libraries by what they export. A module exports five calls; each may be missing.
-/
namespace TemplateBatch

/-- What rendering a template hands out: a status, and a text unless its pointer is null. -/
structure Rendered where
  status : Nat
  text : Option Bytes
  deriving DecidableEq, Repr

structure Library where
  version : Option Nat
  count : Option Nat
  /-- The name of a template by its index, none for a null pointer. -/
  name : Option (Nat → Option Bytes)
  render : Option (Nat → Rendered)
  release : Bool

namespace Library

def supportedVersion : Nat := 1

def statusOk : Nat := 0

def statusFailed : Nat := 1

def statusNoSuchTemplate : Nat := 2

def versionSymbol : String := "rendergen_abi_version"

def countSymbol : String := "rendergen_template_count"

def nameSymbol : String := "rendergen_template_name"

def renderSymbol : String := "rendergen_render"

def releaseSymbol : String := "rendergen_release"

/-- A library that exports none of the calls. -/
def plain : Library := ⟨none, none, none, none, false⟩

end Library

/-- The dynamic loader, by what it makes of files and of bare names. -/
structure Loader where
  /-- The library that a file with this content is. -/
  ofContent : Bytes → Option Library
  /-- The library that a name without a separator leads to in the directories of the loader. -/
  ofName : String → Option Library

end TemplateBatch
