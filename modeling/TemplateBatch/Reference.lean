import TemplateBatch.Bundle
import TemplateBatch.Path

/-!
What a module links against: library sources compiled into it, and prebuilt crates. The baseline
references are decoded from the resources of a bundle.
-/
namespace TemplateBatch

inductive Reference where
  | source (name text : String)
  | external (name : String) (path : Path)
  deriving DecidableEq, Repr

namespace Reference

def name : Reference → String
  | .source name _ => name
  | .external name _ => name

/-- The library that has to be loaded before the module; a static one is linked into it. -/
def runtimePath? : Reference → Option Path
  | .external _ path => if path.extension? = some "so" then some path else none
  | .source .. => none

/-- The path of a prebuilt crate. -/
def externalPath? : Reference → Option (String × Path)
  | .external name path => some (name, path)
  | .source .. => none

/-- `cs` behind all the copies of `start` at its beginning, cut off at most `fuel` times. -/
def dropStarts (start : List Char) : (fuel : Nat) → List Char → List Char
  | 0, cs => cs
  | fuel + 1, cs =>
    match Text.after? start cs with
    | some rest => dropStarts start fuel rest
    | none => cs

def dropEndings (ending : List Char) (cs : List Char) : List Char :=
  (dropStarts ending.reverse cs.length cs.reverse).reverse

/-- The name of a bundled reference: what its resource is called between the start shared by all
references and the extension, each of which is cut off as often as it occurs. -/
def resourceName (name : String) : String :=
  let cs := name.toList
  String.ofList
    (dropEndings ".rs".toList (dropStarts Bundle.referencesStart.toList cs.length cs))

def ofResource (r : Resource) : Except ResourceError Reference :=
  match Text.Utf8.decode? r.content with
  | some text => .ok (.source (resourceName r.name) text)
  | none => .error (.notText r.name)

def ofResources : List Resource → Except ResourceError (List Reference)
  | [] => .ok []
  | r :: rs =>
    match ofResource r with
    | .error e => .error e
    | .ok reference =>
      match ofResources rs with
      | .error e => .error e
      | .ok references => .ok (reference :: references)

/-- The references of a bundle; there must be some. -/
def load (b : Bundle) : Except ResourceError (List Reference) :=
  match ofResources (b.startingWith Bundle.referencesStart) with
  | .error e => .error e
  | .ok [] => .error (.emptyGroup Bundle.referencesStart)
  | .ok references => .ok references

def baseline : Except ResourceError (List Reference) := load Bundle.embedded

end Reference
end TemplateBatch
