import TemplateBatch.Diagnostic
import TemplateBatch.Reference
import TemplateBatch.Template

/-!
Checks on names before a scratch crate is written, so that no clash has to be reported in terms of
generated code. Every name must be an identifier and may occur once in its group: references form
one group, the renderables of all sources together the other.
-/
namespace TemplateBatch.Crate

def badReference (name : String) : Diagnostic :=
  .error ("reference name '" ++ name ++ "' is not a valid identifier")

def repeatedReference (name : String) : Diagnostic :=
  .error ("duplicate reference '" ++ name ++ "'")

def badRenderable (path name : String) : Diagnostic :=
  (Diagnostic.error ("'" ++ name ++ "' is not a valid type name")).located ⟨path⟩ 1 1

def repeatedRenderable (path name : String) : Diagnostic :=
  (Diagnostic.error ("renderable '" ++ name ++ "' is declared more than once")).located ⟨path⟩ 1 1

/-- The problems of one group when `seen` are the identifiers before it. -/
def problems (name : α → String) (bad repeated : α → Diagnostic) (seen : List String) :
    List α → List Diagnostic
  | [] => []
  | x :: xs =>
    if !Identifier.isIdentifier (name x) then bad x :: problems name bad repeated seen xs
    else if seen.contains (name x) then repeated x :: problems name bad repeated seen xs
    else problems name bad repeated (name x :: seen) xs

def referenceProblems : List Reference → List Diagnostic :=
  problems Reference.name (fun r => badReference r.name) (fun r => repeatedReference r.name) []

/-- Renderables in declaration order, each with the path of its source. -/
def declared (sources : List Source) : List (String × String) :=
  sources.flatMap fun s => s.renderables.map fun name => (s.path, name)

def renderableProblems : List (String × String) → List Diagnostic :=
  problems Prod.snd (fun r => badRenderable r.1 r.2) (fun r => repeatedRenderable r.1 r.2) []

def validate (sources : List Source) (references : List Reference) : List Diagnostic :=
  referenceProblems references ++ renderableProblems (declared sources)

end TemplateBatch.Crate
