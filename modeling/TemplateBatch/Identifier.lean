import TemplateBatch.Path

/-!
Names for templates. The class name of a template is its path with everything but ASCII letters and
digits blotted out behind a fixed start; the type path splits the path at its separators and makes
an identifier of each part. Both are identifiers of the generated code.
-/
namespace TemplateBatch.Identifier

def startsName (c : Char) : Bool := Text.isAsciiLetter c || c == '_'

def continuesName (c : Char) : Bool := Text.isAsciiAlphanumeric c || c == '_'

/-- A name that generated code may declare; the lone underscore is none. -/
def isIdentifierChars : List Char → Bool
  | [] => false
  | c :: rest => startsName c && (c :: rest) != ['_'] && rest.all continuesName

def isIdentifier (name : String) : Bool := isIdentifierChars name.toList

def classChar (c : Char) : Char := if Text.isAsciiAlphanumeric c then c else '_'

def classNameChars (path : List Char) : List Char := ['T', '_'] ++ path.map classChar

/-- The name of the type that the template at `path` must define. -/
def className (path : String) : String := String.ofList (classNameChars path.toList)

def segmentChar (c : Char) : Char := if continuesName c then c else '_'

/-- An identifier that shows `name`; an underscore goes first unless a letter or one is there. -/
def segmentChars (name : List Char) : List Char :=
  match name.head? with
  | some c => (if startsName c then [] else ['_']) ++ name.map segmentChar
  | none => ['_']

def isSeparator (c : Char) : Bool := c == '/' || c == '\\' || c == ':'

def pathParts (path : List Char) : List (List Char) :=
  (Text.split isSeparator path).filter fun part => part != []

structure TypePath where
  segments : List String
  name : String
  deriving DecidableEq, Repr

/-- The parts of a path as module segments and the stem of the last one as a type name. -/
def typePath (path : String) : TypePath :=
  let parts := pathParts path.toList
  let stem := (Path.ofChars (parts.getLast?.getD [])).stem?.getD ""
  { segments := parts.dropLast.map fun part => String.ofList (segmentChars part)
    name := String.ofList (segmentChars stem.toList) }

/-- The segments and the name with a double colon between neighbours. -/
def TypePath.display (t : TypePath) : String := Text.join "::" (t.segments ++ [t.name])

end TemplateBatch.Identifier
