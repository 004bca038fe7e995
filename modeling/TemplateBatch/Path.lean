import TemplateBatch.Text.Basic

/-!
File paths as texts. Two texts name the same path when their components agree: repeated and
trailing separators and every single dot but one at the very start are idle. The parts of a path
(parent, file name, stem, extension) are read off its components but keep their own spelling.
-/
namespace TemplateBatch

structure Path where
  text : String
  deriving DecidableEq, Repr, Inhabited

namespace Path

inductive Component where
  | root
  | here
  | parent
  | name (text : List Char)
  deriving DecidableEq, Repr

def chars (p : Path) : List Char := p.text.toList

def ofChars (cs : List Char) : Path := ⟨String.ofList cs⟩

def isRooted (p : Path) : Bool := p.chars.head? == some '/'

/-- The root or the leading dot of a path, apart from what follows it. -/
def opening : List Char → List Char × List Char
  | '/' :: rest => (['/'], rest)
  | ['.'] => (['.'], [])
  | '.' :: '/' :: rest => (['.'], '/' :: rest)
  | cs => ([], cs)

def pieces (cs : List Char) : List (List Char) := Text.split (· == '/') cs

def isIdle (piece : List Char) : Bool := piece == [] || piece == ['.']

def dropIdleEnd (ps : List (List Char)) : List (List Char) :=
  (ps.reverse.dropWhile isIdle).reverse

def openingComponents (cs : List Char) : List Component :=
  match (opening cs).1 with
  | [] => []
  | c :: _ => if c = '/' then [.root] else [.here]

def component (piece : List Char) : Component :=
  if piece = ['.', '.'] then .parent else .name piece

def components (p : Path) : List Component :=
  openingComponents p.chars
    ++ ((pieces (opening p.chars).2).filter fun piece => !isIdle piece).map component

/-- The pieces behind the opening up to the last one that counts. -/
def spine (p : Path) : List (List Char) := dropIdleEnd (pieces (opening p.chars).2)

def fileNameChars? (p : Path) : Option (List Char) :=
  match p.spine.getLast? with
  | some piece => if piece = ['.', '.'] then none else some piece
  | none => none

def fileName? (p : Path) : Option String := p.fileNameChars?.map String.ofList

/-- The path without its last component; a root has none, and neither has the empty path. -/
def parent? (p : Path) : Option Path :=
  match p.spine with
  | [] => if (opening p.chars).1 = ['.'] then some ⟨""⟩ else none
  | piece :: ps =>
    some (ofChars ((opening p.chars).1
      ++ Text.joinChars ['/'] (dropIdleEnd (piece :: ps).dropLast)))

/-- A file name cut at its last dot; a dot at the very start does not count. -/
def cutName (name : List Char) : List Char × Option (List Char) :=
  let extension := (name.reverse.takeWhile (· != '.')).reverse
  match name.reverse.dropWhile (· != '.') with
  | [] | [_] => (name, none)
  | _ :: stem => (stem.reverse, some extension)

def stem? (p : Path) : Option String :=
  p.fileNameChars?.map fun name => String.ofList (cutName name).1

def extension? (p : Path) : Option String :=
  match p.fileNameChars? with
  | some name => (cutName name).2.map String.ofList
  | none => none

/-- `name` read from `p`; a rooted name stands for itself. -/
def join (p : Path) (name : String) : Path :=
  if name.toList.head? == some '/' then ⟨name⟩
  else if p.chars = [] ∨ p.chars.getLast? = some '/' then ⟨p.text ++ name⟩
  else ⟨p.text ++ "/" ++ name⟩

/-- Two spellings of one path. -/
def Same (p q : Path) : Prop := p.components = q.components

instance (p q : Path) : Decidable (Same p q) := inferInstanceAs (Decidable (_ = _))

end Path
end TemplateBatch
