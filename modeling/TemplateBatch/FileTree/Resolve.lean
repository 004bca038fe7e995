import TemplateBatch.FileTree.Basic
import TemplateBatch.SystemError

/-!
Finding the place in a tree that a path names. Every step but the last must lead to a directory, and
symbolic links on the way are followed, forty of them at most.
-/
namespace TemplateBatch.FileTree

inductive Move where
  | stay
  | up
  | down (name : String)
  /-- A separator at the end of a path: what it names is to be a directory. -/
  | within
  deriving DecidableEq, Repr

def move (piece : List Char) : Move :=
  if piece = ['.'] then .stay
  else if piece = ['.', '.'] then .up
  else .down (String.ofList piece)

def endsInSeparator (p : Path) : Bool := p.chars.getLast? == some '/'

/-- The steps of a path. -/
def moves (p : Path) : List Move :=
  let inner := ((Path.pieces p.chars).filter fun piece => piece != []).map move
  if endsInSeparator p then inner ++ [.within] else inner

/-- What a path is resolved for: what it leads to in the end, the entry of its last name even if
that is a link, or a file that may be created where it leads. -/
inductive Aim where
  | target
  | entry
  | creation
  deriving DecidableEq, Repr

/-- Where a path leads. Only the last step may lead to nothing. -/
structure Spot where
  location : Location
  node : Option Node
  deriving DecidableEq, Repr

def isTooLong (name : String) : Bool := 255 < name.utf8ByteSize

/-- Moves from a directory; `jump` goes on behind a symbolic link. -/
def walkWith (t : FileTree) (aim : Aim)
    (jump : Location → List Move → Except SystemError Spot) :
    Location → List Move → Except SystemError Spot
  | here, [] => .ok ⟨here, t.node? here⟩
  | here, .stay :: rest => walkWith t aim jump here rest
  | here, .within :: rest => walkWith t aim jump here rest
  | here, .up :: rest => walkWith t aim jump here.tail rest
  | here, .down name :: rest =>
    if aim = .creation ∧ rest = [.within] then .error .isDirectory
    else if isTooLong name then .error .nameTooLong
    else
      match t.node? (name :: here) with
      | none => if rest = [] then .ok ⟨name :: here, none⟩ else .error .notFound
      | some (.directory _) => walkWith t aim jump (name :: here) rest
      | some (.file content mode) =>
        if rest = [] then .ok ⟨name :: here, some (.file content mode)⟩ else .error .notDirectory
      | some (.link target) =>
        if rest = [] ∧ aim = .entry then .ok ⟨name :: here, some (.link target)⟩
        else jump (if target.isRooted then [] else here) (moves target ++ rest)

def walk (t : FileTree) (aim : Aim) : (links : Nat) → Location → List Move →
    Except SystemError Spot
  | 0 => walkWith t aim fun _ _ => .error .tooManyLinks
  | links + 1 => walkWith t aim (walk t aim links)

/-- Why a text cannot be handed over as a path at all. -/
def refusal? (p : Path) : Option SystemError :=
  if p.chars.contains (Char.ofNat 0) then some .nulInPath
  else if p.text = "" then some .notFound
  else if 4096 ≤ p.text.utf8ByteSize then some .nameTooLong
  else none

/-- Where `p`, read from the directory `base`, leads. -/
def locate (t : FileTree) (base : Location) (aim : Aim) (p : Path) : Except SystemError Spot :=
  match refusal? p with
  | some e => .error e
  | none => walk t aim 40 (if p.isRooted then [] else base) (moves p)

end TemplateBatch.FileTree
