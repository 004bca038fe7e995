import TemplateBatch.Bytes
import TemplateBatch.Path

/-!
A tree of files. Every node is kept under its location, the names on the way to it with the
innermost first; the root is a directory that needs no entry.
-/
namespace TemplateBatch

/-- The names from a node up to the root. -/
abbrev Location := List String

inductive Node where
  | file (content : Bytes) (mode : Nat)
  | directory (mode : Nat)
  | link (target : Path)
  deriving DecidableEq, Repr

def Node.isDirectory : Node → Bool
  | .directory _ => true
  | _ => false

structure FileTree where
  entries : List (Location × Node)
  deriving DecidableEq, Repr

namespace FileTree

def empty : FileTree := ⟨[]⟩

/-- The mode that files and directories get unless another is asked for. -/
def fileMode : Nat := 0o644

def directoryMode : Nat := 0o755

def node? (t : FileTree) (l : Location) : Option Node :=
  match l with
  | [] => some (.directory directoryMode)
  | _ :: _ => (t.entries.find? fun e => e.1 == l).map fun e => e.2

def putEntry (l : Location) (n : Node) : List (Location × Node) → List (Location × Node)
  | [] => [(l, n)]
  | e :: es => if e.1 = l then (l, n) :: es else e :: putEntry l n es

/-- The tree with `n` at `l`, in the place of what stood there. -/
def put (t : FileTree) (l : Location) (n : Node) : FileTree := ⟨putEntry l n t.entries⟩

def erase (t : FileTree) (l : Location) : FileTree := ⟨t.entries.filter fun e => e.1 != l⟩

/-- The tree without what is below `l`. -/
def eraseBelow (t : FileTree) (l : Location) : FileTree :=
  ⟨t.entries.filter fun e => e.1 == l || !l.isSuffixOf e.1⟩

/-- The names in a directory. -/
def children (t : FileTree) (l : Location) : List String :=
  t.entries.filterMap fun e =>
    match e.1 with
    | name :: parent => if parent = l then some name else none
    | [] => none

/-- The path of a location from the root. -/
def pathOf (l : Location) : Path := ⟨"/" ++ Text.join "/" l.reverse⟩

end FileTree
end TemplateBatch
