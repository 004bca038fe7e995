import TemplateBatch.FileTree.Resolve
import TemplateBatch.Text.Utf8

/-!
Reading and changing a tree through paths, with the failures that an operating system reports. An
operation that fails changes nothing, apart from those that take several steps: they return the tree
that they leave whether they fail or not.
-/
namespace TemplateBatch.FileTree

/-- What a path leads to, links followed; nothing there is a failure. -/
def find (t : FileTree) (base : Location) (p : Path) : Except SystemError (Location × Node) :=
  match t.locate base .target p with
  | .error e => .error e
  | .ok ⟨_, none⟩ => .error .notFound
  | .ok ⟨l, some n⟩ => .ok (l, n)

def exists? (t : FileTree) (base : Location) (p : Path) : Bool :=
  match t.find base p with
  | .ok _ => true
  | .error _ => false

def isFile (t : FileTree) (base : Location) (p : Path) : Bool :=
  match t.find base p with
  | .ok (_, .file ..) => true
  | _ => false

def isDirectory (t : FileTree) (base : Location) (p : Path) : Bool :=
  match t.find base p with
  | .ok (_, n) => n.isDirectory
  | .error _ => false

/-- The content of a file. One that nobody may read is refused. -/
def read (t : FileTree) (base : Location) (p : Path) : Except SystemError Bytes :=
  match t.find base p with
  | .error e => .error e
  | .ok (_, .file content mode) =>
    if mode &&& 0o444 = 0 then .error .permissionDenied else .ok content
  | .ok _ => .error .isDirectory

def readText (t : FileTree) (base : Location) (p : Path) : Except SystemError String :=
  match t.read base p with
  | .error e => .error e
  | .ok content =>
    match Text.Utf8.decode? content with
    | some s => .ok s
    | none => .error .notText

/-- The names in a directory that may be read. -/
def list (t : FileTree) (base : Location) (p : Path) : Except SystemError (List String) :=
  match t.find base p with
  | .error e => .error e
  | .ok (l, .directory mode) =>
    if mode &&& 0o444 = 0 then .error .permissionDenied else .ok (t.children l)
  | .ok _ => .error .notDirectory

def mode? (t : FileTree) (base : Location) (p : Path) : Option Nat :=
  match t.find base p with
  | .ok (_, .file _ mode) => some mode
  | .ok (_, .directory mode) => some mode
  | _ => none

/-- Write a whole file; one that exists keeps its mode. -/
def write (t : FileTree) (base : Location) (p : Path) (content : Bytes) :
    Except SystemError FileTree :=
  match t.locate base .creation p with
  | .error e => .error e
  | .ok ⟨l, none⟩ => .ok (t.put l (.file content fileMode))
  | .ok ⟨l, some (.file _ mode)⟩ => .ok (t.put l (.file content mode))
  | .ok _ => .error .isDirectory

/-- Create an empty file that was not there. -/
def createNew (t : FileTree) (base : Location) (p : Path) (mode : Nat) :
    Except SystemError FileTree :=
  match t.locate base .entry p with
  | .error e => .error e
  | .ok ⟨l, none⟩ => .ok (t.put l (.file [] mode))
  | .ok _ => .error .alreadyExists

def setMode (t : FileTree) (base : Location) (p : Path) (mode : Nat) :
    Except SystemError FileTree :=
  match t.find base p with
  | .error e => .error e
  | .ok (l, .file content _) => .ok (t.put l (.file content mode))
  | .ok (l, .directory _) => .ok (t.put l (.directory mode))
  | .ok (_, .link _) => .error .notFound

/-- The path without separators at its end, unless it is the root. -/
def withoutEnd (p : Path) : Path :=
  match p.chars.reverse.dropWhile (· == '/') with
  | [] => p
  | cs => Path.ofChars cs.reverse

/-- The entry that a path names last, whether it ends in separators or not. -/
def locateLast (t : FileTree) (base : Location) (p : Path) : Except SystemError Spot :=
  match refusal? p with
  | some e => .error e
  | none => t.locate base .entry (withoutEnd p)

def makeDirectory (t : FileTree) (base : Location) (p : Path) (mode : Nat) :
    Except SystemError FileTree :=
  match t.locateLast base p with
  | .error e => .error e
  | .ok ⟨l, none⟩ => .ok (t.put l (.directory mode))
  | .ok _ => .error .alreadyExists

/-- A path and its parents, outwards. -/
def ancestors : (fuel : Nat) → Path → List Path
  | 0, p => [p]
  | fuel + 1, p =>
    match p.parent? with
    | some q => p :: ancestors fuel q
    | none => [p]

/-- Make the first of the directories; the one after it is made first where it is missing. What was
made on the way stays, however it ends. -/
def makeDirectories (t : FileTree) (base : Location) :
    List Path → Except SystemError Unit × FileTree
  | [] => (.error .notFound, t)
  | p :: outer =>
    if p.text = "" then (.ok (), t)
    else
      match t.makeDirectory base p directoryMode with
      | .ok t' => (.ok (), t')
      | .error .notFound =>
        match makeDirectories t base outer with
        | (.error e, t') => (.error e, t')
        | (.ok (), t') => unlessThere t' base p (t'.makeDirectory base p directoryMode)
      | .error e => unlessThere t base p (.error e)
where
  /-- A directory that is there already will do. -/
  unlessThere (t : FileTree) (base : Location) (p : Path) :
      Except SystemError FileTree → Except SystemError Unit × FileTree
    | .ok t' => (.ok (), t')
    | .error e => (if t.isDirectory base p then .ok () else .error e, t)

/-- Make a directory and whatever is missing on the way to it. -/
def makePath (t : FileTree) (base : Location) (p : Path) : Except SystemError Unit × FileTree :=
  t.makeDirectories base (ancestors p.chars.length p)

/-- Remove what a path names last, a link itself and not what it leads to. -/
def removeFile (t : FileTree) (base : Location) (p : Path) : Except SystemError FileTree :=
  match t.locateLast base p with
  | .error e => .error e
  | .ok ⟨_, none⟩ => .error .notFound
  | .ok ⟨_, some (.directory _)⟩ => .error .isDirectory
  | .ok ⟨l, some _⟩ => if endsInSeparator p then .error .notDirectory else .ok (t.erase l)

/-- Remove an empty directory that has a name of its own. -/
def removeDirectory (t : FileTree) (base : Location) (p : Path) : Except SystemError FileTree :=
  match t.locateLast base p with
  | .error e => .error e
  | .ok ⟨_, none⟩ => .error .notFound
  | .ok ⟨l, some (.directory _)⟩ =>
    match ((moves p).filter fun m => m != .within).getLast? with
    | none => .error .busy
    | some .stay => .error .invalidArgument
    | some .up => .error .directoryNotEmpty
    | some _ => if t.children l = [] then .ok (t.erase l) else .error .directoryNotEmpty
  | .ok ⟨_, some _⟩ => .error .notDirectory

/-- Remove a directory with its content. A link is removed in its stead. The content goes first, and
is gone even if the directory itself cannot be removed under this path. -/
def removeTree (t : FileTree) (base : Location) (p : Path) : Except SystemError Unit × FileTree :=
  match t.locate base .entry p with
  | .error e => (.error e, t)
  | .ok ⟨_, none⟩ => (.error .notFound, t)
  | .ok ⟨_, some (.file ..)⟩ => (.error .notDirectory, t)
  | .ok ⟨l, some (.link _)⟩ => (.ok (), t.erase l)
  | .ok ⟨l, some (.directory _)⟩ =>
    let emptied := t.eraseBelow l
    match emptied.removeDirectory base p with
    | .ok t' => (.ok (), t')
    | .error .notFound => (.ok (), emptied)
    | .error e => (.error e, emptied)

def makeLink (t : FileTree) (base : Location) (p target : Path) : Except SystemError FileTree :=
  match refusal? target, t.locateLast base p with
  | some e, _ => .error e
  | none, .error e => .error e
  | none, .ok ⟨l, none⟩ =>
    if endsInSeparator p then .error .notFound else .ok (t.put l (.link target))
  | none, .ok _ => .error .alreadyExists

/-- Give a file another name that nothing has yet. -/
def publish (t : FileTree) (base : Location) (source target : Path) :
    Except SystemError FileTree :=
  match t.locate base .entry source with
  | .error e => .error e
  | .ok ⟨_, none⟩ => .error .notFound
  | .ok ⟨l, some n⟩ =>
    match t.locate base .entry target with
    | .error e => .error e
    | .ok ⟨l', none⟩ => .ok ((t.erase l).put l' n)
    | .ok _ => .error .alreadyExists

end TemplateBatch.FileTree
