import TemplateBatch.FileTree.Operations

/-!
The machine that a host runs on: a tree of files that changes, and around it what stays the same for
a run of the host. A program is what executing a file does, as a function of how it is invoked and
of the files it finds; running one is a single step here, and every run is kept in the history.
-/
namespace TemplateBatch

inductive ExitStatus where
  | exited (code : Nat)
  | signaled (number : Nat) (coreDumped : Bool)
  deriving DecidableEq, Repr

/-- The status of a program that ends with `code`, of which the low eight bits are kept. -/
def ExitStatus.ofCode (code : Int) : ExitStatus := .exited (code % 256).toNat

def ExitStatus.isSuccess (s : ExitStatus) : Bool := s == .exited 0

abbrev Variables := List (String × String)

def Variables.get? (vs : Variables) (key : String) : Option String :=
  (vs.find? fun v => v.1 == key).map fun v => v.2

def Variables.set (vs : Variables) (key value : String) : Variables :=
  (key, value) :: vs.filter fun v => v.1 != key

structure Invocation where
  /-- Where the program itself stands. -/
  executable : Path
  arguments : List String
  directory : Location
  environment : Variables
  input : Bytes

structure Outcome where
  status : ExitStatus
  output : Bytes
  errors : Bytes
  tree : FileTree

abbrev Program := Invocation → FileTree → Outcome

structure Machine where
  directory : Location
  /-- The program of the host. -/
  executable : Path
  environment : Variables
  /-- Where temporary files go. -/
  temporary : Path
  /-- What executing a file with this content does. -/
  program : Bytes → Except SystemError Program
  /-- A failure that the n-th step on staged files or start of a program meets for reasons that lie
  outside the tree. -/
  obstacle : Nat → Option SystemError := fun _ => none

/-- A run of a program as it happened. -/
structure Run where
  invocation : Invocation
  before : FileTree
  outcome : Outcome

structure World where
  tree : FileTree
  /-- Steps taken so far; also what makes temporary names differ. -/
  clock : Nat := 0
  history : List Run := []

/-- Work on the world that may fail; what was done before a failure stays done. -/
abbrev Work (ε α : Type) := ExceptT ε (StateM World) α

namespace Work

def ofExcept (wrap : ε → δ) : Except ε α → Work δ α
  | .ok a => pure a
  | .error e => throw (wrap e)

/-- Look at the tree. -/
def reading (wrap : SystemError → ε) (f : FileTree → Except SystemError α) : Work ε α := do
  ofExcept wrap (f (← getThe World).tree)

/-- Change the tree, or leave it as it is when that fails. -/
def changing (wrap : SystemError → ε) (f : FileTree → Except SystemError FileTree) :
    Work ε Unit := do
  let w ← getThe World
  let t ← ofExcept wrap (f w.tree)
  set { w with tree := t }

/-- Change the tree in several steps, of which those before a failure stay done. -/
def altering (wrap : SystemError → ε) (f : FileTree → Except SystemError Unit × FileTree) :
    Work ε Unit := do
  let w ← getThe World
  let (r, t) := f w.tree
  set { w with tree := t }
  ofExcept wrap r

/-- Work with something done to the world behind it, however it ends. -/
def ensuring (body : Work ε α) (cleanup : World → World) : Work ε α :=
  ExceptT.mk fun w => let (r, w') := ExceptT.run body w; (r, cleanup w')

/-- Work with something done to the world behind it when it fails. -/
def recovering (body : Work ε α) (cleanup : World → World) : Work ε α :=
  ExceptT.mk fun w =>
    match ExceptT.run body w with
    | (.ok a, w') => (.ok a, w')
    | (.error e, w') => (.error e, cleanup w')

/-- The result of work as a value. -/
def attempt (body : Work ε α) : Work δ (Except ε α) :=
  ExceptT.mk fun w => let (r, w') := ExceptT.run body w; (.ok r, w')

def mapError (f : ε → δ) (body : Work ε α) : Work δ α :=
  ExceptT.mk fun w => let (r, w') := ExceptT.run body w; (r.mapError f, w')

end Work

/-- The world after a change of its tree that is given up when it fails. -/
def World.trying (f : FileTree → Except SystemError FileTree) (w : World) : World :=
  match f w.tree with
  | .ok t => { w with tree := t }
  | .error _ => w

namespace Machine

/-- A name in a directory that nothing has yet, built from the first number that will do. -/
def freshName (t : FileTree) (directory : Location) (name : Nat → String) :
    (fuel : Nat) → (k : Nat) → String
  | 0, k => name k
  | fuel + 1, k =>
    if (t.node? (name k :: directory)).isNone then name k
    else freshName t directory name fuel (k + 1)

/-- The path of a new temporary entry in the directory `d`. -/
def freshPath (m : Machine) (w : World) (d : Path) (name : Nat → String) : Path :=
  match w.tree.find m.directory d with
  | .ok (l, _) => d.join (freshName w.tree l name w.tree.entries.length w.clock)
  | .error _ => d.join (name w.clock)

/-- A number with six digits at least. -/
def serial (k : Nat) : String :=
  let s := toString k
  String.ofList (List.replicate (6 - s.length) '0') ++ s

/-- The program that a path names, if it may be executed. -/
def executableAt (t : FileTree) (base : Location) (p : Path) :
    Except SystemError (Location × Bytes) :=
  match t.find base p with
  | .error e => .error e
  | .ok (l, .file content mode) =>
    if mode &&& 0o111 = 0 then .error .permissionDenied else .ok (l, content)
  | .ok _ => .error .permissionDenied

/-- The first of the directories that holds an executable file of that name. Where none does, a file
that may not be executed goes before the failure in the last directory. -/
def search (t : FileTree) (base : Location) (name : String) (refused : Bool) (last : SystemError) :
    List String → Except SystemError (Location × Bytes)
  | [] => .error (if refused then .permissionDenied else last)
  | d :: ds =>
    match executableAt t base (if d = "" then ⟨name⟩ else ⟨d ++ "/" ++ name⟩) with
    | .ok found => .ok found
    | .error e =>
      if [.permissionDenied, .notFound, .notDirectory].contains e then
        search t base name (refused || e == .permissionDenied) e ds
      else .error e

def searchDirectories (vs : Variables) : List String :=
  (Text.split (· == ':') ((vs.get? "PATH").getD "/bin:/usr/bin").toList).map String.ofList

/-- A program by its path, or by its bare name in the directories of the search path. -/
def findProgram (t : FileTree) (base : Location) (vs : Variables) (p : Path) :
    Except SystemError (Location × Bytes) :=
  if p.chars.contains '/' then executableAt t base p
  else if p.text = "" then .error .notFound
  else search t base p.text false .notFound (searchDirectories vs)

end Machine

/-- A program to run and all that it is given. -/
structure Command where
  program : Path
  arguments : List String := []
  directory : Option Path := none
  environment : Variables := []
  input : Bytes := []

namespace Command

def texts (c : Command) : List String :=
  c.program.text :: c.arguments ++ c.environment.flatMap fun v => [v.1, v.2]

def hasNul (c : Command) : Bool := c.texts.any fun s => s.toList.contains (Char.ofNat 0)

/-- The length in octets from which on a program cannot be given a text. -/
def textLimit : Nat := 131072

/-- Whether the texts that a program gets, its arguments and its variables, are short enough. -/
def fits (arguments : List String) (environment : Variables) : Bool :=
  (arguments ++ environment.map fun v => v.1 ++ "=" ++ v.2).all fun s => s.utf8ByteSize < textLimit

def fullEnvironment (m : Machine) (c : Command) : Variables :=
  c.environment.foldl (fun vs v => vs.set v.1 v.2) m.environment

def base (m : Machine) (t : FileTree) (c : Command) : Except SystemError Location :=
  match c.directory with
  | none => .ok m.directory
  | some d =>
    match t.find m.directory d with
    | .error e => .error e
    | .ok (l, .directory _) => .ok l
    | .ok _ => .error .notDirectory

/-- The program of a command and its invocation, or why it cannot be started. -/
def resolve (m : Machine) (t : FileTree) (c : Command) :
    Except SystemError (Program × Invocation) := do
  let directory ← c.base m t
  let environment := c.fullEnvironment m
  let (l, content) ← Machine.findProgram t directory environment c.program
  if !fits c.arguments environment then throw .argumentsTooLong
  let program ← m.program content
  return (program,
    { executable := FileTree.pathOf l, arguments := c.arguments, directory, environment,
      input := c.input })

/-- Start the program and let it run to its end. -/
def run (m : Machine) (c : Command) (w : World) : Except SystemError Outcome × World :=
  if c.hasNul then (.error .nulInCommand, w)
  else
    match m.obstacle w.clock with
    | some e => (.error e, { w with clock := w.clock + 1 })
    | none =>
      match c.resolve m w.tree with
      | .error e => (.error e, { w with clock := w.clock + 1 })
      | .ok (program, invocation) =>
        let outcome := program invocation w.tree
        (.ok outcome,
          { tree := outcome.tree
            clock := w.clock + 1
            history := w.history ++ [⟨invocation, w.tree, outcome⟩] })

end Command

/-- Run a program and take the failure to start it as a result. -/
def Work.running (m : Machine) (c : Command) : Work ε (Except SystemError Outcome) :=
  ExceptT.mk fun w => let (r, w') := c.run m w; (.ok r, w')

end TemplateBatch
