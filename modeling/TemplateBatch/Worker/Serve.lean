import TemplateBatch.FileTree.Operations
import TemplateBatch.Library
import TemplateBatch.Message.Request
import TemplateBatch.Message.Response
import TemplateBatch.Worker.Wording

/-!
Serving one request: read a line, check that every file is there, open the libraries in order and
the module last, read all names, render everything and answer with one line. The first failure ends
it. What happened on the way, the writing included, is kept as a list of events.
-/
namespace TemplateBatch.Worker

inductive WorkerError where
  | unreadable (cause : SystemError)
  | request (cause : String)
  | fileNotFound (path : Path)
  | load (path : Path) (cause : String)
  | missingSymbol (path : Path) (symbol : String)
  | version (expected found : Nat)
  | invalidName (index : Nat)
  | duplicateTemplate (name : String)
  | render (name message : String)
  deriving DecidableEq, Repr

def WorkerError.message : WorkerError → String
  | .unreadable cause => "Failed to read request: " ++ cause.message
  | .request cause => "Invalid request: " ++ cause
  | .fileNotFound path => "File not found: " ++ path.text
  | .load path cause => "Failed to load " ++ path.text ++ ": " ++ cause
  | .missingSymbol path symbol => path.text ++ " does not export " ++ symbol
  | .version expected found =>
    "Module ABI version " ++ toString found ++ " is not supported (expected " ++ toString expected
      ++ ")"
  | .invalidName index => "Template #" ++ toString index ++ " has no valid name"
  | .duplicateTemplate name => "Template '" ++ name ++ "' is exported more than once"
  | .render name message => "Template '" ++ name ++ "' failed: " ++ message

/-- What lies behind an error and is told after it. -/
def WorkerError.causes : WorkerError → List String
  | .unreadable cause => [cause.message]
  | .request cause => [cause]
  | _ => []

inductive Event where
  | opened (path : Path)
  | rendered (index : Nat)
  | released (index : Nat)
  | wrote (octets : Bytes)
  deriving DecidableEq, Repr

/-- What an event put on the output. -/
def Event.octets : Event → Bytes
  | .wrote octets => octets
  | _ => []

/-- A computation that notes what it does and may fail on the way. -/
abbrev Noted (α : Type) := ExceptT WorkerError (StateM (List Event)) α

def note (e : Event) : Noted Unit := modifyThe (List Event) fun es => es ++ [e]

def Noted.ofExcept : Except WorkerError α → Noted α
  | .ok a => pure a
  | .error e => throw e

/-- What the dynamic loader finds under a path. The empty name stands for the running program, and a
name without a separator is looked up in the directories of the loader. -/
def findLibrary (loader : Loader) (t : FileTree) (base : Location) (p : Path) :
    Option Library :=
  if p.text = "" then some .plain
  else if p.chars.contains '/' then
    match t.read base p with
    | .ok content => loader.ofContent content
    | .error _ => none
  else loader.ofName p.text

/-- A module with all its calls. -/
structure LoadedModule where
  count : Nat
  name : Nat → Option Bytes
  render : Nat → Rendered

/-- The calls of a library, looked up in a fixed order and its version checked first. -/
def LoadedModule.ofLibrary (p : Path) (l : Library) : Except WorkerError LoadedModule :=
  match l.version with
  | none => .error (.missingSymbol p Library.versionSymbol)
  | some found =>
    if found ≠ Library.supportedVersion then .error (.version Library.supportedVersion found)
    else
      match l.count, l.name, l.render, l.release with
      | none, _, _, _ => .error (.missingSymbol p Library.countSymbol)
      | some _, none, _, _ => .error (.missingSymbol p Library.nameSymbol)
      | some _, some _, none, _ => .error (.missingSymbol p Library.renderSymbol)
      | some _, some _, some _, false => .error (.missingSymbol p Library.releaseSymbol)
      | some count, some name, some render, true => .ok { count, name, render }

namespace LoadedModule

/-- The name of a template, which must be text. -/
def name? (l : LoadedModule) (index : Nat) : Option String :=
  (l.name index).bind Text.Utf8.decode?

/-- The names of `left` templates from `index` on, when `seen` came before them. -/
def namesFrom (l : LoadedModule) : (left : Nat) → (index : Nat) → (seen : List String) →
    Except WorkerError (List String)
  | 0, _, seen => .ok seen
  | left + 1, index, seen =>
    match l.name? index with
    | none => .error (.invalidName index)
    | some name =>
      if seen.contains name then .error (.duplicateTemplate name)
      else l.namesFrom left (index + 1) (seen ++ [name])

/-- All names in order, each once. -/
def names (l : LoadedModule) : Except WorkerError (List String) := l.namesFrom l.count 0 []

def textOf (r : Rendered) : String :=
  match r.text with
  | some bytes => Text.Utf8.decodeLossy bytes
  | none => ""

/-- The text of an outcome, or what its status says went wrong. -/
def judge (index : Nat) (name : String) (r : Rendered) : Except WorkerError String :=
  if r.status = Library.statusOk then .ok (textOf r)
  else if r.status = Library.statusNoSuchTemplate then
    .error (.render name ("module has no template at index " ++ toString index))
  else .error (.render name (textOf r))

/-- Render one template. Its outcome is released before it is judged. -/
def renderOne (l : LoadedModule) (index : Nat) (name : String) : Noted String := do
  let outcome := l.render index
  note (.rendered index)
  note (.released index)
  Noted.ofExcept (judge index name outcome)

def renderFrom (l : LoadedModule) : (index : Nat) → List String → Response → Noted Response
  | _, [], done => pure done
  | index, name :: names, done => do
    let text ← l.renderOne index name
    renderFrom l (index + 1) names (done.push name text)

/-- Render everything in order; the first failure ends it. -/
def renderAll (l : LoadedModule) : Noted Response := do
  let names ← Noted.ofExcept l.names
  l.renderFrom 0 names .empty

end LoadedModule

def requireFiles (t : FileTree) (base : Location) : List Path → Except WorkerError Unit
  | [] => .ok ()
  | p :: ps => if t.isFile base p then requireFiles t base ps else .error (.fileNotFound p)

/-- Open the library under a path. -/
def openLibrary (words : Wording) (loader : Loader) (t : FileTree)
    (base : Location) (p : Path) : Noted Library :=
  match findLibrary loader t base p with
  | none => throw (.load p (words.library p))
  | some l => do
    note (.opened p)
    return l

/-- Open libraries in order, for the sake of those that come later. -/
def openAll (words : Wording) (loader : Loader) (t : FileTree) (base : Location) :
    List Path → Noted Unit
  | [] => pure ()
  | p :: ps => do
    let _ ← openLibrary words loader t base p
    openAll words loader t base ps

def openModule (words : Wording) (loader : Loader) (t : FileTree)
    (base : Location) (p : Path) : Noted LoadedModule := do
  let l ← openLibrary words loader t base p
  Noted.ofExcept (LoadedModule.ofLibrary p l)

/-- The input up to the first line feed, that included. -/
def firstLine : Bytes → Bytes
  | [] => []
  | b :: rest => if b = 10 then [b] else b :: firstLine rest

/-- The request on the first line; a blank line asks for nothing. -/
def readRequest (words : Wording) (input : Bytes) : Except WorkerError (Option Request) :=
  match Text.Utf8.decode? (firstLine input) with
  | none => .error (.unreadable .notText)
  | some line =>
    let trimmed := Text.trim line
    if trimmed = "" then .ok none
    else
      match Request.ofText? trimmed with
      | some q => .ok (some q)
      | none => .error (.request (words.request trimmed))

/-- The rendered templates of a request. -/
def answer (words : Wording) (loader : Loader) (t : FileTree) (base : Location)
    (preload : List Path) (q : Request) : Noted Response := do
  Noted.ofExcept (requireFiles t base (q.compiled :: q.references))
  openAll words loader t base (preload ++ q.references)
  let l ← openModule words loader t base q.compiled
  l.renderAll

/-- Write a response, its line feed apart. -/
def respond (r : Response) : Noted Unit := do
  note (.wrote (Text.Utf8.encode r.toJson.compact))
  note (.wrote [10])

/-- Answer the request on the first line of the input. -/
def handle (words : Wording) (loader : Loader) (t : FileTree) (base : Location)
    (preload : List Path) (input : Bytes) : Noted Unit := do
  match ← Noted.ofExcept (readRequest words input) with
  | none => pure ()
  | some q =>
    let r ← answer words loader t base preload q
    respond r

/-- What serving a request came to. -/
structure Served where
  events : List Event
  result : Except WorkerError Unit

def Served.output (s : Served) : Bytes := s.events.flatMap Event.octets

/-- Serve from a state in which nothing has happened yet. -/
def serve (words : Wording) (loader : Loader) (t : FileTree) (base : Location)
    (preload : List Path) (input : Bytes) : Served :=
  let (result, events) := (handle words loader t base preload input).run []
  ⟨events, result⟩

end TemplateBatch.Worker
