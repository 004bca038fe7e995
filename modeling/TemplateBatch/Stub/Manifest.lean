import TemplateBatch.Library
import TemplateBatch.Stub.Buffer
import TemplateBatch.Text.Utf8

/-!
The manifest of a module: its renderable types in order, some of which their source may never have
defined. The exported calls number the defined ones only, and no panic of a template passes them.
-/
namespace TemplateBatch.Stub

/-- What a panic carries: a text, or a value that no one can read. -/
inductive Payload where
  | text (s : String)
  | other
  deriving DecidableEq, Repr

def Payload.message : Payload → String
  | .text s => s
  | .other => "panic with a non-string payload"

/-- What a template does when it is executed. -/
inductive Action where
  | step (s : Step)
  | fail
  | panic (p : Payload)
  deriving DecidableEq, Repr

inductive Execution where
  | finished (text : String)
  | failed
  | panicked (p : Payload)
  deriving DecidableEq, Repr

/-- Actions on a buffer up to the first that fails or panics. -/
def run (b : Buffer) : List Action → Execution
  | [] => .finished b.text
  | .fail :: _ => .failed
  | .panic p :: _ => .panicked p
  | .step s :: actions =>
    match b.apply s with
    | (true, b') => run b' actions
    | (false, _) => .failed

/-- A renderable type: how it is listed and what rendering it does. -/
structure Entry where
  name : String
  typeName : String
  defined : Bool := true
  /-- The panic of its constructor, when it has one. -/
  construction : Option Payload := none
  actions : List Action
  deriving DecidableEq, Repr

inductive Rendering where
  | text (s : String)
  | failure (message : String)
  | panicked (p : Payload)
  deriving DecidableEq, Repr

/-- Construct the type and execute it on a fresh buffer. -/
def Entry.render (e : Entry) : Rendering :=
  match e.construction with
  | some p => .panicked p
  | none =>
    match run .empty e.actions with
    | .finished s => .text s
    | .failed => .failure ("'" ++ e.typeName ++ "' reported a formatting error")
    | .panicked p => .panicked p

abbrev Manifest := List Entry

namespace Manifest

def listed (m : Manifest) : List Entry := m.filter Entry.defined

def count (m : Manifest) : Nat := m.listed.length

def name? (m : Manifest) (i : Nat) : Option String := m.listed[i]?.map Entry.name

/-- The status and the text or message of a rendering. -/
def outcome (e : Entry) : Nat × String :=
  match e.render with
  | .text s => (Library.statusOk, s)
  | .failure message => (Library.statusFailed, message)
  | .panicked p => (Library.statusFailed, "'" ++ e.name ++ "' panicked: " ++ p.message)

def render (m : Manifest) (i : Nat) : Nat × String :=
  match m.listed[i]? with
  | some e => outcome e
  | none => (Library.statusNoSuchTemplate, "no template at index " ++ toString i)

/-- The module as those who load it see it. -/
def library (m : Manifest) : Library :=
  { version := some Library.supportedVersion
    count := some m.count
    name := some fun i => (m.name? i).map Text.Utf8.encode
    render := some fun i => ⟨(m.render i).1, some (Text.Utf8.encode (m.render i).2)⟩
    release := true }

end Manifest
end TemplateBatch.Stub
