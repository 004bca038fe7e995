import TemplateBatch.Bundle.Embedded
import TemplateBatch.Text.Utf8

/-!
The resources that a host carries with it, by name and in order of first mention. Writing a name
again replaces its content in place.
-/
namespace TemplateBatch

structure Resource where
  name : String
  content : Bytes
  deriving DecidableEq, Repr

structure Bundle where
  entries : List Resource
  deriving DecidableEq, Repr

inductive ResourceError where
  | missing (name : String)
  | emptyGroup (start : String)
  | notText (name : String)
  deriving DecidableEq, Repr

def ResourceError.message : ResourceError → String
  | .missing name => "resource not found '" ++ name ++ "'"
  | .emptyGroup start => "no resources with prefix '" ++ start ++ "'"
  | .notText name => "resource '" ++ name ++ "' is not valid UTF-8"

namespace Bundle

def referencesStart : String := "rendergen.references."

def workerStart : String := "rendergen.worker."

/-- File name of the staged worker. -/
def workerFileName : String := "rendergen-worker"

/-- File name of the run configuration beside the worker. -/
def configurationFileName : String := "rendergen-worker.runtimeconfig.json"

def workerResource : String := workerStart ++ workerFileName

def configurationResource : String := workerStart ++ configurationFileName

def empty : Bundle := ⟨[]⟩

/-- The entries after `content` was written under `name`. -/
def put (name : String) (content : Bytes) : List Resource → List Resource
  | [] => [⟨name, content⟩]
  | entry :: entries =>
    if entry.name = name then ⟨name, content⟩ :: entries else entry :: put name content entries

def insert (b : Bundle) (name : String) (content : Bytes) : Bundle := ⟨put name content b.entries⟩

def insertWorker (b : Bundle) (content : Bytes) : Bundle := b.insert workerResource content

def insertConfiguration (b : Bundle) (content : Bytes) : Bundle :=
  b.insert configurationResource content

def names (b : Bundle) : List String := b.entries.map Resource.name

def get? (b : Bundle) (name : String) : Option Bytes :=
  (b.entries.find? fun entry => entry.name == name).map Resource.content

def require (b : Bundle) (name : String) : Except ResourceError Bytes :=
  match b.get? name with
  | some content => .ok content
  | none => .error (.missing name)

def startingWith (b : Bundle) (start : String) : List Resource :=
  b.entries.filter fun entry => Text.startsWith entry.name start

def hasWorker (b : Bundle) : Bool := (b.get? workerResource).isSome

/-- The helper libraries and the run configuration; a worker has to be added. -/
def embedded : Bundle :=
  ((empty.insert (referencesStart ++ "text.rs") (Text.Utf8.encode Embedded.textLibrary)).insert
    (referencesStart ++ "casing.rs") (Text.Utf8.encode Embedded.casingLibrary)).insertConfiguration
    (Text.Utf8.encode Embedded.runConfiguration)

end Bundle
end TemplateBatch
