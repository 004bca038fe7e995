import TemplateBatch.Machine
import TemplateBatch.Text.Lines

/-!
The compiler that builds modules, and what it says of itself: its version, where it is installed and
what it builds for. The shared standard library stands in a directory that follows from these.
-/
namespace TemplateBatch

/-- Whether a file is the standard library built as a shared library. -/
def isSharedStandardLibrary (name : String) : Bool :=
  let stem := (Text.after? "lib".toList name.toList).getD name.toList
  (Text.after? "std-".toList stem).isSome && Text.endsWith name ".so"

/-- The first entry of a directory that is a shared standard library. -/
def findStandardLibrary (t : FileTree) (base : Location) (directory : Path) : Option Path :=
  match t.list base directory with
  | .ok names => (names.find? isSharedStandardLibrary).map directory.join
  | .error _ => none

structure Toolchain where
  compiler : Path
  version : String
  installation : Path
  target : String
  deriving DecidableEq, Repr

inductive QueryError where
  | notStarted (program : Path) (cause : SystemError)
  | failed (program : Path) (arguments : List String) (errors : String)
  deriving DecidableEq, Repr

def QueryError.message : QueryError → String
  | .notStarted program cause => "failed to run " ++ program.text ++ ": " ++ cause.message
  | .failed program arguments errors =>
    program.text ++ " " ++ Text.join " " arguments ++ " failed: " ++ errors

namespace Toolchain

/-- What modules are built for when the compiler does not say. -/
def hostTarget : String := "x86_64-unknown-linux-gnu"

/-- What the compiler prints when asked, without white space around it. -/
def query (m : Machine) (compiler : Path) (arguments : List String) : Work QueryError String := do
  match ← Work.running m { program := compiler, arguments } with
  | .error cause => throw (.notStarted compiler cause)
  | .ok outcome =>
    if outcome.status.isSuccess then return Text.trim (Text.Utf8.decodeLossy outcome.output)
    else throw (.failed compiler arguments (Text.trim (Text.Utf8.decodeLossy outcome.errors)))

/-- The target named in the compiler's description of itself. -/
def targetOf (description : String) : String :=
  match (Text.lines description.toList).findSome? (Text.after? "host:".toList) with
  | some target => String.ofList (Text.trimChars target)
  | none => hostTarget

/-- Ask a compiler, or the one on the search path, who it is. -/
def resolve (m : Machine) (compiler : Option Path) : Work QueryError Toolchain := do
  let compiler := compiler.getD ⟨"rustc"⟩
  let version ← query m compiler ["-V"]
  let installation ← query m compiler ["--print", "sysroot"]
  let description ← query m compiler ["-vV"]
  return { compiler, version, installation := ⟨installation⟩, target := targetOf description }

def libraryDirectory (t : Toolchain) : Path :=
  (((t.installation.join "lib").join "rustlib").join t.target).join "lib"

def standardLibrary? (t : Toolchain) (tree : FileTree) (base : Location) : Option Path :=
  findStandardLibrary tree base t.libraryDirectory

def isVersion (t : Toolchain) (version : String) : Bool := t.version == version

end Toolchain
end TemplateBatch
