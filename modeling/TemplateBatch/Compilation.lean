import TemplateBatch.Crate.Root
import TemplateBatch.Crate.Validation
import TemplateBatch.Configuration
import TemplateBatch.Diagnostic.CompilerReport
import TemplateBatch.Digest.Blake3
import TemplateBatch.Text.Quoted
import TemplateBatch.Toolchain

/-!
Building a module: the names are checked, a scratch crate is written, the compiler runs in it, and
what it left at the output path is the module. The scratch crate is gone afterwards in any case.
-/
namespace TemplateBatch

/-- A module as it was built. -/
structure CompiledModule where
  content : Bytes
  deriving DecidableEq, Repr

namespace CompiledModule

def digest (c : CompiledModule) : String := "blake3:" ++ Bytes.hex (Blake3.hash c.content)

def size (c : CompiledModule) : Nat := c.content.length

/-- The module in a message: its size and digest stand for its content. -/
def display (c : CompiledModule) : String :=
  "CompiledModule \x7b len: " ++ toString c.size ++ ", digest: " ++ Text.quoted c.digest ++ " \x7d"

end CompiledModule

inductive CompileError where
  | toolchain (cause : QueryError)
  | missingReference (name : String) (path : Path)
  | resource (cause : ResourceError)
  | system (cause : SystemError)
  deriving DecidableEq, Repr

def CompileError.message : CompileError → String
  | .toolchain cause => "Toolchain unavailable: " ++ cause.message
  | .missingReference name path => "Reference '" ++ name ++ "' not found at " ++ path.text
  | .resource cause => cause.message
  | .system cause => "I/O failed: " ++ cause.message

/-- How an unsuccessful end of a program is worded. -/
def ExitStatus.display : ExitStatus → String
  | .exited code => "exit status: " ++ toString code
  | .signaled number coreDumped =>
    "signal: " ++ toString number ++ signalName number
      ++ (if coreDumped then " (core dumped)" else "")
where
  signalName (number : Nat) : String :=
    match names[number]? with
    | some name => if name = "" then "" else " (" ++ name ++ ")"
    | none => ""
  names : List String :=
    ["", "SIGHUP", "SIGINT", "SIGQUIT", "SIGILL", "SIGTRAP", "SIGABRT", "SIGBUS", "SIGFPE",
      "SIGKILL", "SIGUSR1", "SIGSEGV", "SIGUSR2", "SIGPIPE", "SIGALRM", "SIGTERM", "SIGSTKFLT",
      "SIGCHLD", "SIGCONT", "SIGSTOP", "SIGTSTP", "SIGTTIN", "SIGTTOU", "SIGURG", "SIGXCPU",
      "SIGXFSZ", "SIGVTALRM", "SIGPROF", "SIGWINCH", "SIGIO", "SIGPWR", "SIGSYS"]

structure ModuleCompiler where
  toolchain : Toolchain
  options : CompilerOptions
  baseline : List Reference
  deriving DecidableEq, Repr

/-- What came of building a batch. No module and no error means that the sources were rejected. -/
structure Compilation where
  diagnostics : List Diagnostic
  result : Except CompileError (Option CompiledModule)

namespace ModuleCompiler

def ofToolchain (toolchain : Toolchain) (options : CompilerOptions) :
    Except CompileError ModuleCompiler :=
  match Reference.baseline with
  | .ok baseline => .ok { toolchain, options, baseline }
  | .error cause => .error (.resource cause)

def ofConfiguration (m : Machine) (c : Configuration) : Work CompileError ModuleCompiler := do
  let toolchain ← Work.mapError .toolchain (Toolchain.resolve m c.compiler)
  Work.ofExcept id (ofToolchain toolchain c.options)

/-- The first prebuilt crate that is no file. -/
def missing? (m : Machine) (t : FileTree) (references : List Reference) : Option (String × Path) :=
  (references.filterMap Reference.externalPath?).find? fun r => !t.isFile m.directory r.2

def externalArguments : Reference → List String
  | .source .. => []
  | .external name path =>
    ["--extern", name ++ "=" ++ path.text] ++
      match path.parent? with
      | some parent => if parent.text = "" then [] else ["-L", "dependency=" ++ parent.text]
      | none => []

def arguments (c : ModuleCompiler) (output : Path) (references : List Reference) : List String :=
  [Crate.rootFile, "--crate-name", Crate.crateName, "--crate-type", "cdylib",
    "--edition", c.options.edition, "-Copt-level=" ++ c.options.optimization,
    "--error-format", "json", "-o", output.text]
  ++ (if c.options.linkage = .dynamic then ["-Cprefer-dynamic"] else [])
  ++ references.flatMap externalArguments

def sourceMap (sources : List Source) : SourceMap :=
  sources.zipIdx.foldl (fun m s => m.insert (Crate.templateFile s.2) ⟨s.1.path⟩) .empty

/-- The report of a failed run, with an error of its own behind it when it holds none. -/
def rejection (diagnostics : List Diagnostic) (status : ExitStatus) : List Diagnostic :=
  if diagnostics.any Diagnostic.isError then diagnostics
  else diagnostics ++ [.error ("rustc failed with " ++ status.display)]

def writeFiles (m : Machine) (directory : Path) : List (String × String) → Work CompileError Unit
  | [] => pure ()
  | (name, text) :: files => do
    Work.changing .system fun t =>
      t.write m.directory (directory.join name) (Text.Utf8.encode text)
    writeFiles m directory files

/-- Build in the scratch directory. -/
def build (m : Machine) (c : ModuleCompiler) (sources : List Source) (references : List Reference)
    (directory : Path) : Work CompileError (List Diagnostic × Option CompiledModule) := do
  writeFiles m directory (Crate.files sources references)
  let output := directory.join Crate.outputFile
  let command : Command :=
    { program := c.toolchain.compiler
      arguments := c.arguments output references
      directory := some directory }
  match ← Work.running m command with
  | .error cause => throw (.toolchain (.notStarted c.toolchain.compiler cause))
  | .ok outcome =>
    if outcome.status.isSuccess then
      let content ← Work.reading .system fun t => t.read m.directory output
      return ([], some ⟨content⟩)
    else
      let report := Text.Utf8.decodeLossy outcome.errors
      return (rejection (CompilerReport.read (sourceMap sources) report) outcome.status, none)

def scratchName (k : Nat) : String := "rendergen-" ++ Machine.serial k

/-- Make a scratch directory, build in it and remove it. -/
def buildInScratch (m : Machine) (c : ModuleCompiler) (sources : List Source)
    (references : List Reference) :
    Work CompileError (List Diagnostic × Option CompiledModule) := do
  let directory := m.freshPath (← getThe World) m.temporary scratchName
  Work.changing .system fun t => t.makeDirectory m.directory directory 0o700
  Work.ensuring (c.build m sources references directory)
    fun w => { w with tree := (w.tree.removeTree m.directory directory).2 }

/-- Build one module of the sources. -/
def compile (m : Machine) (c : ModuleCompiler) (sources : List Source)
    (extra : List Reference) (w : World) : Compilation × World :=
  let references := c.baseline ++ extra
  match missing? m w.tree references with
  | some (name, path) => (⟨[], .error (.missingReference name path)⟩, w)
  | none =>
    match Crate.validate sources references with
    | [] =>
      match (c.buildInScratch m sources references).run w with
      | (.ok (diagnostics, result), w') => (⟨diagnostics, .ok result⟩, w')
      | (.error e, w') => (⟨[], .error e⟩, w')
    | problems => (⟨problems, .ok none⟩, w)

end ModuleCompiler
end TemplateBatch
