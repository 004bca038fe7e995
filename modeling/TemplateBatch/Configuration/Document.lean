import TemplateBatch.Configuration
import TemplateBatch.FileTree.Operations
import TemplateBatch.Yaml.Node

/-!
Configuration documents. A document has three sections, each of which may be left out or empty;
unknown keys are passed over, a known key may stand once.
-/
namespace TemplateBatch.Configuration

/-- The entries of a mapping by the text of their keys; nothing written counts as no entries. -/
def entries? : Yaml.Node → Option (List (String × Yaml.Node))
  | .mapping es => es.mapM fun e => e.1.text?.map fun key => (key, e.2)
  | n => if n.isEmpty then some [] else none

/-- What stands under a key, `none` inside when it is absent; a repeated key is refused. -/
def find? (es : List (String × Yaml.Node)) (key : String) : Option (Option Yaml.Node) :=
  match es.filter fun e => e.1 == key with
  | [] => some none
  | [(_, n)] => some (some n)
  | _ => none

def readOr (es : List (String × Yaml.Node)) (key : String) (default : α)
    (value? : Yaml.Node → Option α) : Option α :=
  match find? es key with
  | none => none
  | some none => some default
  | some (some n) => value? n

def path? (n : Yaml.Node) : Option (Option Path) :=
  if n.isNull then some none else n.text?.map fun t => some ⟨t⟩

def linkage? (n : Yaml.Node) : Option Linkage :=
  n.text?.bind fun t => (Linkage.choices.find? fun c => c.1 == t).map fun c => c.2

/-- A section read over the configuration so far. -/
def readSection? (es : List (String × Yaml.Node)) (key : String) (c : Configuration)
    (read? : Configuration → List (String × Yaml.Node) → Option Configuration) :
    Option Configuration :=
  readOr es key c fun n => (entries? n).bind (read? c)

def compilerSection? (c : Configuration) (es : List (String × Yaml.Node)) :
    Option Configuration := do
  let compiler ← readOr es "rustc" none path?
  let edition ← readOr es "edition" c.options.edition Yaml.Node.text?
  let optimization ← readOr es "opt_level" c.options.optimization Yaml.Node.text?
  let linkage ← readOr es "linkage" c.options.linkage linkage?
  return { c with compiler, options := { edition, optimization, linkage } }

def workerSection? (c : Configuration) (es : List (String × Yaml.Node)) : Option Configuration := do
  let stagingDirectory ← readOr es "staging_dir" none path?
  let runtimeDirectory ← readOr es "runtime_dir" none path?
  return { c with stagingDirectory, runtimeDirectory }

def outputSection? (c : Configuration) (es : List (String × Yaml.Node)) : Option Configuration := do
  let templateExtension ← readOr es "template_extension" c.output.templateExtension Yaml.Node.text?
  let outputSuffix ← readOr es "output_suffix" c.output.outputSuffix Yaml.Node.text?
  let stripCodeTags ← readOr es "strip_code_tags" c.output.stripCodeTags Yaml.Node.bool?
  let formatCode ← readOr es "format_code" c.output.formatCode Yaml.Node.bool?
  return { c with output := { templateExtension, outputSuffix, stripCodeTags, formatCode } }

def ofNode? (n : Yaml.Node) : Option Configuration := do
  let es ← entries? n
  let c ← readSection? es "compiler" {} compilerSection?
  let c ← readSection? es "worker" c workerSection?
  readSection? es "output" c outputSection?

/-- The configuration that a document describes; `path` names the document in an error. -/
def ofDocument (path document : String) : Except ConfigurationError Configuration :=
  match (Yaml.Node.read? document).bind ofNode? with
  | some c => .ok c
  | none => .error (.malformed path)

def ofText (document : String) : Except ConfigurationError Configuration :=
  ofDocument "<inline>" document

/-- The configuration in a file. -/
def load (t : FileTree) (base : Location) (p : Path) : Except ConfigurationError Configuration :=
  match t.readText base p with
  | .error cause => .error (.unreadable p cause)
  | .ok document => ofDocument p.text document

end TemplateBatch.Configuration
