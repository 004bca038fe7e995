import TemplateBatch.Crate.FixedText
import TemplateBatch.Reference
import TemplateBatch.Template

/-!
The files of a scratch crate that are written for a batch. The root declares the stub, the ambient
imports and a module for each reference and source, and lists every renderable in the manifest.
-/
namespace TemplateBatch.Crate

def stubFile : String := "rendergen_runtime.rs"

def ambientFile : String := "rendergen_ambient.rs"

def rootFile : String := "lib.rs"

def crateName : String := "rendergen_module"

def outputFile : String := "lib" ++ crateName ++ ".so"

def templateFile (index : Nat) : String := "template_" ++ toString index ++ ".rs"

def templateModule (index : Nat) : String := "__template_" ++ toString index

def referenceFile (name : String) : String := "ref_" ++ name ++ ".rs"

/-- A text of whole lines. -/
def unlines (lines : List String) : String := String.join (lines.map fun line => line ++ "\n")

def ambientImport : Reference → String
  | .source name _ => "pub use crate::" ++ name ++ ";"
  | .external name _ => "pub use ::" ++ name ++ ";"

/-- The imports that every template of the crate sees. -/
def ambient (references : List Reference) : String :=
  ambientText ++ unlines ("" :: references.map ambientImport)

def pathLine (file : String) : String := "#[path = \"" ++ file ++ "\"]"

def moduleLine (name : String) : String := "pub mod " ++ name ++ ";"

def referenceLines : Reference → List String
  | .source name _ => [pathLine (referenceFile name), moduleLine name]
  | .external .. => []

/-- An alias that a definition of the same name in the source puts aside. -/
def fallbackLine (name : String) : String :=
  "        pub type " ++ name ++ " = crate::__rendergen_runtime::Undefined;"

def sourceLines (source : Source) (index : Nat) : List String :=
  ["pub mod " ++ templateModule index ++ " \x7b",
    "    use super::__rendergen_ambient::*;",
    "    pub use self::__rendergen_fallback::*;",
    "    mod __rendergen_fallback \x7b"]
  ++ source.renderables.map fallbackLine
  ++ ["    \x7d",
    "    include!(\"" ++ templateFile index ++ "\");",
    "\x7d"]

def entryLine (index : Nat) (name : String) : String :=
  let type := templateModule index ++ "::" ++ name
  "    __rendergen_runtime::ManifestEntry \x7b name: \"" ++ name ++ "\", defined: <" ++ type
    ++ " as __rendergen_runtime::Template>::DEFINED, render: __rendergen_runtime::render::<" ++ type
    ++ "> \x7d,"

def entryLines (source : Source) (index : Nat) : List String :=
  source.renderables.map (entryLine index)

/-- The lines that `f` gives for each source under its number. -/
def forSources (f : Source → Nat → List String) (sources : List Source) : List String :=
  sources.zipIdx.flatMap fun s => f s.1 s.2

/-- The lines that are the same in every root. -/
def headLines : List String :=
  ["#![allow(dead_code, unused_imports, unused_variables, unused_mut, non_snake_case, " ++
      "non_camel_case_types, non_upper_case_globals)]",
    "",
    pathLine stubFile,
    moduleLine "__rendergen_runtime",
    pathLine ambientFile,
    moduleLine "__rendergen_ambient",
    ""]

def rootLines (sources : List Source) (references : List Reference) : List String :=
  headLines
  ++ references.flatMap referenceLines
  ++ [""]
  ++ forSources sourceLines sources
  ++ ["", "pub static __RENDERGEN_MANIFEST: &[__rendergen_runtime::ManifestEntry] = &["]
  ++ forSources entryLines sources
  ++ ["];"]

def root (sources : List Source) (references : List Reference) : String :=
  unlines (rootLines sources references)

def referenceFiles : Reference → List (String × String)
  | .source name text => [(referenceFile name, text)]
  | .external .. => []

/-- All files of the crate in the order in which they are written. -/
def files (sources : List Source) (references : List Reference) : List (String × String) :=
  [(stubFile, stubText), (ambientFile, ambient references)]
  ++ references.flatMap referenceFiles
  ++ sources.zipIdx.map (fun s => (templateFile s.2, s.1.text))
  ++ [(rootFile, root sources references)]

end TemplateBatch.Crate
