import TemplateBatch.CommandLine.Emphasis
import TemplateBatch.Text.Lines

/-!
What the commands say about themselves.
-/
namespace TemplateBatch.CommandLine

open Emphasis (heading literal)

inductive Topic where
  | program
  | render
  | className
  | help
  deriving DecidableEq, Repr

namespace Topic

def configVariable : String := "RENDERGEN_CONFIG"

def workerVariable : String := "RENDERGEN_WORKER"

/-- The columns before the explanation of an option of the batch command. -/
def optionMargin : Nat := 28

/-- A variable that an option falls back on, and its value; further lines of it are indented. -/
def fallback (vs : Variables) (key : String) : String :=
  let margin := String.ofList (List.replicate optionMargin ' ')
  Text.hang ("[env: " ++ key ++ "=") margin ((vs.get? key).getD "") ++ "]"

def lines (vs : Variables) : Topic → List String
  | .program =>
    ["Compile and render template batches",
      "",
      heading "Usage:" ++ " " ++ literal "rendergen" ++ " <COMMAND>",
      "",
      heading "Commands:",
      "  " ++ literal "render" ++ "      Compile a batch of templates and write what they render",
      "  " ++ literal "class-name" ++ "  Print the type name a template at PATH must define",
      "  " ++ literal "help"
        ++ "        Print this message or the help of the given subcommand(s)",
      "",
      heading "Options:",
      "  " ++ literal "-h" ++ ", " ++ literal "--help" ++ "     Print help",
      "  " ++ literal "-V" ++ ", " ++ literal "--version" ++ "  Print version"]
  | .render =>
    ["Compile a batch of templates and write what they render",
      "",
      heading "Usage:" ++ " " ++ literal "rendergen render" ++ " [OPTIONS] " ++ literal "--out-dir"
        ++ " <OUT_DIR> <FILES>...",
      "",
      heading "Arguments:",
      "  <FILES>...  Translated template sources",
      "",
      heading "Options:",
      "  " ++ literal "-o" ++ ", " ++ literal "--out-dir"
        ++ " <OUT_DIR>   Directory rendered files are written to",
      "      " ++ literal "--config" ++ " <CONFIG>     YAML configuration file "
        ++ fallback vs configVariable,
      "      " ++ literal "--worker"
        ++ " <WORKER>     Worker executable to stage instead of the embedded one "
        ++ fallback vs workerVariable,
      "      " ++ literal "--extern" ++ " <NAME=PATH>  Extra crate to link, as NAME=PATH",
      "      " ++ literal "--json"
        ++ "                Print diagnostics as JSON lines on stdout",
      "  " ++ literal "-h" ++ ", " ++ literal "--help" ++ "                Print help"]
  | .className =>
    ["Print the type name a template at PATH must define",
      "",
      heading "Usage:" ++ " " ++ literal "rendergen class-name" ++ " [OPTIONS] <PATH>",
      "",
      heading "Arguments:",
      "  <PATH>  ",
      "",
      heading "Options:",
      "      " ++ literal "--type-path" ++ "  Print the module-path style name instead",
      "  " ++ literal "-h" ++ ", " ++ literal "--help" ++ "       Print help"]
  | .help =>
    ["Print this message or the help of the given subcommand(s)",
      "",
      heading "Usage:" ++ " " ++ literal "rendergen help" ++ " [COMMAND]...",
      "",
      heading "Arguments:",
      "  [COMMAND]...  Print help for the subcommand(s)"]

def text (vs : Variables) (t : Topic) : String :=
  Emphasis.shown vs (Text.join "\n" (t.lines vs) ++ "\n")

end Topic
end TemplateBatch.CommandLine
