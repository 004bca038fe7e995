import TemplateBatch.Pipeline
import TemplateBatch.Text.Lines

/-!
Why a command fails, as it is told on the error channel: the failure, and below it what caused it.
-/
namespace TemplateBatch.CommandLine

inductive Failure where
  | configuration (cause : ConfigurationError)
  | worker (path : Path) (cause : SystemError)
  | noWorker
  | template (path : Path) (cause : SystemError)
  | host (cause : HostError)
  | outputDirectory (path : Path) (cause : SystemError)
  | output (path : Path) (cause : SystemError)
  deriving DecidableEq, Repr

namespace Failure

def message : Failure → String
  | .configuration cause => cause.message
  | .worker path _ => "Cannot read worker executable " ++ path.text
  | .noWorker => "No worker executable embedded in this build; pass --worker"
  | .template path _ => "Cannot read template " ++ path.text
  | .host cause => cause.message
  | .outputDirectory path _ => "Cannot create output directory " ++ path.text
  | .output path _ => "Cannot write " ++ path.text

def configurationCauses : ConfigurationError → List String
  | .unreadable _ cause => [cause.message]
  | .malformed _ => []
  | .invalidValue .. => []

def hostCauses : HostError → List String
  | .resource cause => [cause.message]
  | .configuration cause => cause.message :: configurationCauses cause
  | _ => []

/-- What lies behind a failure, the nearest cause first. -/
def causes : Failure → List String
  | .configuration cause => configurationCauses cause
  | .worker _ cause => [cause.message]
  | .noWorker => []
  | .template _ cause => [cause.message]
  | .host cause => hostCauses cause
  | .outputDirectory _ cause => [cause.message]
  | .output _ cause => [cause.message]

/-- A cause with its number in five columns. -/
def numbered (k : Nat) (text : String) : String :=
  let number := toString k
  let margin := String.ofList (List.replicate (5 - number.length) ' ')
  Text.hang (margin ++ number ++ ": ") "       " text

/-- A single cause is only indented; several are numbered from zero. -/
def causeLines : List String → List String
  | [] => []
  | [cause] => ["", "Caused by:", Text.hang "    " "    " cause]
  | causes => ["", "Caused by:"] ++ causes.mapIdx numbered

def text (f : Failure) : String :=
  Text.join "\n" (("Error: " ++ f.message) :: causeLines f.causes) ++ "\n"

end Failure
end TemplateBatch.CommandLine
