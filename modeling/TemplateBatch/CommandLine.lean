import TemplateBatch.CommandLine.Render

/-!
The program as a whole: its arguments ask for a job, and the job has an ending. Arguments that ask
for nothing sensible end it with a code of their own before anything is read or written.
-/
namespace TemplateBatch.CommandLine

def usageCode : Nat := 2

def versionText : String := "rendergen 1.0.0\n"

/-- What is told of arguments that ask for nothing sensible. -/
def usageText (vs : Variables) (e : UsageError) : String :=
  Emphasis.shown vs
    (Emphasis.fault "error:" ++ " " ++ e.message ++ "\n\nFor more information, try '"
      ++ Emphasis.literal "--help" ++ "'.\n")

def usageEnding (vs : Variables) (e : UsageError) : Ending := ⟨usageCode, "", usageText vs e⟩

def classNameText (path : String) (asTypePath : Bool) : String :=
  if asTypePath then (Identifier.typePath path).display else Identifier.className path

/-- Do a job on a machine. -/
def perform (m : Machine) (w : World) : Job → Ending × World
  | .help topic => (⟨0, topic.text m.environment, ""⟩, w)
  | .version => (⟨0, versionText, ""⟩, w)
  | .className path asTypePath => (⟨0, classNameText path asTypePath ++ "\n", ""⟩, w)
  | .render job =>
    match (render m job).run w with
    | (.ok ending, w') => (ending, w')
    | (.error e, w') => (.failed e, w')

/-- Run the program with its arguments. -/
def run (m : Machine) (w : World) (arguments : List String) : Ending × World :=
  match Job.read m.environment arguments with
  | .ok job => perform m w job
  | .error e => (usageEnding m.environment e, w)

end TemplateBatch.CommandLine
