import TemplateBatch.CommandLine

/-!
The program on its channels. It describes the machine by what stands outside of files and programs;
the jobs that need neither are done as they are, and a batch finds no file to read.
-/
namespace TemplateBatch

/-- The variables that the program reads. -/
def knownVariables : List String :=
  ["PATH", CommandLine.Topic.configVariable, CommandLine.Topic.workerVariable,
    Configuration.compilerVariable, Configuration.stagingVariable, Configuration.runtimeVariable,
    Configuration.formatVariable]

def readVariables : IO Variables :=
  knownVariables.filterMapM fun key => do return (← IO.getEnv key).map fun value => (key, value)

/-- A machine that can start no program. -/
def bareMachine (environment : Variables) : Machine where
  directory := []
  executable := ⟨"/rendergen"⟩
  environment
  temporary := ⟨"/tmp"⟩
  program := fun _ => .error .notFound

end TemplateBatch

def main (arguments : List String) : IO UInt32 := do
  let machine := TemplateBatch.bareMachine (← TemplateBatch.readVariables)
  let (ending, _) := TemplateBatch.CommandLine.run machine ⟨.empty, 0, []⟩ arguments
  (← IO.getStdout).putStr ending.output
  (← IO.getStderr).putStr ending.errors
  return ending.code.toUInt32
