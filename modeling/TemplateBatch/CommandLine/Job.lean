import TemplateBatch.CommandLine.Argument
import TemplateBatch.CommandLine.Help
import TemplateBatch.Machine

/-!
What a command line asks for. A batch takes its configuration and its worker from the environment
where the arguments name none.
-/
namespace TemplateBatch.CommandLine

structure RenderJob where
  files : List Path
  outputDirectory : Path
  configuration : Option Path
  worker : Option Path
  externals : List (String × Path)
  json : Bool
  deriving DecidableEq, Repr

inductive Job where
  | help (topic : Topic)
  | version
  | className (path : String) (asTypePath : Bool)
  | render (job : RenderJob)
  deriving DecidableEq, Repr

/-- What the arguments of a batch have set so far. -/
structure RenderDraft where
  files : List Path := []
  outputDirectory : Option Path := none
  configuration : Option Path := none
  worker : Option Path := none
  externals : List (String × Path) := []
  json : Bool := false
  deriving DecidableEq, Repr

structure ClassNameDraft where
  path : Option String := none
  asTypePath : Bool := false
  deriving DecidableEq, Repr

/-- A draft with more in it, or the end of the reading by a call for help. -/
inductive Progress (α : Type) where
  | more (draft : α)
  | help
  deriving DecidableEq, Repr

namespace Job

def path? (argument value : String) : Except UsageError Path :=
  if value = "" then .error (.emptyValue argument) else .ok ⟨value⟩

/-- A prebuilt crate as its name and path with an equals sign between; blanks around either are
idle. -/
def external? (value : String) : Except UsageError (String × Path) :=
  let name := Text.trim (Options.cutLong value.toList).1
  match (Options.cutLong value.toList).2.map Text.trim with
  | none => .error (.malformedReference value)
  | some path =>
    if name = "" ∨ path = "" then .error (.malformedReference value) else .ok (name, ⟨path⟩)

def once (option : String) (old : Option Path) (value : String) : Except UsageError (Option Path) :=
  match old with
  | some _ => .error (.repeated option)
  | none => (path? option value).map some

/-- Take the marks in turn, and after them the failure that ended their reading. -/
def fold (add : α → Mark → Except UsageError (Progress α)) (failure : Option UsageError) :
    α → List Mark → Except UsageError (Progress α)
  | draft, [] =>
    match failure with
    | some cause => .error cause
    | none => .ok (.more draft)
  | draft, mark :: marks =>
    match add draft mark with
    | .error cause => .error cause
    | .ok .help => .ok .help
    | .ok (.more draft) => fold add failure draft marks

def renderOptions : Options where
  switches := ["json", "help"]
  valued := ["out-dir", "config", "worker", "extern"]
  letters := [('o', "out-dir"), ('h', "help")]

def addValue (d : RenderDraft) (name value : String) : Except UsageError RenderDraft :=
  if name = "out-dir" then do
    return { d with outputDirectory := ← once name d.outputDirectory value }
  else if name = "config" then do
    return { d with configuration := ← once name d.configuration value }
  else if name = "worker" then do
    return { d with worker := ← once name d.worker value }
  else do
    return { d with externals := d.externals ++ [← external? value] }

def addToRender (d : RenderDraft) : Mark → Except UsageError (Progress RenderDraft)
  | .positional value => do return .more { d with files := d.files ++ [← path? "FILES" value] }
  | .valued name value => do return .more (← addValue d name value)
  | .switch name =>
    if name = "help" then .ok .help
    else if d.json then .error (.repeated name)
    else .ok (.more { d with json := true })

/-- The variable of the environment where the arguments are silent. -/
def orVariable (vs : Variables) (key : String) (given : Option Path) :
    Except UsageError (Option Path) :=
  match given, vs.get? key with
  | some p, _ => .ok (some p)
  | none, some value => (path? key value).map some
  | none, none => .ok none

def finishRender (vs : Variables) (d : RenderDraft) : Except UsageError RenderJob := do
  let configuration ← orVariable vs Topic.configVariable d.configuration
  let worker ← orVariable vs Topic.workerVariable d.worker
  match d.outputDirectory with
  | none => .error (.missingArgument "--out-dir")
  | some outputDirectory =>
    if d.files = [] then .error (.missingArgument "FILES")
    else
      .ok
        { files := d.files
          outputDirectory
          configuration
          worker
          externals := d.externals
          json := d.json }

def readRender (vs : Variables) (arguments : List String) : Except UsageError Job := do
  let reading := renderOptions.read arguments
  match ← fold addToRender reading.failure {} reading.marks with
  | .help => .ok (.help .render)
  | .more d => return .render (← finishRender vs d)

def classNameOptions : Options where
  switches := ["type-path", "help"]
  valued := []
  letters := [('h', "help")]

def addToClassName (d : ClassNameDraft) : Mark → Except UsageError (Progress ClassNameDraft)
  | .positional value =>
    match d.path with
    | none => .ok (.more { d with path := some value })
    | some _ => .error (.unexpectedArgument value)
  | .valued name value => .error (.unexpectedValue name value)
  | .switch name =>
    if name = "help" then .ok .help
    else if d.asTypePath then .error (.repeated name)
    else .ok (.more { d with asTypePath := true })

def readClassName (arguments : List String) : Except UsageError Job := do
  let reading := classNameOptions.read arguments
  match ← fold addToClassName reading.failure {} reading.marks with
  | .help => .ok (.help .className)
  | .more d =>
    match d.path with
    | some path => .ok (.className path d.asTypePath)
    | none => .error (.missingArgument "PATH")

/-- Help about the command that is named; no command has commands of its own. -/
def readHelp : List String → Except UsageError Job
  | [] => .ok (.help .program)
  | ["render"] => .ok (.help .render)
  | ["class-name"] => .ok (.help .className)
  | ["help"] => .ok (.help .help)
  | name :: rest => .error (.unknownCommand (rest.head?.getD name))

def programOptions : Options where
  switches := ["help", "version"]
  valued := []
  letters := [('h', "help"), ('V', "version")]

/-- The job that the arguments of the program ask for. -/
def read (vs : Variables) : List String → Except UsageError Job
  | [] => .error .noCommand
  | argument :: rest =>
    match programOptions.shape argument with
    | .word =>
      if argument = "render" then readRender vs rest
      else if argument = "class-name" then readClassName rest
      else if argument = "help" then readHelp rest
      else .error (.unknownCommand argument)
    | .switch name => if name = "help" then .ok (.help .program) else .ok .version
    | .valued name _ => .error (.unknownOption name)
    | .escape => .error .noCommand
    | .refused cause => .error cause

end Job
end TemplateBatch.CommandLine
