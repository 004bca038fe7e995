import TemplateBatch.CommandLine.Emphasis

/-!
Arguments of a command read from left to right against the options that the command knows. What is
read comes as a list of marks, together with the failure that ended the reading, if one did: the
marks in front of a failure are looked at before it.
-/
namespace TemplateBatch.CommandLine

inductive UsageError where
  | noCommand
  | unknownCommand (name : String)
  | unknownOption (argument : String)
  | unexpectedArgument (value : String)
  | missingValue (option : String)
  | unexpectedValue (option value : String)
  | emptyValue (argument : String)
  | repeated (option : String)
  | malformedReference (value : String)
  | missingArgument (argument : String)
  deriving DecidableEq, Repr

def UsageError.message : UsageError → String
  | .noCommand => "a command is required"
  | .unknownCommand name => "unrecognized command '" ++ name ++ "'"
  | .unknownOption argument => "unknown option '" ++ argument ++ "'"
  | .unexpectedArgument value => "unexpected argument '" ++ value ++ "'"
  | .missingValue option => "a value is required for '--" ++ option ++ "'"
  | .unexpectedValue option value => "unexpected value '" ++ value ++ "' for '--" ++ option ++ "'"
  | .emptyValue argument => "the value of '" ++ argument ++ "' is empty"
  | .repeated option => "'--" ++ option ++ "' is given more than once"
  | .malformedReference value =>
    "invalid value '" ++ Emphasis.suspect value ++ "' for '"
      ++ Emphasis.literal "--extern <NAME=PATH>" ++ "': expected NAME=PATH, got '" ++ value ++ "'"
  | .missingArgument argument => "'" ++ argument ++ "' is required"

/-- The options of a command by their long names, and the letters that stand for some of them. A
switch that has a letter ends the reading, so what is joined to the letter is never looked at. -/
structure Options where
  switches : List String
  valued : List String
  letters : List (Char × String)

inductive Mark where
  | positional (value : String)
  | switch (name : String)
  | valued (name value : String)
  deriving DecidableEq, Repr

/-- An argument by itself. -/
inductive Shape where
  | escape
  | word
  | switch (name : String)
  /-- The value is there when it is joined to the name. -/
  | valued (name : String) (joined : Option String)
  | refused (cause : UsageError)
  deriving DecidableEq, Repr

structure Reading where
  marks : List Mark
  failure : Option UsageError
  deriving DecidableEq, Repr

namespace Reading

def done : Reading := ⟨[], none⟩

def failed (cause : UsageError) : Reading := ⟨[], some cause⟩

def after (r : Reading) (mark : Mark) : Reading := { r with marks := mark :: r.marks }

end Reading

namespace Options

def letter? (o : Options) (c : Char) : Option String :=
  (o.letters.find? fun l => l.1 == c).map fun l => l.2

def nameShape (o : Options) (argument name : String) (joined : Option String) : Shape :=
  if o.valued.contains name then .valued name joined
  else if o.switches.contains name then
    match joined with
    | none => .switch name
    | some value => .refused (.unexpectedValue name value)
  else .refused (.unknownOption argument)

def joinedToLetter : List Char → Option String
  | [] => none
  | '=' :: value => some (String.ofList value)
  | value => some (String.ofList value)

def letterShape (o : Options) (argument : String) (c : Char) (rest : List Char) : Shape :=
  match o.letter? c with
  | none => .refused (.unknownOption argument)
  | some name =>
    if o.valued.contains name then .valued name (joinedToLetter rest) else .switch name

/-- A long name and the value behind its first equals sign. -/
def cutLong (cs : List Char) : String × Option String :=
  (String.ofList (cs.takeWhile (· != '=')),
    match cs.dropWhile (· != '=') with
    | [] => none
    | _ :: value => some (String.ofList value))

def shape (o : Options) (argument : String) : Shape :=
  match argument.toList with
  | ['-', '-'] => .escape
  | '-' :: '-' :: cs => o.nameShape argument (cutLong cs).1 (cutLong cs).2
  | '-' :: c :: cs => o.letterShape argument c cs
  | _ => .word

/-- The marks of the arguments, and why the reading ended early if it did. -/
def read (o : Options) : List String → Reading
  | [] => .done
  | argument :: rest =>
    match o.shape argument with
    | .escape => ⟨rest.map .positional, none⟩
    | .word => (o.read rest).after (.positional argument)
    | .switch name => (o.read rest).after (.switch name)
    | .valued name (some value) => (o.read rest).after (.valued name value)
    | .refused cause => .failed cause
    | .valued name none =>
      match rest with
      | [] => .failed (.missingValue name)
      | value :: rest =>
        match o.shape value, rest.head?.map o.shape with
        | .word, some (.refused cause) => .failed cause
        | .word, _ => (o.read rest).after (.valued name value)
        | _, _ => .failed (.missingValue name)

end Options
end TemplateBatch.CommandLine
