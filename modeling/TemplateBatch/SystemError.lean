/-!
What the operating system answers when an operation on files or programs fails, with its wording.
-/
namespace TemplateBatch

inductive SystemError where
  | notFound
  | argumentsTooLong
  | badFormat
  | permissionDenied
  | busy
  | alreadyExists
  | notDirectory
  | isDirectory
  | invalidArgument
  | textBusy
  | nameTooLong
  | directoryNotEmpty
  | tooManyLinks
  | notText
  | nulInPath
  | nulInCommand
  /-- Any other cause, by its number and wording. -/
  | other (code : Nat) (wording : String)
  deriving DecidableEq, Repr, Inhabited

namespace SystemError

def numbered (wording : String) (code : Nat) : String :=
  wording ++ " (os error " ++ toString code ++ ")"

def message : SystemError → String
  | .notFound => numbered "No such file or directory" 2
  | .argumentsTooLong => numbered "Argument list too long" 7
  | .badFormat => numbered "Exec format error" 8
  | .permissionDenied => numbered "Permission denied" 13
  | .busy => numbered "Device or resource busy" 16
  | .alreadyExists => numbered "File exists" 17
  | .notDirectory => numbered "Not a directory" 20
  | .isDirectory => numbered "Is a directory" 21
  | .invalidArgument => numbered "Invalid argument" 22
  | .textBusy => numbered "Text file busy" 26
  | .nameTooLong => numbered "File name too long" 36
  | .directoryNotEmpty => numbered "Directory not empty" 39
  | .tooManyLinks => numbered "Too many levels of symbolic links" 40
  | .notText => "stream did not contain valid UTF-8"
  | .nulInPath => "file name contained an unexpected NUL byte"
  | .nulInCommand => "nul byte found in provided data"
  | .other code wording => numbered wording code

end SystemError
end TemplateBatch
