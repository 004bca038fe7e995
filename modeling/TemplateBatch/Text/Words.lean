import TemplateBatch.Text.Basic
import TemplateBatch.Text.CaseMapping

/-!
Words of an identifier and the four usual ways to write them together. A word ends at a character
that is neither letter nor number and before an upper-case letter that follows a lower-case letter
or a number.
-/
namespace TemplateBatch.Text

/-- Words of what follows `current`; `afterLower` tells that its last character was lower-case or a
number. -/
def wordsFrom (current : List Char) (afterLower : Bool) : List Char → List (List Char)
  | [] => if current.isEmpty then [] else [current]
  | c :: rest =>
    if isAlphanumeric c then
      let continues := isLowercase c || isNumeric c
      if isUppercase c && afterLower && !current.isEmpty then
        current :: wordsFrom (toLowercase c) continues rest
      else wordsFrom (current ++ toLowercase c) continues rest
    else if current.isEmpty then wordsFrom [] false rest
    else current :: wordsFrom [] false rest

/-- The words of a text in lower case. -/
def words (cs : List Char) : List (List Char) := wordsFrom [] false cs

def capitalize : List Char → List Char
  | [] => []
  | c :: rest => toUppercase c ++ rest

def snakeCaseChars (cs : List Char) : List Char := joinChars ['_'] (words cs)

def pascalCaseChars (cs : List Char) : List Char := (words cs).flatMap capitalize

def camelCaseChars (cs : List Char) : List Char :=
  match pascalCaseChars cs with
  | [] => []
  | c :: rest => toLowercase c ++ rest

def screamingCaseChars (cs : List Char) : List Char := (snakeCaseChars cs).flatMap toUppercase

def snakeCase (s : String) : String := String.ofList (snakeCaseChars s.toList)

def pascalCase (s : String) : String := String.ofList (pascalCaseChars s.toList)

def camelCase (s : String) : String := String.ofList (camelCaseChars s.toList)

def screamingCase (s : String) : String := String.ofList (screamingCaseChars s.toList)

end TemplateBatch.Text
