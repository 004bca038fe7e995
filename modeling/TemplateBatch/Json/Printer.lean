import TemplateBatch.Json.Basic

/-!
Writing JSON, either compactly or with one item to a line and two spaces for each level. Strings
escape the quote, the backslash and the controls below the space, and nothing else.
-/
namespace TemplateBatch.Json

def lowerHexDigit (n : Nat) : Char := Nat.digitChar n

def printedChar (c : Char) : List Char :=
  if c = '"' then ['\\', '"']
  else if c = '\\' then ['\\', '\\']
  else if c = '\n' then ['\\', 'n']
  else if c = '\r' then ['\\', 'r']
  else if c = '\t' then ['\\', 't']
  else if c.toNat = 8 then ['\\', 'b']
  else if c.toNat = 12 then ['\\', 'f']
  else if c.toNat < 32 then
    ['\\', 'u', '0', '0', lowerHexDigit (c.toNat / 16), lowerHexDigit (c.toNat % 16)]
  else [c]

/-- A string in quotes; half of a surrogate pair is shown as one replacement. -/
def printedString (value : Option (List Char)) : List Char :=
  ['"'] ++ (value.getD [Char.ofNat 0xFFFD]).flatMap printedChar ++ ['"']

mutual

/-- The value on one line without spaces. -/
def compactChars : Json → List Char
  | .null => ['n', 'u', 'l', 'l']
  | .boolean true => ['t', 'r', 'u', 'e']
  | .boolean false => ['f', 'a', 'l', 's', 'e']
  | .number literal => literal
  | .string value => printedString value
  | .array items => ['['] ++ compactItems items ++ [']']
  | .object members => ['\x7b'] ++ compactMembers members ++ ['\x7d']

def compactItems : List Json → List Char
  | [] => []
  | [item] => compactChars item
  | item :: items => compactChars item ++ [','] ++ compactItems items

def compactMembers : List (Option (List Char) × Json) → List Char
  | [] => []
  | [(key, value)] => printedString key ++ [':'] ++ compactChars value
  | (key, value) :: members =>
    printedString key ++ [':'] ++ compactChars value ++ [','] ++ compactMembers members

end

def margin (depth : Nat) : List Char := '\n' :: List.replicate (2 * depth) ' '

mutual

/-- The value over several lines, its own first line standing at `depth`. -/
def prettyChars (depth : Nat) : Json → List Char
  | .null => ['n', 'u', 'l', 'l']
  | .boolean true => ['t', 'r', 'u', 'e']
  | .boolean false => ['f', 'a', 'l', 's', 'e']
  | .number literal => literal
  | .string value => printedString value
  | .array [] => ['[', ']']
  | .array (item :: items) =>
    ['['] ++ prettyItems (depth + 1) (item :: items) ++ margin depth ++ [']']
  | .object [] => ['\x7b', '\x7d']
  | .object (member :: members) =>
    ['\x7b'] ++ prettyMembers (depth + 1) (member :: members) ++ margin depth ++ ['\x7d']

def prettyItems (depth : Nat) : List Json → List Char
  | [] => []
  | [item] => margin depth ++ prettyChars depth item
  | item :: items => margin depth ++ prettyChars depth item ++ [','] ++ prettyItems depth items

def prettyMembers (depth : Nat) : List (Option (List Char) × Json) → List Char
  | [] => []
  | [(key, value)] => margin depth ++ printedString key ++ [':', ' '] ++ prettyChars depth value
  | (key, value) :: members =>
    margin depth ++ printedString key ++ [':', ' '] ++ prettyChars depth value ++ [',']
      ++ prettyMembers depth members

end

def compact (value : Json) : String := String.ofList (compactChars value)

def pretty (value : Json) : String := String.ofList (prettyChars 0 value)

end TemplateBatch.Json
