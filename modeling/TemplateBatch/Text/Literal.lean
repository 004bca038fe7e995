import TemplateBatch.Text.Hexadecimal
import TemplateBatch.Text.Quoted

/-!
Bodies of string literals in generated code. The escaped form is printable ASCII throughout. The
reader takes the same escapes, and a literal ends for it at the first quote that is not escaped.
-/
namespace TemplateBatch.Text

def literalChar (c : Char) : List Char :=
  if c = '\t' then ['\\', 't']
  else if c = '\r' then ['\\', 'r']
  else if c = '\n' then ['\\', 'n']
  else if c = '\'' then ['\\', '\'']
  else if c = '"' then ['\\', '"']
  else if c = '\\' then ['\\', '\\']
  else if 32 ≤ c.toNat ∧ c.toNat < 127 then [c]
  else codePointEscape c

def literalBodyChars (cs : List Char) : List Char := cs.flatMap literalChar

def literalBody (s : String) : String := String.ofList (literalBodyChars s.toList)

def shortEscape? (c : Char) : Option Char :=
  if c = 't' then some '\t'
  else if c = 'r' then some '\r'
  else if c = 'n' then some '\n'
  else if c = '\'' then some '\''
  else if c = '"' then some '"'
  else if c = '\\' then some '\\'
  else none

/-- Where in a literal a text stands: between its characters, behind a backslash, in front of the
brace of a code point, or behind a number of its digits and what they amount to. -/
inductive LiteralState where
  | between
  | escape
  | brace
  | digits (count value : Nat)
  deriving DecidableEq, Repr

/-- A character in front of what the rest of a literal denotes. -/
def withFirst (c : Char) (read : Option (List Char × List Char)) :
    Option (List Char × List Char) :=
  read.map fun r => (c :: r.1, r.2)

/-- What a literal denotes from a state on, and the text behind the quote that ends it. A code point
has one to six digits; a carriage return stands in a literal only as an escape. -/
def readLiteralFrom : LiteralState → List Char → Option (List Char × List Char)
  | _, [] => none
  | .between, c :: rest =>
    if c = '"' then some ([], rest)
    else if c = '\\' then readLiteralFrom .escape rest
    else if c = '\r' then none
    else withFirst c (readLiteralFrom .between rest)
  | .escape, c :: rest =>
    if c = 'u' then readLiteralFrom .brace rest
    else
      match shortEscape? c with
      | some d => withFirst d (readLiteralFrom .between rest)
      | none => none
  | .brace, c :: rest => if c = '{' then readLiteralFrom (.digits 0 0) rest else none
  | .digits count value, c :: rest =>
    if c = '}' then
      match if count = 0 then none else scalar? value with
      | some d => withFirst d (readLiteralFrom .between rest)
      | none => none
    else
      match if count < 6 then hexValue? c else none with
      | some digit => readLiteralFrom (.digits (count + 1) (value * 16 + digit)) rest
      | none => none

/-- What the characters behind the opening quote of a literal denote, and the text behind it. -/
def readLiteral (cs : List Char) : Option (List Char × List Char) := readLiteralFrom .between cs

/-- The text that a literal with this body denotes, when the quote behind the body is the one that
ends the literal. -/
def readLiteralBody (body : String) : Option String :=
  match readLiteral (body.toList ++ ['"']) with
  | some (value, []) => some (String.ofList value)
  | _ => none

end TemplateBatch.Text
