import TemplateBatch.Text.Basic
import TemplateBatch.Text.Hexadecimal
import TemplateBatch.Text.Printable

/-!
Texts between double quotes, for messages: a quote, a backslash and the usual white space have
short escapes, and whatever a reader could not see is written by its code point.
-/
namespace TemplateBatch.Text

def codePointEscape (c : Char) : List Char :=
  ['\\', 'u', '{'] ++ hexDigits c.toNat ++ ['}']

def quotedChar (c : Char) : List Char :=
  if c = '"' then ['\\', '"']
  else if c = '\\' then ['\\', '\\']
  else if c = '\n' then ['\\', 'n']
  else if c = '\r' then ['\\', 'r']
  else if c = '\t' then ['\\', 't']
  else if c.toNat = 0 then ['\\', '0']
  else if isDependent c || !isPrintable c then codePointEscape c
  else [c]

def quoted (s : String) : String :=
  String.ofList (['"'] ++ s.toList.flatMap quotedChar ++ ['"'])

/-- A list of quoted texts in brackets. -/
def quotedList (items : List String) : String :=
  "[" ++ join ", " (items.map quoted) ++ "]"

end TemplateBatch.Text
