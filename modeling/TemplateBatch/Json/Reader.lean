import TemplateBatch.Json.Basic
import TemplateBatch.Text.Hexadecimal

/-!
Reading JSON strictly. White space is space, tab, line feed and carriage return; a string holds no
raw control character; nothing but white space follows the value. Each reader returns what it read
and what is left of the text.
-/
namespace TemplateBatch.Json

def isSpace (c : Char) : Bool := c == ' ' || c == '\t' || c == '\n' || c == '\r'

def skipSpace (cs : List Char) : List Char := cs.dropWhile isSpace

/-- The code unit that four hexadecimal digits name. -/
def readUnit : List Char → Option (Nat × List Char)
  | a :: b :: c :: d :: rest => do
    let a ← Text.hexValue? a
    let b ← Text.hexValue? b
    let c ← Text.hexValue? c
    let d ← Text.hexValue? d
    return (((a * 16 + b) * 16 + c) * 16 + d, rest)
  | _ => none

def isHighSurrogate (n : Nat) : Bool := 0xD800 ≤ n && n ≤ 0xDBFF

def isLowSurrogate (n : Nat) : Bool := 0xDC00 ≤ n && n ≤ 0xDFFF

/-- The character of the escape that starts with `unit`; `none` for half of a surrogate pair. -/
def readPair (unit : Nat) (rest : List Char) : Option Char × List Char :=
  if isHighSurrogate unit then
    match rest with
    | '\\' :: 'u' :: more =>
      match readUnit more with
      | some (low, rest') =>
        if isLowSurrogate low then
          (some (Char.ofNat (0x10000 + (unit - 0xD800) * 0x400 + (low - 0xDC00))), rest')
        else (none, rest)
      | none => (none, rest)
    | _ => (none, rest)
  else if isLowSurrogate unit then (none, rest)
  else (some (Char.ofNat unit), rest)

def escaped? (c : Char) : Option Char :=
  if c = '"' then some '"'
  else if c = '\\' then some '\\'
  else if c = '/' then some '/'
  else if c = 'b' then some (Char.ofNat 8)
  else if c = 'f' then some (Char.ofNat 12)
  else if c = 'n' then some '\n'
  else if c = 'r' then some '\r'
  else if c = 't' then some '\t'
  else none

/-- One character of a string, `none` inside when it is half of a surrogate pair. -/
def readChar : List Char → Option (Option Char × List Char)
  | [] => none
  | '\\' :: 'u' :: rest => do
    let (unit, rest') ← readUnit rest
    return readPair unit rest'
  | '\\' :: c :: rest => (escaped? c).map fun d => (some d, rest)
  | c :: rest => if c = '\\' ∨ c.toNat < 32 then none else some (some c, rest)

/-- What a string holds behind its opening quote; `before` is what was read, the last character
first. -/
def readStringFrom : (fuel : Nat) → (before : Option (List Char)) → List Char →
    Option (Option (List Char) × List Char)
  | 0, _, _ => none
  | _ + 1, _, [] => none
  | fuel + 1, before, c :: rest =>
    if c = '"' then some (before.map List.reverse, rest)
    else
      match readChar (c :: rest) with
      | some (found, rest') =>
        readStringFrom fuel (before.bind fun cs => found.map fun d => d :: cs) rest'
      | none => none

/-- A string behind its opening quote, of at most `fuel` characters with the closing quote. -/
def readString (fuel : Nat) (cs : List Char) : Option (Option (List Char) × List Char) :=
  readStringFrom fuel (some []) cs

def digits (cs : List Char) : List Char × List Char :=
  (cs.takeWhile Char.isDigit, cs.dropWhile Char.isDigit)

/-- One digit or more. -/
def readDigits (cs : List Char) : Option (List Char × List Char) :=
  if (digits cs).1 = [] then none else some (digits cs)

def readFraction (cs : List Char) : Option (List Char × List Char) :=
  match cs with
  | '.' :: rest => (readDigits rest).map fun r => ('.' :: r.1, r.2)
  | _ => some ([], cs)

def readExponent (cs : List Char) : Option (List Char × List Char) :=
  match cs with
  | c :: rest =>
    if c = 'e' ∨ c = 'E' then
      match rest with
      | '+' :: more => (readDigits more).map fun r => (c :: '+' :: r.1, r.2)
      | '-' :: more => (readDigits more).map fun r => (c :: '-' :: r.1, r.2)
      | _ => (readDigits rest).map fun r => (c :: r.1, r.2)
    else some ([], cs)
  | [] => some ([], cs)

/-- A run of digits that does not start with a zero, unless it is that zero. -/
def readInteger (cs : List Char) : Option (List Char × List Char) := do
  let (whole, rest) ← readDigits cs
  if whole.head? = some '0' ∧ whole.length ≠ 1 then none else some (whole, rest)

def readNumber (cs : List Char) : Option (List Char × List Char) := do
  let sign := if cs.head? = some '-' then ['-'] else []
  let (whole, rest) ← readInteger (cs.drop sign.length)
  let (fraction, rest) ← readFraction rest
  let (exponent, rest) ← readExponent rest
  return (sign ++ whole ++ fraction ++ exponent, rest)

mutual

/-- One value, white space before it skipped. -/
def readValue : (fuel : Nat) → List Char → Option (Json × List Char)
  | 0, _ => none
  | fuel + 1, cs =>
    match skipSpace cs with
    | 'n' :: 'u' :: 'l' :: 'l' :: rest => some (.null, rest)
    | 't' :: 'r' :: 'u' :: 'e' :: rest => some (.boolean true, rest)
    | 'f' :: 'a' :: 'l' :: 's' :: 'e' :: rest => some (.boolean false, rest)
    | '"' :: rest => (readString fuel rest).map fun r => (.string r.1, r.2)
    | '[' :: rest =>
      match skipSpace rest with
      | ']' :: rest' => some (.array [], rest')
      | rest' => (readItems fuel rest').map fun r => (.array r.1, r.2)
    | '\x7b' :: rest =>
      match skipSpace rest with
      | '\x7d' :: rest' => some (.object [], rest')
      | rest' => (readMembers fuel rest').map fun r => (.object r.1, r.2)
    | rest => (readNumber rest).map fun r => (.number r.1, r.2)

/-- The items of an array from one of them to the closing bracket. -/
def readItems : (fuel : Nat) → List Char → Option (List Json × List Char)
  | 0, _ => none
  | fuel + 1, cs =>
    match readValue fuel cs with
    | none => none
    | some (item, rest) =>
      match skipSpace rest with
      | ',' :: more => (readItems fuel more).map fun r => (item :: r.1, r.2)
      | ']' :: more => some ([item], more)
      | _ => none

/-- The members of an object from one of them to the closing brace. -/
def readMembers : (fuel : Nat) → List Char → Option (List (Option (List Char) × Json) × List Char)
  | 0, _ => none
  | fuel + 1, cs =>
    match skipSpace cs with
    | '"' :: rest =>
      match readString fuel rest with
      | none => none
      | some (key, rest) =>
        match skipSpace rest with
        | ':' :: rest =>
          match readValue fuel rest with
          | none => none
          | some (value, rest) =>
            match skipSpace rest with
            | ',' :: more => (readMembers fuel more).map fun r => ((key, value) :: r.1, r.2)
            | '\x7d' :: more => some ([(key, value)], more)
            | _ => none
        | _ => none
    | _ => none

end

/-- The value that a whole text denotes; each reader takes two steps for a character at most. -/
def readChars? (cs : List Char) : Option Json :=
  match readValue (2 * cs.length + 2) cs with
  | some (value, rest) => if skipSpace rest = [] then some value else none
  | none => none

def read? (s : String) : Option Json := readChars? s.toList

end TemplateBatch.Json
