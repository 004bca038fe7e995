import TemplateBatch.Text.Hexadecimal
import TemplateBatch.Yaml.Cursor

/-!
Scalars of YAML. A break inside one becomes a space, further breaks stay, and the blanks around
them go. Every reader returns the text and the place behind it, and fails on malformed input.
The text read so far is kept with its last character first.
-/
namespace TemplateBatch.Yaml

/-- Blanks and breaks between two parts of a scalar, the last of each first. -/
structure Fold where
  blanks : List Char := []
  first : Option (List Char) := none
  more : List Char := []

/-- What the gap contributes to the text, its last character first. -/
def Fold.text (f : Fold) : List Char :=
  match f.first with
  | none => f.blanks
  | some ['\n'] => if f.more.isEmpty then [' '] else f.more
  | some b => f.more ++ b

/-- The gap at the cursor; behind a break no tab may stand before column `indent`. -/
def readFold (indent : Nat) : (fuel : Nat) → Fold → Cursor → Option (Fold × Cursor)
  | 0, _, _ => none
  | fuel + 1, f, c =>
    match c.rest with
    | [] => some (f, c)
    | x :: _ =>
      if isBlank x then
        if f.first.isSome then
          if x = '\t' ∧ c.column < indent then none else readFold indent fuel f c.next
        else readFold indent fuel { f with blanks := x :: f.blanks } c.next
      else if isBreak x then
        if f.first.isSome then
          readFold indent fuel { f with more := c.breakText ++ f.more } c.nextLine
        else readFold indent fuel { f with first := some c.breakText } c.nextLine
      else some (f, c)

def isFlowIndicator (c : Char) : Bool := ",[]\x7b\x7d".toList.contains c

/-- Whether a plain scalar may start here. -/
def startsPlain (inFlow : Bool) : List Char → Bool
  | [] => false
  | c :: rest =>
    if c = '-' then !rest.head?.any isBlank
    else if c = '?' ∨ c = ':' then !inFlow && !atGap rest
    else !(isBlank c || isBreak c || ",[]\x7b\x7d#&*!|>'\"%@`".toList.contains c)

/-- How a plain scalar goes on at a character that is no gap. -/
inductive Plain where
  | more
  | done
  | wrong

def plainAt (inFlow : Bool) : List Char → Plain
  | [] => .done
  | c :: rest =>
    if c = ':' then
      if inFlow && rest.head?.any (fun d => isFlowIndicator d || d == '?') then .wrong
      else if atGap rest then .done else .more
    else if inFlow && isFlowIndicator c then .done
    else .more

/-- A plain scalar from a character on, and whether a break stands behind it; `gap` is what came
before that character. Outside flow collections it goes on over a break only from column
`indent`. -/
def readPlain (inFlow : Bool) (indent : Nat) :
    (fuel : Nat) → (before : List Char) → (gap : Fold) → Cursor → Option (String × Bool × Cursor)
  | 0, _, _, _ => none
  | fuel + 1, before, gap, c =>
    match c.rest with
    | [] => some (String.ofList before.reverse, gap.first.isSome, c)
    | x :: _ =>
      if isBlank x || isBreak x then
        match readFold indent (fuel + 1) {} c with
        | none => none
        | some (gap, c') =>
          if c'.isAtMarker || c'.rest.head? = some '#' || (!inFlow && c'.column < indent) then
            some (String.ofList before.reverse, gap.first.isSome, c')
          else readPlain inFlow indent fuel before gap c'
      else
        match plainAt inFlow c.rest with
        | .wrong => none
        | .done => some (String.ofList before.reverse, gap.first.isSome, c)
        | .more => readPlain inFlow indent fuel (x :: gap.text ++ before) {} c.next

/-- A single-quoted scalar behind its opening quote; a quote inside is written twice. -/
def readSingle : (fuel : Nat) → (before : List Char) → Cursor → Option (String × Cursor)
  | 0, _, _ => none
  | fuel + 1, before, c =>
    if c.isAtMarker then none
    else
      match c.rest with
      | [] => none
      | '\'' :: '\'' :: _ => readSingle fuel ('\'' :: before) (c.skip 2)
      | '\'' :: _ => some (String.ofList before.reverse, c.next)
      | x :: _ =>
        if isBlank x || isBreak x then
          match readFold 0 (fuel + 1) {} c with
          | none => none
          | some (gap, c') => readSingle fuel (gap.text ++ before) c'
        else readSingle fuel (x :: before) c.next

def shortEscape? (c : Char) : Option Nat :=
  match c with
  | '0' => some 0
  | 'a' => some 7
  | 'b' => some 8
  | 't' => some 9
  | '\t' => some 9
  | 'n' => some 10
  | 'v' => some 11
  | 'f' => some 12
  | 'r' => some 13
  | 'e' => some 27
  | ' ' => some 32
  | '"' => some 34
  | '/' => some 47
  | '\\' => some 92
  | 'N' => some 0x85
  | '_' => some 0xA0
  | 'L' => some 0x2028
  | 'P' => some 0x2029
  | _ => none

/-- How many hexadecimal digits follow an escape. -/
def escapeWidth? (c : Char) : Option Nat :=
  if c = 'x' then some 2 else if c = 'u' then some 4 else if c = 'U' then some 8 else none

def readHex (cs : List Char) : Option Nat :=
  cs.foldl (fun n c => n.bind fun n => (Text.hexValue? c).map fun d => n * 16 + d) (some 0)

/-- The character of an escape whose letter is `letter` and the number of characters after it. -/
def readEscape (letter : Char) (rest : List Char) : Option (Char × Nat) :=
  match shortEscape? letter with
  | some n => some (Char.ofNat n, 0)
  | none => do
    let width ← escapeWidth? letter
    let digits := rest.take width
    if digits.length < width then none
    else
      let n ← readHex digits
      let c ← Text.scalar? n
      return (c, width)

/-- A double-quoted scalar behind its opening quote. -/
def readDouble : (fuel : Nat) → (before : List Char) → Cursor → Option (String × Cursor)
  | 0, _, _ => none
  | fuel + 1, before, c =>
    if c.isAtMarker then none
    else
      match c.rest with
      | [] => none
      | '"' :: _ => some (String.ofList before.reverse, c.next)
      | '\\' :: x :: rest =>
        if isBreak x then
          match readFold 0 (fuel + 1) { first := some [] } c.next.nextLine with
          | none => none
          | some (gap, c') => readDouble fuel (gap.text ++ before) c'
        else
          match readEscape x rest with
          | none => none
          | some (d, width) => readDouble fuel (d :: before) (c.skip (2 + width))
      | x :: _ =>
        if x = '\\' then none
        else if isBlank x || isBreak x then
          match readFold 0 (fuel + 1) {} c with
          | none => none
          | some (gap, c') => readDouble fuel (gap.text ++ before) c'
        else readDouble fuel (x :: before) c.next

end TemplateBatch.Yaml
