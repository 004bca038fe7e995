/-!
A place in a YAML text: what follows it, how many octets stand before it, and the line and column
it stands at. Line breaks in all their spellings count once.
-/
namespace TemplateBatch.Yaml

structure Cursor where
  rest : List Char
  index : Nat
  line : Nat
  column : Nat

def isBreak (c : Char) : Bool :=
  c == '\n' || c == '\r' || c.toNat == 0x85 || c.toNat == 0x2028 || c.toNat == 0x2029

def isBlank (c : Char) : Bool := c == ' ' || c == '\t'

/-- The mark that may open a line without being part of it. -/
def isByteOrderMark (c : Char) : Bool := c.toNat == 0xFEFF

/-- Characters that a document may hold. -/
def isAllowed (c : Char) : Bool :=
  let n := c.toNat
  n == 9 || n == 10 || n == 13 || (32 ≤ n && n ≤ 126) || n == 0x85 || (0xA0 ≤ n && n ≤ 0xFFFD)
    || 0x10000 ≤ n

/-- Whether a blank, a break or the end of the text comes next. -/
def atGap : List Char → Bool
  | [] => true
  | c :: _ => isBlank c || isBreak c

namespace Cursor

def start (cs : List Char) : Cursor := ⟨cs, 0, 0, 0⟩

/-- Past one character of the line. -/
def next (c : Cursor) : Cursor :=
  match c.rest with
  | x :: rest => ⟨rest, c.index + x.utf8Size, c.line, c.column + 1⟩
  | [] => c

/-- Past `n` characters of the line. -/
def skip (c : Cursor) : (n : Nat) → Cursor
  | 0 => c
  | n + 1 => c.next.skip n

def skipWhile (p : Char → Bool) (c : Cursor) : Cursor := c.skip (c.rest.takeWhile p).length

/-- Past one line break. -/
def nextLine (c : Cursor) : Cursor :=
  match c.rest with
  | '\r' :: '\n' :: rest => ⟨rest, c.index + 2, c.line + 1, 0⟩
  | x :: rest => ⟨rest, c.index + x.utf8Size, c.line + 1, 0⟩
  | [] => c

/-- The break at the cursor as it enters a scalar. -/
def breakText (c : Cursor) : List Char :=
  match c.rest with
  | b :: _ => if b.toNat = 0x2028 ∨ b.toNat = 0x2029 then [b] else ['\n']
  | [] => []

def isAtMarker (c : Cursor) : Bool :=
  c.column == 0 &&
    match c.rest with
    | '-' :: '-' :: '-' :: rest => atGap rest
    | '.' :: '.' :: '.' :: rest => atGap rest
    | _ => false

/-- Past blanks, comments and line breaks, and whether a key may start there, which is so behind a
break outside flow collections. A tab is no blank where such a key may start. -/
def skipGap (inFlow : Bool) : (fuel : Nat) → (keyAllowed : Bool) → Cursor → Cursor × Bool
  | 0, keyAllowed, c => (c, keyAllowed)
  | fuel + 1, keyAllowed, c =>
    let c := if c.column = 0 ∧ c.rest.head?.any isByteOrderMark then c.next else c
    let c := c.skipWhile fun x => x == ' ' || ((inFlow || !keyAllowed) && x == '\t')
    let c := if c.rest.head? = some '#' then c.skipWhile fun x => !isBreak x else c
    if c.rest.head?.any isBreak then skipGap inFlow fuel (keyAllowed || !inFlow) c.nextLine
    else (c, keyAllowed)

end Cursor
end TemplateBatch.Yaml
