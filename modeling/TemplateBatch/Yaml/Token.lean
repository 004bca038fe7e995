import TemplateBatch.Yaml.Scalar

/-!
The tokens of a YAML text. Where block collections start and end follows from indentation, and
that a node is a key shows only at the colon behind it: the tokens `mappingStart` and `key` are
then put in front of those that the node gave. A key written without question mark lies on one
line and no further than 1024 octets from its colon. Anchors, aliases, tags, directives and block
scalars are refused.
-/
namespace TemplateBatch.Yaml

inductive Token where
  | documentStart
  | documentEnd
  | sequenceStart
  | mappingStart
  | blockEnd
  | flowSequenceStart
  | flowSequenceEnd
  | flowMappingStart
  | flowMappingEnd
  | blockEntry
  | flowEntry
  | key
  | value
  | scalar (text : String) (plain : Bool)
  deriving Repr, DecidableEq

/-- A place where a key may have started, and how many tokens came before it. A key is required
where the entries of a mapping start. -/
structure KeyStart where
  tokenCount : Nat
  index : Nat
  line : Nat
  column : Nat
  required : Bool

/-- Whether a colon at the cursor can still belong to a key that started here. -/
def KeyStart.reaches (k : KeyStart) (c : Cursor) : Bool :=
  k.line == c.line && decide (c.index ≤ k.index + 1024)

/-- The tokens so far, the last one first, and what the next ones depend on: the columns of the
open block collections, innermost first, and the possible keys of the open flow collections. -/
structure Lexer where
  tokens : List Token := []
  count : Nat := 0
  blocks : List Nat := []
  keyAllowed : Bool := true
  key : Option KeyStart := none
  outerKeys : List (Option KeyStart) := []

namespace Lexer

def inFlow (l : Lexer) : Bool := !l.outerKeys.isEmpty

/-- The least column that lies deeper than the open block collections. -/
def indent (l : Lexer) : Nat :=
  match l.blocks with
  | [] => 0
  | column :: _ => column + 1

/-- Puts a token behind the first `n`. -/
def insert (l : Lexer) (n : Nat) (t : Token) : Lexer :=
  let later := l.count - n
  { l with tokens := l.tokens.take later ++ t :: l.tokens.drop later, count := l.count + 1 }

def emit (l : Lexer) (t : Token) : Lexer := l.insert l.count t

/-- Opens a block collection behind the first `n` tokens if the column is deep enough. -/
def openBlock (l : Lexer) (n column : Nat) (t : Token) : Lexer :=
  if l.inFlow || column < l.indent then l
  else { l.insert n t with blocks := column :: l.blocks }

/-- Closes the innermost block collections whose column is among the given ones. -/
def closeBlocks (l : Lexer) (deeper : Nat → Bool) : Lexer :=
  if l.inFlow then l
  else
    let closed := (l.blocks.takeWhile deeper).length
    { l with
      tokens := List.replicate closed .blockEnd ++ l.tokens
      count := l.count + closed
      blocks := l.blocks.drop closed }

/-- Gives up the possible key; a required one without its colon is an error. -/
def forgetKey (l : Lexer) : Option Lexer :=
  if l.key.any (·.required) then none else some { l with key := none }

def forgetFarKey (l : Lexer) (c : Cursor) : Option Lexer :=
  if l.key.all (·.reaches c) then some l else l.forgetKey

/-- Notes that a key may start at the cursor. -/
def startKey (l : Lexer) (c : Cursor) : Option Lexer :=
  if l.keyAllowed then do
    let l ← l.forgetKey
    let required := !l.inFlow && l.indent == c.column + 1
    return { l with key := some ⟨l.count, c.index, c.line, c.column, required⟩ }
  else some l

def readMarker (l : Lexer) (c : Cursor) : Option (Lexer × Cursor) := do
  let l ← (l.closeBlocks fun _ => true).forgetKey
  let t := if c.rest.head? = some '-' then Token.documentStart else .documentEnd
  return ({ l.emit t with keyAllowed := false }, c.skip 3)

def openFlow (l : Lexer) (t : Token) (c : Cursor) : Option (Lexer × Cursor) := do
  let l ← l.startKey c
  let l := l.emit t
  return ({ l with key := none, outerKeys := l.key :: l.outerKeys, keyAllowed := true }, c.next)

def closeFlow (l : Lexer) (t : Token) (c : Cursor) : Option (Lexer × Cursor) := do
  let l := (← l.forgetKey).emit t
  let l : Lexer :=
    match l.outerKeys with
    | [] => l
    | key :: outerKeys => { l with key, outerKeys }
  return ({ l with keyAllowed := false }, c.next)

def readFlowEntry (l : Lexer) (c : Cursor) : Option (Lexer × Cursor) := do
  let l ← l.forgetKey
  return ({ l.emit .flowEntry with keyAllowed := true }, c.next)

def readBlockEntry (l : Lexer) (c : Cursor) : Option (Lexer × Cursor) :=
  if !l.inFlow && !l.keyAllowed then none
  else do
    let l ← (l.openBlock l.count c.column .sequenceStart).forgetKey
    return ({ l.emit .blockEntry with keyAllowed := true }, c.next)

def readKeyMark (l : Lexer) (c : Cursor) : Option (Lexer × Cursor) :=
  if !l.inFlow && !l.keyAllowed then none
  else do
    let l ← (l.openBlock l.count c.column .mappingStart).forgetKey
    return ({ l.emit .key with keyAllowed := !l.inFlow }, c.next)

def readValueMark (l : Lexer) (c : Cursor) : Option (Lexer × Cursor) :=
  match l.key with
  | some k =>
    let l := (l.insert k.tokenCount .key).openBlock k.tokenCount k.column .mappingStart
    some ({ l.emit .value with key := none, keyAllowed := false }, c.next)
  | none =>
    if !l.inFlow && !l.keyAllowed then none
    else
      let l := l.openBlock l.count c.column .mappingStart
      some ({ l.emit .value with keyAllowed := !l.inFlow }, c.next)

def readQuoted (l : Lexer) (c : Cursor) (read : Cursor → Option (String × Cursor)) :
    Option (Lexer × Cursor) := do
  let l ← l.startKey c
  let (text, c) ← read c.next
  return ({ l.emit (.scalar text false) with keyAllowed := false }, c)

def readBare (l : Lexer) (fuel : Nat) (c : Cursor) : Option (Lexer × Cursor) := do
  let l ← l.startKey c
  let (text, broken, c) ← readPlain l.inFlow l.indent fuel [] {} c
  return ({ l.emit (.scalar text true) with keyAllowed := broken }, c)

/-- The next token, which starts at the cursor. -/
def step (l : Lexer) (fuel : Nat) (c : Cursor) : Option (Lexer × Cursor) :=
  match c.rest with
  | [] => none
  | x :: rest =>
    if c.isAtMarker then l.readMarker c
    else if x = '[' then l.openFlow .flowSequenceStart c
    else if x = '\x7b' then l.openFlow .flowMappingStart c
    else if x = ']' then l.closeFlow .flowSequenceEnd c
    else if x = '\x7d' then l.closeFlow .flowMappingEnd c
    else if x = ',' then l.readFlowEntry c
    else if x = '-' ∧ atGap rest then l.readBlockEntry c
    else if x = '?' ∧ (l.inFlow || atGap rest) then l.readKeyMark c
    else if x = ':' ∧ (l.inFlow || atGap rest) then l.readValueMark c
    else if x = '\'' then l.readQuoted c (readSingle fuel [])
    else if x = '"' then l.readQuoted c (readDouble fuel [])
    else if startsPlain l.inFlow c.rest then l.readBare fuel c
    else none

/-- The tokens from the cursor on, behind those that the lexer has. -/
def run : (fuel : Nat) → Lexer → Cursor → Option (List Token)
  | 0, _, _ => none
  | fuel + 1, l, c₀ =>
    let (c, keyAllowed) := c₀.skipGap l.inFlow (fuel + 1) l.keyAllowed
    match { l with keyAllowed }.forgetFarKey c with
    | none => none
    | some l =>
      if c.rest.isEmpty then
        (l.closeBlocks fun _ => true).forgetKey.map fun l => l.tokens.reverse
      else
        match (l.closeBlocks fun column => decide (c.column < column)).step (fuel + 1) c with
        | none => none
        | some (l, c) => run fuel l c

end Lexer

def Token.scan (cs : List Char) : Option (List Token) :=
  if cs.all isAllowed then Lexer.run (cs.length + 1) {} (.start cs) else none

end TemplateBatch.Yaml
