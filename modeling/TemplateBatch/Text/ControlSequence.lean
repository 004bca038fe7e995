import TemplateBatch.Text.Utf8

/-!
Text without the control sequences of terminals. A sequence starts with an escape character and
swallows what belongs to it; outside sequences all controls but white space go as well. White space
inside a sequence is shown, and so is everything behind it up to the next control, after which the
sequence goes on.
-/
namespace TemplateBatch.Text

/-- Where in a control sequence a text stands. A device string has a head of its own; a string lasts
until its terminator, which for a command is the bell. -/
inductive ControlState where
  | ground
  | escape
  | escapeTail
  | sequence
  | deviceHead
  | deviceParameter
  | deviceTail
  | string
  | command
  deriving DecidableEq, Repr

def isControlSpace (c : Char) : Bool :=
  c == '\t' || c == '\n' || c == '\r' || c.toNat == 12

/-- Characters that are shown outside all sequences. -/
def isShown (c : Char) : Bool :=
  isControlSpace c || (32 ≤ c.toNat && c.toNat != 127)

/-- Whether the octets of a character hold the one that ends a string. -/
def endsString (c : Char) : Bool := (Utf8.encode (String.singleton c)).contains 0x9C

namespace ControlState

/-- Whether a character is shown in spite of the sequence around it. -/
def shows (s : ControlState) (c : Char) : Bool :=
  match s with
  | .ground => isShown c
  | .escape | .escapeTail | .sequence => isControlSpace c
  | _ => false

/-- The state behind `c` when an escape character came right before. -/
def ofIntroducer (c : Char) : ControlState :=
  if c = '[' then .sequence
  else if c = ']' then .command
  else if c = 'P' then .deviceHead
  else if c = 'X' ∨ c = '^' ∨ c = '_' then .string
  else .ground

/-- The state behind a character that is not shown. -/
def next (s : ControlState) (c : Char) : ControlState :=
  let n := c.toNat
  let isTail := 0x20 ≤ n && n ≤ 0x2F
  if n = 0x1B then .escape
  else if n = 0x18 ∨ n = 0x1A then .ground
  else
    match s with
    | .ground => .ground
    | .escape =>
      if isTail then .escapeTail
      else if 0x30 ≤ n ∧ n ≤ 0x7E then ofIntroducer c
      else .escape
    | .escapeTail => if 0x30 ≤ n ∧ n ≤ 0x7E then .ground else .escapeTail
    | .sequence => if 0x40 ≤ n ∧ n ≤ 0x7E then .ground else .sequence
    | .deviceHead =>
      if isTail then .deviceTail
      else if 0x30 ≤ n ∧ n ≤ 0x3F then .deviceParameter
      else if 0x40 ≤ n ∧ n ≤ 0x7E then .string
      else .deviceHead
    | .deviceParameter =>
      if isTail then .deviceTail
      else if 0x3C ≤ n ∧ n ≤ 0x7E then .string
      else .deviceParameter
    | .deviceTail => if 0x30 ≤ n ∧ n ≤ 0x7E then .string else .deviceTail
    | .string => if endsString c then .ground else .string
    | .command => if n = 7 then .ground else .command

end ControlState

/-- What is shown of a text from a state on; `showing` tells that the character before was shown. -/
def shownFrom : (showing : Bool) → ControlState → List Char → List Char
  | _, _, [] => []
  | showing, s, c :: rest =>
    if (if showing then isShown c else s.shows c) then
      c :: shownFrom true (if c.toNat < 128 then s else .ground) rest
    else shownFrom false (s.next c) rest

def withoutControls (s : String) : String := String.ofList (shownFrom false .ground s.toList)

end TemplateBatch.Text
