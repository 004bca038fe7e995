import TemplateBatch.Bytes

/-!
UTF-8. Text is encoded scalar by scalar. Decoding runs a machine over the octets that knows what a
started character still lacks; it reports every maximal ill-formed part once, so that the strict
reading refuses a text with such a part and the lossy reading shows it as one replacement character.
-/
namespace TemplateBatch.Text.Utf8

def octet (n : Nat) : UInt8 := UInt8.ofNat n

def encodeChar (c : Char) : Bytes :=
  let n := c.toNat
  if n < 0x80 then [octet n]
  else if n < 0x800 then [octet (0xC0 + n / 64), octet (0x80 + n % 64)]
  else if n < 0x10000 then
    [octet (0xE0 + n / 4096), octet (0x80 + n / 64 % 64), octet (0x80 + n % 64)]
  else
    [octet (0xF0 + n / 262144), octet (0x80 + n / 4096 % 64), octet (0x80 + n / 64 % 64),
      octet (0x80 + n % 64)]

def encode (s : String) : Bytes := s.toList.flatMap encodeChar

/-- A character that has begun: the octets owed, the bounds of the next one, the bits so far. -/
structure Pending where
  owed : Nat
  low : Nat
  high : Nat
  bits : Nat
  deriving DecidableEq, Repr

inductive Lead where
  | complete (c : Char)
  | started (p : Pending)
  | stray
  deriving DecidableEq, Repr

/-- What an octet means between characters. -/
def lead (b : Nat) : Lead :=
  if b < 0x80 then .complete (Char.ofNat b)
  else if b < 0xC2 then .stray
  else if b < 0xE0 then .started ⟨1, 0x80, 0xBF, b - 0xC0⟩
  else if b = 0xE0 then .started ⟨2, 0xA0, 0xBF, 0⟩
  else if b = 0xED then .started ⟨2, 0x80, 0x9F, 0xD⟩
  else if b < 0xF0 then .started ⟨2, 0x80, 0xBF, b - 0xE0⟩
  else if b = 0xF0 then .started ⟨3, 0x90, 0xBF, 0⟩
  else if b < 0xF4 then .started ⟨3, 0x80, 0xBF, b - 0xF0⟩
  else if b = 0xF4 then .started ⟨3, 0x80, 0x8F, 4⟩
  else .stray

/-- Characters and ill-formed parts met so far, the latest first, and the character under way. -/
structure Scan where
  found : List (Option Char)
  pending : Option Pending
  deriving DecidableEq, Repr

def begin (found : List (Option Char)) (b : Nat) : Scan :=
  match lead b with
  | .complete c => ⟨some c :: found, none⟩
  | .started p => ⟨found, some p⟩
  | .stray => ⟨none :: found, none⟩

/-- An octet that cannot continue a character closes it as ill-formed and starts anew. -/
def step (s : Scan) (octet : UInt8) : Scan :=
  let b := octet.toNat
  match s.pending with
  | none => begin s.found b
  | some p =>
    if p.low ≤ b ∧ b ≤ p.high then
      let bits := p.bits * 64 + (b - 0x80)
      if p.owed = 1 then ⟨some (Char.ofNat bits) :: s.found, none⟩
      else ⟨s.found, some ⟨p.owed - 1, 0x80, 0xBF, bits⟩⟩
    else begin (none :: s.found) b

def finish (s : Scan) : List (Option Char) :=
  match s.pending with
  | none => s.found.reverse
  | some _ => (none :: s.found).reverse

/-- The characters of an octet string, with `none` for each maximal ill-formed part. -/
def scan (bytes : Bytes) : List (Option Char) := finish (bytes.foldl step ⟨[], none⟩)

def decode? (bytes : Bytes) : Option String :=
  let parts := scan bytes
  if parts.all Option.isSome then some (String.ofList (parts.filterMap id)) else none

def replacement : Char := Char.ofNat 0xFFFD

def decodeLossy (bytes : Bytes) : String :=
  String.ofList ((scan bytes).map fun part => part.getD replacement)

end TemplateBatch.Text.Utf8
