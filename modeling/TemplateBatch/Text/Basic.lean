/-!
White space and the small cutting operations that the other text modules share. They work on lists
of characters; the versions on `String` carry the same names.
-/
namespace TemplateBatch.Text

/-- The Unicode property `White_Space`. -/
def isBlank (c : Char) : Bool :=
  let n := c.toNat
  (9 ≤ n && n ≤ 13) || n == 32 || n == 0x85 || n == 0xA0 || n == 0x1680
    || (0x2000 ≤ n && n ≤ 0x200A) || n == 0x2028 || n == 0x2029 || n == 0x202F || n == 0x205F
    || n == 0x3000

def dropBlank (cs : List Char) : List Char := cs.dropWhile isBlank

def dropBlankEnd (cs : List Char) : List Char := (cs.reverse.dropWhile isBlank).reverse

def trimChars (cs : List Char) : List Char := dropBlankEnd (dropBlank cs)

/-- The text without white space at either end. -/
def trim (s : String) : String := String.ofList (trimChars s.toList)

def isBlankText (s : String) : Bool := s.toList.all isBlank

/-- The pieces between the characters that `cut` accepts; there is always at least one. -/
def split (cut : Char → Bool) : List Char → List (List Char)
  | [] => [[]]
  | c :: rest =>
    if cut c then [] :: split cut rest
    else
      match split cut rest with
      | [] => [[c]]
      | piece :: pieces => (c :: piece) :: pieces

def joinChars (separator : List Char) : List (List Char) → List Char
  | [] => []
  | [piece] => piece
  | piece :: pieces => piece ++ separator ++ joinChars separator pieces

/-- Items in order with the separator between neighbours. -/
def join (separator : String) (items : List String) : String :=
  String.ofList (joinChars separator.toList (items.map String.toList))

/-- What is left of `cs` behind `start`, when it begins so. -/
def after? : (start cs : List Char) → Option (List Char)
  | [], cs => some cs
  | _ :: _, [] => none
  | a :: start, c :: cs => if a = c then after? start cs else none

def startsWith (s start : String) : Bool := (after? start.toList s.toList).isSome

def endsWith (s ending : String) : Bool :=
  (after? ending.toList.reverse s.toList.reverse).isSome

def isAsciiLetter (c : Char) : Bool := c.isAlpha

def isAsciiAlphanumeric (c : Char) : Bool := c.isAlphanum

def lowerAscii (s : String) : String := String.ofList (s.toList.map Char.toLower)

end TemplateBatch.Text
