import TemplateBatch.Text.Basic

/-!
Lines of a text and their indentation. A line ends at a line feed or at a carriage return with a
line feed behind it; the end of the text ends a line only when something stands on it.
-/
namespace TemplateBatch.Text

/-- A line as it stood before its line feed, given with its last character first. -/
def closeLine : List Char → List Char
  | '\r' :: line => line.reverse
  | line => line.reverse

/-- Lines of `cs` when `line`, last character first, already stands before it. -/
def linesFrom (line : List Char) : List Char → List (List Char)
  | [] => if line.isEmpty then [] else [line.reverse]
  | c :: rest =>
    if c = '\n' then closeLine line :: linesFrom [] rest else linesFrom (c :: line) rest

def lines (cs : List Char) : List (List Char) := linesFrom [] cs

def indentLine (width : Nat) (line : List Char) : List Char :=
  if line.isEmpty then [] else List.replicate width ' ' ++ line

/-- Every line that is not empty is moved `width` spaces to the right. -/
def indentChars (cs : List Char) (width : Nat) : List Char :=
  joinChars ['\n'] ((lines cs).map (indentLine width))

def indent (s : String) (width : Nat) : String := String.ofList (indentChars s.toList width)

/-- A text behind `start` with what follows each line feed behind `margin`. -/
def hang (start margin text : String) : String :=
  start ++ join ("\n" ++ margin) ((split (· == '\n') text.toList).map String.ofList)

end TemplateBatch.Text
