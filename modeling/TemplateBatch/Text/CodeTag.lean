import TemplateBatch.Text.Basic

/-!
The markers that a template may put around code. Opening markers are taken out first and closing
ones after them, each in one pass from left to right.
-/
namespace TemplateBatch.Text

/-- `cs` without the occurrences of `target`; the first `skip` characters belong to one. -/
def removeFrom (target : List Char) (skip : Nat) : List Char → List Char
  | [] => []
  | c :: rest =>
    match skip with
    | skip + 1 => removeFrom target skip rest
    | 0 =>
      if (after? target (c :: rest)).isSome then removeFrom target (target.length - 1) rest
      else c :: removeFrom target 0 rest

/-- `cs` without the occurrences of `target` met from left to right. -/
def removeAll (target cs : List Char) : List Char := removeFrom target 0 cs

def openTag : List Char := ['<', 'c', 'o', 'd', 'e', '>']

def closeTag : List Char := ['<', '/', 'c', 'o', 'd', 'e', '>']

def stripCodeTagsChars (cs : List Char) : List Char := removeAll closeTag (removeAll openTag cs)

def stripCodeTags (s : String) : String := String.ofList (stripCodeTagsChars s.toList)

end TemplateBatch.Text
