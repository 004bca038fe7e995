/-!
Text inside markup. Escaping replaces the five characters that markup reserves by entities, and
reading puts the characters back, from left to right.
-/
namespace TemplateBatch.Text

def entity (c : Char) : List Char :=
  if c = '&' then ['&', 'a', 'm', 'p', ';']
  else if c = '<' then ['&', 'l', 't', ';']
  else if c = '>' then ['&', 'g', 't', ';']
  else if c = '"' then ['&', 'q', 'u', 'o', 't', ';']
  else if c = '\'' then ['&', '#', '3', '9', ';']
  else [c]

def escapeMarkupChars (cs : List Char) : List Char := cs.flatMap entity

def unescapeMarkupChars : List Char → List Char
  | '&' :: 'a' :: 'm' :: 'p' :: ';' :: rest => '&' :: unescapeMarkupChars rest
  | '&' :: 'l' :: 't' :: ';' :: rest => '<' :: unescapeMarkupChars rest
  | '&' :: 'g' :: 't' :: ';' :: rest => '>' :: unescapeMarkupChars rest
  | '&' :: 'q' :: 'u' :: 'o' :: 't' :: ';' :: rest => '"' :: unescapeMarkupChars rest
  | '&' :: '#' :: '3' :: '9' :: ';' :: rest => '\'' :: unescapeMarkupChars rest
  | c :: rest => c :: unescapeMarkupChars rest
  | [] => []

def escapeMarkup (s : String) : String := String.ofList (escapeMarkupChars s.toList)

def unescapeMarkup (s : String) : String := String.ofList (unescapeMarkupChars s.toList)

end TemplateBatch.Text
