/-!
JSON values as they are written: members keep their order and their repetitions, numbers keep their
literal, and a string is `none` when it names half of a surrogate pair and so denotes no text.
-/
namespace TemplateBatch

inductive Json where
  | null
  | boolean (value : Bool)
  | number (literal : List Char)
  | string (value : Option (List Char))
  | array (items : List Json)
  | object (members : List (Option (List Char) × Json))
  deriving Repr, Inhabited

namespace Json

def text (s : String) : Json := .string (some s.toList)

/-- An object with the given members. -/
def record (members : List (String × Json)) : Json :=
  .object (members.map fun m => (some m.1.toList, m.2))

end Json
end TemplateBatch
