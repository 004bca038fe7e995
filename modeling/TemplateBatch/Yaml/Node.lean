import TemplateBatch.Yaml.Event

/-!
The nodes of a YAML document. A scalar keeps its text and whether it was written without quotes,
which is all that decides how it may be understood.
-/
namespace TemplateBatch.Yaml

inductive Node where
  | scalar (text : String) (plain : Bool)
  | sequence (items : List Node)
  | mapping (entries : List (Node × Node))
  deriving Repr, Inhabited

/-- A collection whose end has not come yet, with its last part first. -/
inductive OpenNode where
  | sequence (items : List Node)
  | mapping (entries : List (Node × Node))
  | mappingKey (key : Node) (entries : List (Node × Node))

namespace Node

def isEmpty : Node → Bool
  | .scalar "" true => true
  | _ => false

/-- The plain spellings of the absent value. -/
def isNull : Node → Bool
  | .scalar t true => ["", "~", "null", "Null", "NULL"].contains t
  | _ => false

def text? : Node → Option String
  | .scalar t _ => some t
  | _ => none

def bool? : Node → Option Bool
  | .scalar t true =>
    if ["true", "True", "TRUE"].contains t then some true
    else if ["false", "False", "FALSE"].contains t then some false
    else none
  | _ => none

/-- A finished node goes into the innermost open collection; one outside all collections is the
whole document. -/
def place (n : Node) : List OpenNode → Node ⊕ List OpenNode
  | [] => .inl n
  | .sequence items :: around => .inr (.sequence (n :: items) :: around)
  | .mapping entries :: around => .inr (.mappingKey n entries :: around)
  | .mappingKey key entries :: around => .inr (.mapping ((key, n) :: entries) :: around)

def close? (e : Event) (opened : List OpenNode) : Option (Node × List OpenNode) :=
  match e, opened with
  | .scalar text plain, around => some (.scalar text plain, around)
  | .sequenceEnd, .sequence items :: around => some (.sequence items.reverse, around)
  | .mappingEnd, .mapping entries :: around => some (.mapping entries.reverse, around)
  | _, _ => none

def build? : List OpenNode → List Event → Option Node
  | _, [] => none
  | opened, .sequenceStart :: es => build? (.sequence [] :: opened) es
  | opened, .mappingStart :: es => build? (.mapping [] :: opened) es
  | opened, e :: es =>
    match close? e opened with
    | none => none
    | some (n, around) =>
      match n.place around with
      | .inl n => if es.isEmpty then some n else none
      | .inr opened => build? opened es

/-- The node that the events of a document describe. -/
def ofEvents? (es : List Event) : Option Node := build? [] es

/-- The single document of a text. -/
def read? (s : String) : Option Node :=
  ((Token.scan s.toList).bind Event.ofTokens?).bind ofEvents?

end Node
end TemplateBatch.Yaml
