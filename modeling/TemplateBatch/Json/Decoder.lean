import TemplateBatch.Json.Basic

/-!
Taking JSON values apart by the shape that is expected of them. A record is an object, in which
unknown keys are ignored and a repeated known key is refused, or an array of its fields in order.
-/
namespace TemplateBatch.Json

def text? : Json → Option String
  | .string (some cs) => some (String.ofList cs)
  | _ => none

def bool? : Json → Option Bool
  | .boolean b => some b
  | _ => none

/-- A plain non-negative integer below two to the 64th. -/
def natural? : Json → Option Nat
  | .number literal =>
    if literal.all Char.isDigit then
      let n := literal.foldl (fun n c => n * 10 + (c.toNat - 48)) 0
      if n < 18446744073709551616 then some n else none
    else none
  | _ => none

def listOf? (item? : Json → Option α) : Json → Option (List α)
  | .array items => items.mapM item?
  | _ => none

def nullable? (value? : Json → Option α) : Json → Option (Option α)
  | .null => some none
  | v => (value? v).map some

/-- One of several names, alone or as the only key of an object with the value null. -/
def oneOf? (choices : List (String × α)) : Json → Option α
  | .string (some cs) => (choices.find? fun c => c.1.toList == cs).map fun c => c.2
  | .object [(some cs, .null)] => (choices.find? fun c => c.1.toList == cs).map fun c => c.2
  | _ => none

/-- What a record holds for a field: a value, nothing, or an array that ends before it. -/
inductive Field where
  | given (value : Json)
  | omitted
  | beyond
  deriving Repr, Inhabited

def memberField (members : List (Option (List Char) × Json)) (name : String) : Option Field :=
  match members.filter fun m => m.1 == some name.toList with
  | [] => some .omitted
  | [(_, value)] => some (.given value)
  | _ => none

def itemFields : List String → List Json → Option (List Field)
  | [], [] => some []
  | [], _ :: _ => none
  | _ :: names, [] => (itemFields names []).map fun fs => .beyond :: fs
  | _ :: names, item :: items => (itemFields names items).map fun fs => .given item :: fs

/-- The fields of a record, one for each name. -/
def fields? (names : List String) : Json → Option (List Field)
  | .object members =>
    if members.all fun m => m.1.isSome then names.mapM (memberField members) else none
  | .array items => itemFields names items
  | _ => none

namespace Field

def required? (value? : Json → Option α) : Field → Option α
  | .given v => value? v
  | _ => none

def optional? (value? : Json → Option α) : Field → Option (Option α)
  | .given v => nullable? value? v
  | .omitted => some none
  | .beyond => none

def orElse? (default : α) (value? : Json → Option α) : Field → Option α
  | .given v => value? v
  | _ => some default

end Field
end TemplateBatch.Json
