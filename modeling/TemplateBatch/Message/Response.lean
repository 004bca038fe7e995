import TemplateBatch.Json.Decoder
import TemplateBatch.Json.Printer
import TemplateBatch.Json.Reader
import TemplateBatch.Text.Basic

/-!
The response of a worker: one line with a rendered text for each template, under the name of its
type. A reader refuses a response that is blank, null or not of this form.
-/
namespace TemplateBatch

structure RenderedItem where
  className : String
  text : String
  deriving DecidableEq, Repr

structure Response where
  items : List RenderedItem
  deriving DecidableEq, Repr

inductive ResponseError where
  | absent
  | null
  | malformed
  deriving DecidableEq, Repr

def ResponseError.message : ResponseError → String
  | .absent => "worker produced no response"
  | .null => "worker response is null"
  | .malformed => "malformed worker response"

namespace Response

def empty : Response := ⟨[]⟩

def push (r : Response) (className text : String) : Response := ⟨r.items ++ [⟨className, text⟩]⟩

/-- The text of the first item under a class name. -/
def text? (r : Response) (className : String) : Option String :=
  (r.items.find? fun item => item.className == className).map RenderedItem.text

def item? (j : Json) : Option RenderedItem := do
  match ← Json.fields? ["ClassName", "RenderedText"] j with
  | [className, text] =>
    let className ← className.required? Json.text?
    let text ← text.required? Json.text?
    return { className, text }
  | _ => none

def ofJson? (j : Json) : Option Response := do
  match ← Json.fields? ["Items"] j with
  | [items] =>
    let items ← items.required? (Json.listOf? item?)
    return { items }
  | _ => none

def ofText (s : String) : Except ResponseError Response :=
  let trimmed := Text.trim s
  if trimmed = "" then .error .absent
  else
    match (Json.read? trimmed).bind (Json.nullable? ofJson?) with
    | some (some r) => .ok r
    | some none => .error .null
    | none => .error .malformed

def itemJson (item : RenderedItem) : Json :=
  .record [("ClassName", .text item.className), ("RenderedText", .text item.text)]

def toJson (r : Response) : Json := .record [("Items", .array (r.items.map itemJson))]

/-- The response as it is sent, line feed included. -/
def toLine (r : Response) : String := r.toJson.compact ++ "\n"

end Response
end TemplateBatch
