/-!
The buffer that a template writes to. Beginning an attribute sets its ending aside, and the next end
of an attribute writes it. What a value wrote before showing it failed stays in the buffer.
-/
namespace TemplateBatch.Stub

structure Buffer where
  text : String
  /-- The ending of the attribute begun last, until it is written. -/
  ending : Option String
  deriving DecidableEq, Repr

/-- What showing a value comes to: the text that it writes, and whether it ends without failing. -/
structure Shown where
  text : String
  complete : Bool
  deriving DecidableEq, Repr

/-- One operation of a template on its buffer. -/
inductive Step where
  | literal (text : String)
  | write (value : Shown)
  | beginAttribute (name start ending : String)
  | attributeValue (start : String) (value : Shown)
  | endAttribute
  deriving DecidableEq, Repr

namespace Buffer

def empty : Buffer := ⟨"", none⟩

def push (b : Buffer) (s : String) : Buffer := { b with text := b.text ++ s }

/-- Whether the value was shown without failing, and the buffer after it. -/
def write (b : Buffer) (value : Shown) : Bool × Buffer := (value.complete, b.push value.text)

def apply (b : Buffer) : Step → Bool × Buffer
  | .literal s => (true, b.push s)
  | .write value => b.write value
  | .beginAttribute _ start ending => (true, { b.push start with ending := some ending })
  | .attributeValue start value => (b.push start).write value
  | .endAttribute => (true, { b.push (b.ending.getD "") with ending := none })

/-- The buffer after each step, a failing step not stopping the rest. -/
def states (b : Buffer) : List Step → List (Bool × Buffer)
  | [] => []
  | s :: steps => b.apply s :: (b.apply s).2.states steps

end Buffer
end TemplateBatch.Stub
