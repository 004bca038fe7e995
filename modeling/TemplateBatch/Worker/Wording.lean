import TemplateBatch.Path

/-!
What a worker tells in the words of others: the reader of JSON says why a text is no document of the
wanted form, and the dynamic loader why a file is no library. Their wording is not fixed here.
-/
namespace TemplateBatch.Worker

structure Wording where
  request : String → String
  configuration : String → String
  library : Path → String

/-- Others say nothing. -/
def Wording.silent : Wording := ⟨fun _ => "", fun _ => "", fun _ => ""⟩

end TemplateBatch.Worker
