import TemplateBatch.Machine
import TemplateBatch.Text.ControlSequence

/-!
Emphasis in what a command line says about itself. The channels of the program are not terminals, so
emphasis is left out together with every other control sequence, unless the environment asks for it.
-/
namespace TemplateBatch.CommandLine.Emphasis

/-- A text between the sequences that start and end an emphasis of the given kinds. -/
def marked (kinds : List Nat) (s : String) : String :=
  let start (kind : Nat) := "\x1b[" ++ toString kind ++ "m"
  String.join (kinds.map start) ++ s ++ start 0

def heading (s : String) : String := marked [1, 4] s

def literal (s : String) : String := marked [1] s

def fault (s : String) : String := marked [1, 31] s

def suspect (s : String) : String := marked [33] s

/-- Whether the environment asks for emphasis, which it can forbid as well. -/
def isForced (vs : Variables) : Bool :=
  (vs.get? "NO_COLOR").getD "" == "" && (vs.get? "CLICOLOR_FORCE").getD "0" != "0"

def shown (vs : Variables) (s : String) : String :=
  if isForced vs then s else Text.withoutControls s

end TemplateBatch.CommandLine.Emphasis
