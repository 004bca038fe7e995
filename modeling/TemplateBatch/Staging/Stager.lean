import TemplateBatch.Staging.Phase

/-!
The stager of a host. It clears its layout once, when it is made; it stages on the first request and
remembers that it did, so that later requests do not look at the disk again.
-/
namespace TemplateBatch.Staging

structure Stager where
  layout : Layout
  bundle : Bundle
  ready : Bool
  deriving DecidableEq, Repr

namespace Stager

/-- Remove a staged file that an earlier host left; a failure is let pass. -/
def clear (m : Machine) (p : Path) (w : World) : World :=
  let tick := { w with clock := w.clock + 1 }
  match m.obstacle w.clock with
  | some _ => tick
  | none => tick.trying fun t => t.removeFile m.directory p

def create (m : Machine) (layout : Layout) (bundle : Bundle) (w : World) : Stager × World :=
  (⟨layout, bundle, false⟩,
    clear m layout.configurationPath (clear m layout.executablePath w))

/-- Write whatever is missing; both resources must be there before the disk is touched. -/
def writeMissing (m : Machine) (s : Stager) : Work StageError Unit :=
  match Stock.ofBundle s.bundle with
  | .error e => throw (.resource e)
  | .ok stock => complete m s.layout stock

/-- Stage once. The stager that comes back is ready. -/
def stage (m : Machine) (s : Stager) : Work StageError Stager := do
  if s.ready then return s
  else
    s.writeMissing m
    return { s with ready := true }

/-- Stage, and write back what was removed since. -/
def restage (m : Machine) (s : Stager) : Work StageError Stager := do
  let s ← s.stage m
  s.writeMissing m
  return s

end Stager
end TemplateBatch.Staging
