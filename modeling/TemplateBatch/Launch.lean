import TemplateBatch.SystemError

/-!
Starting the worker. A start that fails because the program is still being written is tried again,
five times at most. When the program is gone it is staged again, once, before another round.
-/
namespace TemplateBatch.Launch

variable {σ α ε : Type}

/-- How often a busy program is tried again. -/
def retries : Nat := 5

/-- One round of attempts: it ends with the first that is not refused as busy, or with the last. -/
def round (attempt : σ → Except SystemError α × σ) : (left : Nat) → σ → Except SystemError α × σ
  | 0, s => attempt s
  | left + 1, s =>
    match attempt s with
    | (.error .textBusy, s') => round attempt left s'
    | result => result

inductive Failure (ε : Type) where
  | notRestaged (cause : ε)
  | notStarted (cause : SystemError)
  deriving DecidableEq, Repr

def ended (r : Except SystemError α × σ) : Except (Failure ε) α × σ :=
  (r.1.mapError .notStarted, r.2)

/-- Attempts until the program runs or cannot be made to. -/
def start (attempt : σ → Except SystemError α × σ) (restage : σ → Except ε Unit × σ) (s : σ) :
    Except (Failure ε) α × σ :=
  match round attempt retries s with
  | (.error .notFound, s') =>
    match restage s' with
    | (.error e, s'') => (.error (.notRestaged e), s'')
    | (.ok (), s'') => ended (round attempt retries s'')
  | result => ended result

end TemplateBatch.Launch
