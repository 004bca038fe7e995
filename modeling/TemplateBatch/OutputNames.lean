/-!
Output names of a batch. A candidate that is taken is handed out with the first free number behind
it. The search needs at most one step more than there are names taken.
-/
namespace TemplateBatch

/-- The names handed out so far, in that order. -/
structure OutputNames where
  taken : List String
  deriving DecidableEq, Repr

namespace OutputNames

def empty : OutputNames := ⟨[]⟩

def isReserved (names : OutputNames) (name : String) : Bool := names.taken.contains name

def size (names : OutputNames) : Nat := names.taken.length

def numbered (candidate : String) (k : Nat) : String := candidate ++ toString k

/-- The first number from `k` on that makes the candidate free, looked for `fuel` times. -/
def firstFree (names : OutputNames) (candidate : String) : (fuel : Nat) → (k : Nat) → Nat
  | 0, k => k
  | fuel + 1, k =>
    if names.isReserved (numbered candidate k) then firstFree names candidate fuel (k + 1) else k

def choose (names : OutputNames) (candidate : String) : String :=
  if names.isReserved candidate then numbered candidate (firstFree names candidate names.size 1)
  else candidate

/-- The name given for a candidate, and the names with it. -/
def reserve (names : OutputNames) (candidate : String) : String × OutputNames :=
  let name := names.choose candidate
  (name, ⟨names.taken ++ [name]⟩)

end OutputNames
end TemplateBatch
