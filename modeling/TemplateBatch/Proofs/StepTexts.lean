import TemplateBatch.Stub.Manifest
import Mathlib.Data.List.Induction
import Mathlib.Tactic.Common

/-!
What the steps of a template write. The buffer sets the ending of an attribute aside until the next
end of one, so that what an end writes depends on the steps before it. Told by these steps alone,
the text is the concatenation of what each of them writes. A value that fails on the way has written
the part in front of the failure, and a template that gives up there has no text.
-/
namespace TemplateBatch.Stub

namespace Step

/-- The value that a step shows. -/
def value? : Step → Option Shown
  | .write value => some value
  | .attributeValue _ value => some value
  | _ => none

/-- The step shows no value that fails. -/
def succeeds (s : Step) : Bool := s.value?.all Shown.complete

/-- The step begins or ends an attribute. -/
def isBound : Step → Bool
  | .beginAttribute .. => true
  | .endAttribute => true
  | _ => false

end Step

/-- What the end of an attribute writes behind the steps `before`: the ending of the most recent
begin if no other end lies between them, and nothing otherwise. -/
def endingBehind (before : List Step) : String :=
  match before.reverse.find? Step.isBound with
  | some (.beginAttribute _ _ ending) => ending
  | _ => ""

/-- What a step writes behind the steps `before`. -/
def contribution (before : List Step) : Step → String
  | .literal s => s
  | .write value => value.text
  | .beginAttribute _ start _ => start
  | .attributeValue start value => start ++ value.text
  | .endAttribute => endingBehind before

/-- What each of the steps writes, in order. -/
def contributions (steps : List Step) : List String :=
  steps.mapIdx fun i s => contribution (steps.take i) s

theorem contributions_concat (steps : List Step) (s : Step) :
    contributions (steps ++ [s]) = contributions steps ++ [contribution steps s] := by
  rw [contributions, List.mapIdx_append, contributions]
  congr 1
  · refine List.ext_getElem (by simp) fun i hi _ => ?_
    rw [List.length_mapIdx] at hi
    simp [List.take_append_of_le_length (Nat.le_of_lt hi)]
  · simp

theorem endingBehind_concat (steps : List Step) (s : Step) :
    endingBehind (steps ++ [s]) =
      match s with
      | .beginAttribute _ _ ending => ending
      | .endAttribute => ""
      | _ => endingBehind steps := by
  cases s <;> simp [endingBehind, List.find?_cons, Step.isBound]

namespace Buffer

/-- The buffer when the steps have been taken, whether they failed or not. -/
def behind (b : Buffer) (steps : List Step) : Buffer := steps.foldl (fun b s => (b.apply s).2) b

theorem behind_concat (b : Buffer) (steps : List Step) (s : Step) :
    b.behind (steps ++ [s]) = ((b.behind steps).apply s).2 := by
  rw [behind, List.foldl_append]
  rfl

theorem fst_apply (b : Buffer) (s : Step) : (b.apply s).1 = s.succeeds := by
  cases s <;> rfl

theorem apply_fails_iff (b : Buffer) (s : Step) :
    (b.apply s).1 = false ↔ ∃ value, s.value? = some value ∧ value.complete = false := by
  rw [fst_apply, Step.succeeds]
  cases s.value? <;> simp

/-- The buffer holds what the steps have written and the ending that the next end will write. -/
structure Follows (b : Buffer) (steps : List Step) : Prop where
  text : b.text = String.join (contributions steps)
  ending : b.ending.getD "" = endingBehind steps

variable {b : Buffer} {steps : List Step}

theorem Follows.text_apply (h : b.Follows steps) (s : Step) :
    (b.apply s).2.text = b.text ++ contribution steps s := by
  cases s with
  | literal s => rfl
  | write value => rfl
  | beginAttribute name start ending => rfl
  | attributeValue start value => exact String.append_assoc
  | endAttribute => simp [apply, push, contribution, h.ending]

theorem Follows.apply (h : b.Follows steps) (s : Step) :
    (b.apply s).2.Follows (steps ++ [s]) where
  text := by
    rw [h.text_apply, h.text, contributions_concat]
    simp [String.join_append]
  ending := by
    rw [endingBehind_concat]
    cases s with
    | beginAttribute name start ending => rfl
    | endAttribute => rfl
    | _ => exact h.ending

theorem follows_behind (steps : List Step) : (empty.behind steps).Follows steps := by
  induction steps using List.reverseRecOn with
  | nil => exact ⟨rfl, rfl⟩
  | append_singleton steps s ih =>
    rw [behind_concat]
    exact ih.apply s

theorem getElem?_states (b : Buffer) (before : List Step) (s : Step) (after : List Step) :
    (b.states (before ++ s :: after))[before.length]? = some ((b.behind before).apply s) := by
  induction before generalizing b with
  | nil => rfl
  | cons first before ih => exact ih (b.apply first).2

end Buffer

/-- A template that takes steps and stops at the first that fails. -/
theorem run_steps (b : Buffer) (steps : List Step) :
    run b (steps.map .step) =
      if ∀ s ∈ steps, s.succeeds = true then .finished (b.behind steps).text else .failed := by
  induction steps generalizing b with
  | nil => simp [run, Buffer.behind]
  | cons s steps ih =>
    have hshown : (b.apply s).1 = s.succeeds := b.fst_apply s
    rw [List.map_cons, run]
    rcases hstep : b.apply s with ⟨_ | _, b'⟩
    · rw [hstep] at hshown
      simp [← hshown]
    · have hbehind : b.behind (s :: steps) = b'.behind steps := by
        simp [Buffer.behind, hstep]
      rw [hstep] at hshown
      simp only [ih, hbehind, List.forall_mem_cons, ← hshown, true_and]

/-- The text in the buffer is the concatenation of what the steps write, in any order, failing or
not. Every step adds to the text before it, and fails exactly when its value does. A template that
takes these steps and gives up at the first that fails is rendered with this text if none does, and
with an error else. -/
theorem text_written_by_steps (steps : List Step) :
    (Buffer.empty.behind steps).text = String.join (contributions steps) ∧
      (∀ before s after, steps = before ++ s :: after →
        ∃ shown b, (Buffer.empty.states steps)[before.length]? = some (shown, b) ∧
          b = Buffer.empty.behind (before ++ [s]) ∧
          b.text = (Buffer.empty.behind before).text ++ contribution before s ∧
          (shown = false ↔ ∃ value, s.value? = some value ∧ value.complete = false)) ∧
      ∀ name typeName defined, (Entry.mk name typeName defined none (steps.map .step)).render =
        if ∀ s ∈ steps, s.succeeds = true then .text (String.join (contributions steps))
        else .failure ("'" ++ typeName ++ "' reported a formatting error") := by
  have htext := (Buffer.follows_behind steps).text
  refine ⟨htext, ?_, fun name typeName defined => ?_⟩
  · rintro before s after rfl
    exact ⟨_, _, Buffer.getElem?_states .empty before s after, (Buffer.behind_concat ..).symm,
      (Buffer.follows_behind before).text_apply s, Buffer.apply_fails_iff _ s⟩
  · simp only [Entry.render, run_steps, ← htext]
    split_ifs <;> rfl

/-- A value that fails on the way leaves its part in the buffer, and a template that gives up at a
value that fails has no text, even where the value has written nothing. -/
theorem failed_values_leave_part :
    let partly := [Step.literal "a", .write ⟨"x", false⟩, .literal "b"]
    let unshown := [Step.literal "a", .write ⟨"", false⟩, .literal "b"]
    (Buffer.empty.behind partly).text = "axb" ∧
      (Buffer.empty.behind unshown).text = "ab" ∧
      (Entry.mk "A" "Slot<0>" true none (unshown.map .step)).render =
        .failure "'Slot<0>' reported a formatting error" := by
  decide +kernel

/-- Of two attributes that are open only the ending of the inner one is written. -/
example : contributions [.beginAttribute "a" "<" ">", .beginAttribute "b" "(" ")", .endAttribute,
    .endAttribute] = ["<", "(", ")", ""] := by
  decide

end TemplateBatch.Stub
