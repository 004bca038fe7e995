import TemplateBatch.Proofs.StagingSteps
import TemplateBatch.Proofs.WorkResults
import Mathlib.Logic.Function.Basic

/-!
Hosts that share a staging directory. Each has a stager of its own, for the same layout and with
equal bundles, and all that they share is the tree of files. Any of them may take its next step at
any time, and which one does is left open: a state is reachable when some order of steps leads
there.
-/
namespace TemplateBatch.Staging

/-- What the hosts have in common. Their bundles hold all that is to be staged. -/
structure Crew where
  machine : Machine
  layout : Layout
  bundle : Bundle
  stock : Stock
  complete : Stock.ofBundle bundle = .ok stock

/-- The paths that a stager answers with. -/
def Layout.paths (layout : Layout) : Path × Path :=
  (layout.executablePath, layout.configurationPath)

/-- What a host is at: it clears its layout when its stager is made, waits to be called, and passes
over the files, with one more pass to follow or not. -/
inductive Task where
  | clearing (a : Artifact)
  | waiting
  | passing (more : Bool) (p : Phase)
  deriving DecidableEq, Repr

namespace Task

def afterClearing : Artifact → Task
  | .executable => .clearing .configuration
  | .configuration => .waiting

def isPass : Task → Bool
  | .passing .. => true
  | _ => false

/-- An upper bound on the steps until the host waits again. -/
def left : Task → ℕ
  | .clearing .executable => 2
  | .clearing .configuration => 1
  | .waiting => 0
  | .passing more p => p.rank + 1 + if more then Phase.opening.rank + 1 else 0

def draft? (stock : Stock) : Task → Option (Path × Node)
  | .passing _ p => p.draft? stock
  | _ => none

def Creates (m : Machine) (layout : Layout) (w : World) : Task → Prop
  | .passing _ p => p.Creates m layout w
  | _ => True

instance (m : Machine) (layout : Layout) (w : World) :
    (task : Task) → Decidable (task.Creates m layout w)
  | .passing _ p => inferInstanceAs (Decidable (p.Creates m layout w))
  | .clearing _ => .isTrue trivial
  | .waiting => .isTrue trivial

end Task

inductive Call where
  | stage
  | restage
  deriving DecidableEq, Repr

/-- What the stager does when it is called. -/
def Call.work (m : Machine) (stager : Stager) : Call → Work StageError Stager
  | .stage => stager.stage m
  | .restage => stager.restage m

/-- A host with the number of its calls and what its stager has answered so far. -/
structure Host where
  ready : Bool := false
  task : Task := .clearing .executable
  calls : ℕ := 0
  answers : List (Except StageError (Path × Path)) := []
  deriving DecidableEq

namespace Host

def answer (h : Host) (r : Except StageError (Path × Path)) : Host :=
  { h with task := .waiting, answers := h.answers ++ [r] }

/-- A call of the stager. One that has staged already looks at the files only when it is to stage
again; one that has not, and is to stage again, passes over them twice. -/
def receive (layout : Layout) (h : Host) (call : Call) : Host :=
  let called := { h with calls := h.calls + 1 }
  match call with
  | .stage =>
    if h.ready then called.answer (.ok layout.paths)
    else { called with task := .passing false .opening }
  | .restage => { called with task := .passing (!h.ready) .opening }

/-- The host after a step of a pass that has led to the phase `p`. -/
def pass (layout : Layout) (h : Host) (more : Bool) : Phase → Host
  | .done =>
    let staged := { h with ready := true }
    if more then { staged with task := .passing false .opening }
    else staged.answer (.ok layout.paths)
  | .failed e => h.answer (.error e)
  | p => { h with task := .passing more p }

end Host

/-- The hosts `ι` and the tree that they share. -/
structure Site (ι : Type) where
  tree : FileTree
  host : ι → Host

/-- A host is called, or takes its next step at the given time. -/
inductive Action where
  | call (c : Call)
  | next (clock : ℕ)
  deriving DecidableEq, Repr

namespace Site

variable {ι : Type}

/-- No stager has been made yet. -/
def start (t : FileTree) : Site ι := ⟨t, fun _ => {}⟩

variable [DecidableEq ι]

def setHost (s : Site ι) (i : ι) (h : Host) : Site ι :=
  { s with host := Function.update s.host i h }

/-- The step of the host `i`. -/
def after (c : Crew) (s : Site ι) (i : ι) : Action → Site ι
  | .call call => s.setHost i ((s.host i).receive c.layout call)
  | .next clock =>
    let h := s.host i
    let w : World := { tree := s.tree, clock }
    match h.task with
    | .waiting => s
    | .clearing a =>
      { s with tree := (Stager.clear c.machine (c.layout.path a) w).tree }.setHost i
        { h with task := Task.afterClearing a }
    | .passing more p =>
      let (p', t) := step c.machine c.layout c.stock (c.machine.obstacle clock) w p
      { s with tree := t }.setHost i (h.pass c.layout more p')

/-- A host is called when it waits and takes steps when it does not; nothing from outside gets in
the way of these, and temporary files can be created. -/
def Allows (c : Crew) (s : Site ι) (i : ι) : Action → Prop
  | .call _ => (s.host i).task = .waiting
  | .next clock => (s.host i).task ≠ .waiting ∧ c.machine.obstacle clock = none ∧
      (s.host i).task.Creates c.machine c.layout { tree := s.tree, clock }

/-- States that steps within a rule lead to. -/
inductive Reachable (c : Crew) (rule : Site ι → ι → Action → Prop) (s₀ : Site ι) :
    Site ι → Prop
  | start : Reachable c rule s₀ s₀
  | step {s i act} (h : Reachable c rule s₀ s) (hrule : rule s i act) :
      Reachable c rule s₀ (s.after c i act)

/-- The steps of a list, one after the other. -/
def run (c : Crew) (s : Site ι) : List (ι × Action) → Site ι
  | [] => s
  | (i, act) :: rest => run c (s.after c i act) rest

/-- All steps of a list are within the rule. -/
def Follows (c : Crew) (rule : Site ι → ι → Action → Prop) (s : Site ι) :
    List (ι × Action) → Prop
  | [] => True
  | (i, act) :: rest => rule s i act ∧ Follows c rule (s.after c i act) rest

theorem reachable_run {c : Crew} {rule : Site ι → ι → Action → Prop} {s₀ s : Site ι}
    {acts : List (ι × Action)} (h : Reachable c rule s₀ s) (hfollows : Follows c rule s acts) :
    Reachable c rule s₀ (s.run c acts) := by
  induction acts generalizing s with
  | nil => exact h
  | cons act acts ih => exact ih (Reachable.step h hfollows.1) hfollows.2

instance (c : Crew) (s : Site ι) (i : ι) : (act : Action) → Decidable (s.Allows c i act)
  | .call _ => inferInstanceAs (Decidable (_ = _))
  | .next _ => inferInstanceAs (Decidable (_ ∧ _ ∧ _))

instance decidableFollows (c : Crew) (rule : Site ι → ι → Action → Prop)
    [∀ s i act, Decidable (rule s i act)] (s : Site ι) :
    (acts : List (ι × Action)) → Decidable (Follows c rule s acts)
  | [] => .isTrue trivial
  | (_, _) :: rest => @instDecidableAnd _ _ _ (decidableFollows c rule _ rest)

variable (s : Site ι) (i j : ι) (h : Host)

@[simp] theorem tree_setHost : (s.setHost i h).tree = s.tree := rfl

@[simp] theorem host_setHost_self : (s.setHost i h).host i = h := Function.update_self ..

theorem host_setHost_of_ne (hij : j ≠ i) : (s.setHost i h).host j = s.host j :=
  Function.update_of_ne hij ..

section Alone
variable {c : Crew} {w w' : World} (others : ι → Host) (i : ι) {h : Host}

/-- The host `h` among others that do nothing. -/
def among (others : ι → Host) (i : ι) (t : FileTree) (h : Host) : Site ι :=
  ⟨t, Function.update others i h⟩

/-- A host takes `n` steps, one at each time from `clock` on. -/
def proceed (c : Crew) (i : ι) : (n : ℕ) → (clock : ℕ) → Site ι → Site ι
  | 0, _, s => s
  | n + 1, clock, s => proceed c i n (clock + 1) (s.after c i (.next clock))

theorem proceed_add (n k clock : ℕ) (s : Site ι) :
    proceed c i (n + k) clock s = proceed c i k (clock + n) (proceed c i n clock s) := by
  induction n generalizing clock s with
  | zero => rw [Nat.zero_add]; rfl
  | succ n ih =>
    rw [Nat.add_right_comm, proceed, ih, proceed, Nat.add_right_comm, Nat.add_assoc clock]

theorem after_call (t : FileTree) (call : Call) :
    (among others i t h).after c i (.call call) = among others i t (h.receive c.layout call) := by
  simp [after, among, setHost]

theorem clear_world (m : Machine) (p : Path) (w : World) :
    (Stager.clear m p { tree := w.tree, clock := w.clock }).tree = (Stager.clear m p w).tree ∧
      (Stager.clear m p w).clock = w.clock + 1 := by
  unfold Stager.clear World.trying
  cases m.obstacle w.clock with
  | some e => exact ⟨rfl, rfl⟩
  | none =>
    cases hremove : w.tree.removeFile m.directory p <;> simp [hremove]

/-- A stager that nobody comes in between clears its layout as it is made. -/
theorem proceed_create (hmaking : h.task = .clearing .executable) :
    (Stager.create c.machine c.layout c.bundle w).2.clock = w.clock + 2 ∧
      proceed c i 2 w.clock (among others i w.tree h) =
        among others i (Stager.create c.machine c.layout c.bundle w).2.tree
          { h with task := .waiting } := by
  obtain ⟨htree, hclock⟩ := clear_world c.machine c.layout.executablePath w
  obtain ⟨htree', hclock'⟩ := clear_world c.machine c.layout.configurationPath
    (Stager.clear c.machine c.layout.executablePath w)
  rw [hclock] at htree' hclock'
  refine ⟨hclock', ?_⟩
  simp [proceed, after, among, setHost, hmaking, Task.afterClearing, Layout.path, htree, htree',
    Stager.create]

theorem step_world (m : Machine) (layout : Layout) (stock : Stock)
    (obstacle : Option SystemError) (w : World) (p : Phase) :
    step m layout stock obstacle { tree := w.tree, clock := w.clock } p =
      step m layout stock obstacle w p := by
  have hfresh : ∀ d name, m.freshPath { tree := w.tree, clock := w.clock } d name =
      m.freshPath w d name := fun _ _ => rfl
  have hrefused : ∀ a path e,
      step.afterRefusal m layout { tree := w.tree, clock := w.clock } a path e =
        step.afterRefusal m layout w a path e := fun _ _ _ => rfl
  unfold step
  cases p <;> simp only [hfresh, hrefused]

theorem after_passing {more : Bool} {p p' : Phase} {t : FileTree}
    (htask : h.task = .passing more p)
    (hstep : step c.machine c.layout c.stock (c.machine.obstacle w.clock) w p = (p', t)) :
    (among others i w.tree h).after c i (.next w.clock) =
      among others i t (h.pass c.layout more p') := by
  simp [after, among, setHost, htask, step_world, hstep]

theorem pass_pass {layout : Layout} {more : Bool} {p : Phase} (hp : p.isFinal = false)
    (p' : Phase) : (h.pass layout more p).pass layout more p' = h.pass layout more p' := by
  cases p with
  | done => cases hp
  | failed e => cases hp
  | _ => cases p' <;> rfl

theorem task_pass (layout : Layout) (h : Host) {more : Bool} {p : Phase} (hp : p.isFinal = false) :
    (h.pass layout more p).task = .passing more p := by
  cases p with
  | done => cases hp
  | failed e => cases hp
  | _ => rfl

/-- The steps of a host that nobody comes in between are those of a pass. -/
theorem proceed_steps {fuel : ℕ} {more : Bool} {p p' : Phase} (hp : p.isFinal = false)
    (hfuel : p.rank ≤ fuel) (htask : h.task = .passing more p)
    (hsteps : steps c.machine c.layout c.stock fuel p w = (p', w')) :
    p'.isFinal = true ∧ ∃ n, w'.clock = w.clock + n ∧
      proceed c i n w.clock (among others i w.tree h) =
        among others i w'.tree (h.pass c.layout more p') := by
  induction fuel generalizing p w h with
  | zero => exact absurd (Phase.rank_pos hp) (by omega)
  | succ fuel ih =>
    rcases hstep : step c.machine c.layout c.stock (c.machine.obstacle w.clock) w p with ⟨p₁, t⟩
    have hafter := after_passing others i htask hstep
    have hrank := rank_step c.machine c.layout c.stock (c.machine.obstacle w.clock) w hp
    rw [hstep] at hrank
    rw [steps, hp, if_neg Bool.false_ne_true, hstep] at hsteps
    cases hfinal : p₁.isFinal with
    | true =>
      obtain ⟨rfl, rfl⟩ := Prod.mk.inj ((steps_of_isFinal hfinal ..).symm.trans hsteps)
      exact ⟨hfinal, 1, rfl, hafter⟩
    | false =>
      obtain ⟨hended, n, hclock, hproceed⟩ :=
        ih hfinal (Nat.lt_succ_iff.mp (hrank.trans_le hfuel)) (task_pass c.layout h hfinal) hsteps
      refine ⟨hended, n + 1, by rw [hclock, Nat.add_assoc, Nat.add_comm 1 n], ?_⟩
      rw [pass_pass hfinal] at hproceed
      rw [proceed, hafter]
      exact hproceed

/-- The phase in which a pass with this result ends. -/
def ending : Except StageError Unit → Phase
  | .ok () => .done
  | .error e => .failed e

omit [DecidableEq ι] in
theorem complete_run {c : Crew} {r : Except StageError Unit}
    (h : (complete c.machine c.layout c.stock).run w = (r, w')) :
    ∃ p, steps c.machine c.layout c.stock Phase.opening.rank .opening w = (p, w') ∧
      (p.isFinal = true → p = ending r) := by
  rcases hsteps : steps c.machine c.layout c.stock Phase.opening.rank .opening w with ⟨p, w''⟩
  rw [complete, ExceptT.run_mk, hsteps] at h
  cases p with
  | failed e =>
    obtain ⟨rfl, rfl⟩ := Prod.mk.inj h
    exact ⟨_, rfl, fun _ => rfl⟩
  | done =>
    obtain ⟨rfl, rfl⟩ := Prod.mk.inj h
    exact ⟨_, rfl, fun _ => rfl⟩
  | _ =>
    obtain ⟨rfl, rfl⟩ := Prod.mk.inj h
    exact ⟨_, rfl, fun hfinal => by cases hfinal⟩

theorem proceed_writeMissing {more ready : Bool} {r : Except StageError Unit}
    (htask : h.task = .passing more .opening)
    (hrun : ((⟨c.layout, c.bundle, ready⟩ : Stager).writeMissing c.machine).run w = (r, w')) :
    ∃ n, w'.clock = w.clock + n ∧ proceed c i n w.clock (among others i w.tree h) =
      among others i w'.tree (h.pass c.layout more (ending r)) := by
  simp only [Stager.writeMissing, c.complete] at hrun
  obtain ⟨p, hsteps, hp⟩ := complete_run hrun
  obtain ⟨hfinal, n, hclock, hproceed⟩ := proceed_steps others i rfl le_rfl htask hsteps
  exact ⟨n, hclock, hp hfinal ▸ hproceed⟩

variable (c h) in
/-- The host when it has answered with the result of its stager. -/
def replied (ready : Bool) (r : Except StageError Stager) : Host :=
  { h with ready, task := .waiting, answers := h.answers ++ [r.map fun _ => c.layout.paths] }

variable (c) in
/-- What comes of a stager whose work was to write what is missing. -/
def stagedBy (r : Except StageError Unit) : Except StageError Stager :=
  r.map fun _ => ⟨c.layout, c.bundle, true⟩

theorem run_stagedBy {ready : Bool} {r : Except StageError Unit}
    (hwrite : ((⟨c.layout, c.bundle, ready⟩ : Stager).writeMissing c.machine).run w = (r, w')) :
    ExceptT.run (do
      (⟨c.layout, c.bundle, ready⟩ : Stager).writeMissing c.machine
      return (⟨c.layout, c.bundle, true⟩ : Stager)) w = (stagedBy c r, w') := by
  rw [Work.run_bind, hwrite]
  cases r <;> rfl

theorem proceed_last {ready : Bool} {r : Except StageError Unit}
    (htask : h.task = .passing false .opening)
    (hwrite : ((⟨c.layout, c.bundle, ready⟩ : Stager).writeMissing c.machine).run w = (r, w')) :
    ∃ n ready', w'.clock = w.clock + n ∧
      (∀ stager, stagedBy c r = .ok stager → stager = ⟨c.layout, c.bundle, ready'⟩) ∧
      proceed c i n w.clock (among others i w.tree h) =
        among others i w'.tree (replied c h ready' (stagedBy c r)) := by
  obtain ⟨n, hclock, hproceed⟩ := proceed_writeMissing others i htask hwrite
  cases r with
  | ok _ => exact ⟨n, true, hclock, fun stager h => (Except.ok.inj h).symm, hproceed⟩
  | error e => exact ⟨n, h.ready, hclock, fun stager h => (by cases h), hproceed⟩

/-- A call that nobody comes in between does to the files what the stager does, and is answered with
its result. -/
theorem proceed_call {call : Call} {r : Except StageError Stager}
    (hrun : (call.work c.machine ⟨c.layout, c.bundle, h.ready⟩).run w = (r, w')) :
    ∃ n ready, w'.clock = w.clock + n ∧
      (∀ stager, r = .ok stager → stager = ⟨c.layout, c.bundle, ready⟩) ∧
      proceed c i n w.clock ((among others i w.tree h).after c i (.call call)) =
        among others i w'.tree (replied c { h with calls := h.calls + 1 } ready r) := by
  rw [after_call]
  rcases hwrite : ((⟨c.layout, c.bundle, h.ready⟩ : Stager).writeMissing c.machine).run w with
    ⟨result, w₁⟩
  obtain ⟨ready, task, calls, answers⟩ := h
  cases ready with
  | true =>
    cases call with
    | stage =>
      obtain ⟨rfl, rfl⟩ := Prod.mk.inj hrun
      exact ⟨0, true, rfl, fun stager h => (Except.ok.inj h).symm, rfl⟩
    | restage =>
      obtain ⟨rfl, rfl⟩ := Prod.mk.inj ((run_stagedBy hwrite).symm.trans hrun)
      exact proceed_last others i rfl hwrite
  | false =>
    cases call with
    | stage =>
      obtain ⟨rfl, rfl⟩ := Prod.mk.inj ((run_stagedBy hwrite).symm.trans hrun)
      exact proceed_last others i rfl hwrite
    | restage =>
      obtain ⟨n, hclock, hproceed⟩ := proceed_writeMissing others i
        (h := (⟨false, task, calls, answers⟩ : Host).receive c.layout .restage) rfl hwrite
      have hstage : ExceptT.run (Stager.stage c.machine ⟨c.layout, c.bundle, false⟩) w =
          (stagedBy c result, w₁) := run_stagedBy hwrite
      rw [Call.work, Stager.restage, Work.run_bind, hstage] at hrun
      cases result with
      | error e =>
        obtain ⟨rfl, rfl⟩ := Prod.mk.inj hrun
        exact ⟨n, false, hclock, fun stager h => (by cases h), hproceed⟩
      | ok _ =>
        -- The stager is ready now and passes over the files once more.
        rcases hagain : ((⟨c.layout, c.bundle, true⟩ : Stager).writeMissing c.machine).run w₁ with
          ⟨again, w₂⟩
        obtain ⟨rfl, rfl⟩ := Prod.mk.inj ((run_stagedBy hagain).symm.trans hrun)
        obtain ⟨k, ready, hclock', hready, hproceed'⟩ := proceed_last others i
          (h := { ready := true, task := .passing false .opening, calls := calls + 1, answers })
          rfl hagain
        refine ⟨n + k, ready, by rw [hclock', hclock, Nat.add_assoc], hready, ?_⟩
        rw [proceed_add, ← hclock, hproceed]
        exact hproceed'

end Alone
end Site
end TemplateBatch.Staging
