import TemplateBatch.Proofs.RestoredFiles
import TemplateBatch.Proofs.RunStages

/-!
Runs of modules, one after the other. A runner looks at the staged files once and remembers that it
did, while other hosts may clear the layout between its runs. A run is the same in spite of that: a
worker that is gone is found to be gone when it is started, both files are put back then, and the
worker meets what it met in the first run.
-/
namespace TemplateBatch

open Staging
open FileTree (Adds KeepsWays)

namespace Staging.Crew

/-- A runner of one of the hosts. -/
def runner (c : Crew) (directory : Option Path) (ready : Bool) : Runner :=
  ⟨⟨c.layout, c.bundle, ready⟩, directory⟩

/-- The files that a worker is started with: both staged files, a module, and around these what was
there before anything was run. -/
structure Laid (c : Crew) (around : FileTree) (path : Path) (content : Bytes) (t : FileTree) :
    Prop where
  staged : ∀ a, t.under? c.machine.directory (c.layout.path a) = some (c.stock.file a)
  written : t.under? c.machine.directory path = some (.file content temporaryMode)
  rest : ∀ l, (∀ a, ¬ t.Names c.machine.directory (c.layout.path a) l) →
    ¬ t.Names c.machine.directory path l → t.node? l = around.node? l

/-- How a worker ended and what it left on its two channels. -/
abbrev Answer := ExitStatus × Bytes × Bytes

/-- The outcome for an answer. -/
def Answer.outcome (answer : Answer) : RunOutcome :=
  Runner.classify answer.1 answer.2.1 answer.2.2

/-- What is taken for granted of the staged program. It is called by its path and can be started
when it is there, its answer is settled by the content of the module and the request, and it leaves
the files alone. -/
structure Steady (c : Crew) (directory : Option Path) (around : FileTree)
    (answer : Bytes → Request → Answer) : Prop where
  separated : c.layout.executablePath.chars.contains '/' = true
  starts : ∀ line w, w.tree.under? c.machine.directory c.layout.executablePath =
      some (c.stock.file .executable) →
    ∃ outcome w', ((c.runner directory true).workerCommand line).run c.machine w =
      (.ok outcome, w')
  answers : ∀ request content w outcome w', c.Laid around request.compiled content w.tree →
    ((c.runner directory true).workerCommand request.toLine).run c.machine w = (.ok outcome, w') →
      (outcome.status, outcome.output, outcome.errors) = answer content request ∧
        outcome.tree = w.tree

section Steady
variable {c : Crew} {directory : Option Path} {around : FileTree}
  {answer : Bytes → Request → Answer} {w : World} {ready : Bool}
  (h : c.Steady directory around answer)
include h

/-- Nothing from outside gets in the way of a program that can be started at any time. -/
theorem Steady.undisturbed (g : Ground c.machine c.layout) (line : String) :
    ((c.runner directory true).workerCommand line).hasNul = false ∧
      ∀ k, c.machine.obstacle k = none := by
  have hne := g.place_ne_nil .executable
  have hkeeps : KeepsWays g.tree (g.tree.put (g.place .executable) (c.stock.file .executable)) :=
    FileTree.keepsWays_put _ _ _ hne (by simp [g.free])
  have hthere : (g.tree.put (g.place .executable) (c.stock.file .executable)).under?
      c.machine.directory c.layout.executablePath = some (c.stock.file .executable) := by
    refine ((g.names .executable).of_keepsWays hkeeps).under?_eq.trans ?_
    rw [FileTree.node?_put _ _ _ _ hne, if_pos rfl]
  have hrun : ∀ k, ((c.runner directory true).workerCommand line).hasNul = false ∧
      c.machine.obstacle k = none := by
    intro k
    obtain ⟨outcome, w', hrun⟩ := h.starts line { tree := _, clock := k } hthere
    obtain ⟨hnul, hobstacle, _⟩ := Command.run_ok hrun
    exact ⟨hnul, hobstacle⟩
  exact ⟨(hrun 0).1, fun k => (hrun k).2⟩

theorem Steady.run_absent {g : Ground c.machine c.layout} (hsound : g.Supports c.stock w.tree)
    (habsent : w.tree.node? (g.place .executable) = none) (line : String) :
    ((c.runner directory ready).workerCommand line).run c.machine w =
      (.error .notFound, { w with clock := w.clock + 1 }) := by
  obtain ⟨hnul, hobstacle⟩ := h.undisturbed g line
  have hfind : w.tree.find c.machine.directory c.layout.executablePath = .error .notFound :=
    FileTree.find_free (hsound.names (g.names .executable)) habsent
  have hprogram : ∀ vs, Machine.findProgram w.tree c.machine.directory vs
      c.layout.executablePath = .error .notFound := by
    intro vs
    rw [Machine.findProgram, if_pos h.separated, Machine.executableAt, hfind]
  have hresolve : ((c.runner directory ready).workerCommand line).resolve c.machine w.tree =
      .error .notFound := by
    change (Machine.findProgram w.tree c.machine.directory _ c.layout.executablePath >>= _) = _
    rw [hprogram]
    rfl
  have hnul' : ((c.runner directory ready).workerCommand line).hasNul = false := hnul
  rw [Command.run]
  simp only [hnul', hobstacle, hresolve, Bool.false_eq_true, if_false]

end Steady

section Program
variable {c : Crew} {directory : Option Path} {around : FileTree}
  {answer : Bytes → Request → Answer} {program : Program}
  (hobstacle : ∀ k, c.machine.obstacle k = none)
  (hseparated : c.layout.executablePath.chars.contains '/' = true)
  (hnul : ((c.runner directory true).workerCommand "").hasNul = false)
  (hfits : Command.fits []
    (((c.runner directory true).workerCommand "").fullEnvironment c.machine) = true)
  (hprogram : c.machine.program c.stock.executable = .ok program)
include hobstacle hseparated hnul hfits hprogram

theorem run_present (line : String) {w : World}
    (hthere : w.tree.under? c.machine.directory c.layout.executablePath =
      some (c.stock.file .executable)) :
    ∃ invocation w', invocation.input = Text.Utf8.encode line ∧
      ((c.runner directory true).workerCommand line).run c.machine w =
        (.ok (program invocation w.tree), w') := by
  obtain ⟨l, hnames, hnode⟩ := FileTree.exists_names_of_under? hthere
  have hmode : executableMode &&& 0o111 ≠ 0 := by decide
  have hfind : ∀ vs, Machine.findProgram w.tree c.machine.directory vs
      c.layout.executablePath = .ok (l, c.stock.executable) := by
    intro vs
    rw [Machine.findProgram, if_pos hseparated, Machine.executableAt,
      FileTree.find_file hnames hnode]
    simp [Artifact.mode, hmode, Stock.content]
  let invocation : Invocation :=
    { executable := FileTree.pathOf l
      arguments := []
      directory := c.machine.directory
      environment := ((c.runner directory true).workerCommand "").fullEnvironment c.machine
      input := Text.Utf8.encode line }
  have hresolve : ((c.runner directory true).workerCommand line).resolve c.machine w.tree =
      .ok (program, invocation) := by
    change (Machine.findProgram w.tree c.machine.directory _ c.layout.executablePath >>= _) = _
    rw [hfind]
    change (if !Command.fits [] (((c.runner directory true).workerCommand "").fullEnvironment
      c.machine) then _ else _) = _
    rw [hfits]
    change (c.machine.program c.stock.executable >>= _) = _
    rw [hprogram]
    rfl
  have hnul' : ((c.runner directory true).workerCommand line).hasNul = false := hnul
  have hresult : (((c.runner directory true).workerCommand line).run c.machine w).1 =
      .ok (program invocation w.tree) := by
    rw [Command.run]
    simp only [hnul', hobstacle, hresolve, Bool.false_eq_true, if_false]
  exact ⟨invocation, _, rfl, Prod.ext hresult rfl⟩

/-- It is steady if its answer is settled by the line and the module. -/
theorem steady_of_program
    (hanswers : ∀ request content t invocation, c.Laid around request.compiled content t →
      invocation.input = Text.Utf8.encode request.toLine →
      ((program invocation t).status, (program invocation t).output,
        (program invocation t).errors) = answer content request ∧
        (program invocation t).tree = t) :
    c.Steady directory around answer := by
  refine ⟨hseparated, fun line w hthere => ?_, fun request content w outcome w' hlaid hran => ?_⟩
  · obtain ⟨invocation, w', _, hran⟩ :=
      run_present hobstacle hseparated hnul hfits hprogram line hthere
    exact ⟨_, w', hran⟩
  · obtain ⟨invocation, w'', hinput, hran'⟩ :=
      run_present hobstacle hseparated hnul hfits hprogram request.toLine (hlaid.staged .executable)
    obtain ⟨houtcome, rfl⟩ := Prod.mk.inj (hran.symm.trans hran')
    obtain rfl := Except.ok.inj houtcome
    exact hanswers request content w.tree invocation hlaid hinput

end Program

section Runs
variable {c : Crew} {g : Ground c.machine c.layout} {directory : Option Path} {t : FileTree}
  {answer : Bytes → Request → Answer} {w w' : World} {ready : Bool}

/-- A worker that is gone is staged again, and either way it gives its answer. -/
theorem Steady.exchange {around : FileTree} {content : Bytes}
    (h : c.Steady directory around answer) (request : Request) (hrests : g.Rests c.stock w.tree)
    (hlaid : ∀ t, g.Secured c.stock t → c.Laid around request.compiled content t)
    (hrestage : (((c.runner directory true).workerCommand request.toLine).run c.machine w).1 =
        .error .notFound →
      ∃ stager w', (Stager.restage c.machine ⟨c.layout, c.bundle, true⟩).Gives
        (((c.runner directory true).workerCommand request.toLine).run c.machine w).2 stager w') :
    ∃ w', (c.runner directory true).exchange c.machine request.toLine w =
        ((answer content request).outcome, w') ∧ g.Secured c.stock w'.tree := by
  have hmeets : ∀ w, g.Secured c.stock w.tree → ∃ outcome w',
      ((c.runner directory true).workerCommand request.toLine).run c.machine w =
        (.ok outcome, w') ∧
      Runner.classify outcome.status outcome.output outcome.errors =
        (answer content request).outcome ∧ g.Secured c.stock w'.tree := by
    intro w hsecured
    have hlaid := hlaid w.tree hsecured
    obtain ⟨outcome, w', hrun⟩ := h.starts request.toLine w (hlaid.staged .executable)
    obtain ⟨hanswer, htree⟩ := h.answers request content w outcome w' hlaid hrun
    refine ⟨outcome, w', hrun, by rw [← hanswer, Answer.outcome], ?_⟩
    rw [(Command.run_ok hrun).2.2.1, htree]
    exact hsecured
  by_cases habsent : w.tree.node? (g.place .executable) = none
  · have hgone : ((c.runner directory true).workerCommand request.toLine).run c.machine w =
        (.error .notFound, { w with clock := w.clock + 1 }) :=
      h.run_absent hrests.sound.supports habsent request.toLine
    rw [hgone] at hrestage
    obtain ⟨stager, w₁, hgives⟩ := hrestage rfl
    have hsecured : g.Secured c.stock w₁.tree :=
      writeMissing_sound (w := { w with clock := w.clock + 1 }) (h.undisturbed g "").2 hrests.sound
        (restage_gives hgives)
    obtain ⟨outcome, w', hrun, houtcome, hleft⟩ := hmeets w₁ hsecured
    exact ⟨w', houtcome ▸ Runner.exchange_restaged hgone hgives hrun, hleft⟩
  · obtain ⟨outcome, w', hrun, houtcome, hleft⟩ := hmeets w (hrests.secured habsent)
    exact ⟨w', houtcome ▸ Runner.exchange_started hrun, hleft⟩

/-- With both files in place beside a module a worker finds all that it needs. -/
theorem laid_of_secured {g' : Ground c.machine c.layout} {l : Location} {path : Path}
    {content : Bytes} (hholds : g.Holds g' l (.file content temporaryMode))
    (hnames : g'.tree.Names c.machine.directory path l) {t : FileTree}
    (h : g'.Secured c.stock t) : c.Laid g.tree path content t := by
  have hnodes := (Ground.sound_iff.mp h.sound).2
  have hstaged : ∀ a, t.Names c.machine.directory (c.layout.path a) (g'.place a) :=
    fun a => h.sound.supports.names (g'.names a)
  have hmodule : t.Names c.machine.directory path l := h.sound.supports.names hnames
  refine ⟨fun a => (hstaged a).under?_eq.trans (h.present a), ?_, fun l' hplaces hpath => ?_⟩
  · have hapart : ∀ a, l ≠ g'.place a := by
      rw [hholds.place]
      exact hholds.apart
    rw [hmodule.under?_eq, hnodes l hapart, hholds.adds.nodes, if_pos rfl]
  · have hplaces' : ∀ a, l' ≠ g'.place a := by
      rintro a rfl
      exact hplaces a (hstaged a)
    have hl' : l' ≠ l := by
      rintro rfl
      exact hpath hmodule
    rw [hnodes l' hplaces', hholds.adds.nodes, if_neg hl']

/-- How things stand between two runs: nothing has been staged yet and the runner does not claim
that it has, or nobody has a draft in hand. -/
inductive Settled (c : Crew) (g : Ground c.machine c.layout) (directory : Option Path)
    (t : FileTree) : Runner → World → Prop
  | unmade {w : World} (htree : w.tree = t) :
      Settled c g directory t (c.runner directory false) w
  | resting {w : World} (ready : Bool) (h : g.Rests c.stock w.tree) :
      Settled c g directory t (c.runner directory ready) w

variable {r : Runner} {w₁ w₂ : World} {path : Path} {l : Location} {references : List Path}

theorem Settled.eq_runner (h : Settled c g directory t r w) :
    ∃ ready, r = c.runner directory ready := by
  cases h with
  | unmade _ => exact ⟨false, rfl⟩
  | resting ready _ => exact ⟨ready, rfl⟩

theorem Settled.fresh (h : Settled c g directory t r w) :
    Settled c g directory t (c.runner directory false) w := by
  cases h with
  | unmade htree => exact Settled.unmade htree
  | resting _ hrests => exact Settled.resting false hrests

section Stages
variable (hvacant : Site.Vacant c.machine c.layout t g.tree)
  (hobstacle : ∀ k, c.machine.obstacle k = none)
include hvacant hobstacle

theorem Settled.stage {content : Bytes} {stager : Stager} (h : Settled c g directory t r w)
    (hwritten : Runner.Written c.machine content path l w.tree w₁.tree)
    (hstage : (r.stager.stage c.machine).Gives w₁ stager w₂) :
    stager = ⟨c.layout, c.bundle, true⟩ ∧ ∃ g' : Ground c.machine c.layout,
      g.Holds g' l (.file content temporaryMode) ∧ g'.tree.Names c.machine.directory path l ∧
        g'.Rests c.stock w₂.tree := by
  cases h with
  | unmade htree =>
    subst htree
    obtain ⟨hstager, ⟨hready, _⟩ | ⟨_, hmissing⟩⟩ := stage_gives hstage
    · cases hready
    · obtain ⟨t', hmake, hsecured⟩ := writeMissing_secured hobstacle hmissing
      have hmade : Adds l _ g.tree t' := hwritten.adds.makePath hvacant.made hmake
      have hbefore : g.Sound c.stock g.tree fun _ : Unit => none := Ground.sound_tree
      obtain ⟨g', hholds, hsound⟩ := Ground.exists_holds hmade hbefore hwritten.apart
      have hways : KeepsWays w.tree g.tree := (FileTree.makePath_made hvacant.made).2.keepsWays
      exact ⟨hstager, g', hholds, hwritten.names.of_keepsWays (hways.trans hholds.adds.keepsWays),
        (hsecured g' hsound).rests⟩
  | resting ready hrests =>
    obtain ⟨g', hholds, hsound⟩ :=
      Ground.exists_holds hwritten.adds hrests.sound hwritten.apart
    have hnames := hwritten.names.of_keepsWays
      (hrests.sound.supports.ways.trans hholds.adds.keepsWays)
    obtain ⟨hstager, ⟨_, rfl⟩ | ⟨_, hmissing⟩⟩ := stage_gives hstage
    · exact ⟨hstager, g', hholds, hnames, hholds.rests hwritten.adds hrests hsound⟩
    · exact ⟨hstager, g', hholds, hnames,
        (writeMissing_sound hobstacle hsound hmissing).rests⟩

theorem Settled.create (h : Settled c g directory t r w) :
    Settled c g directory t r (Stager.create c.machine c.layout c.bundle w).2 := by
  cases h with
  | unmade htree =>
    subst htree
    exact Settled.unmade (create_absent hvacant.absent)
  | resting ready hrests => exact Settled.resting ready (hrests.create hobstacle)

theorem Settled.staged {stager : Stager} (h : Settled c g directory t r w)
    (hstage : (Stager.stage c.machine ⟨c.layout, c.bundle, ready⟩).Gives w stager w') :
    Settled c g directory t r w' := by
  obtain ⟨_, ⟨_, rfl⟩ | ⟨_, hmissing⟩⟩ := stage_gives hstage
  · exact h
  · cases h with
    | unmade htree =>
      subst htree
      obtain ⟨t', hmake, hsecured⟩ := writeMissing_secured hobstacle hmissing
      obtain ⟨_, rfl⟩ := Prod.mk.inj (hvacant.made.symm.trans hmake)
      exact Settled.resting false (hsecured g Ground.sound_tree).rests
    | resting ready hrests =>
      exact Settled.resting ready (writeMissing_sound hobstacle hrests.sound hmissing).rests

end Stages

theorem Settled.run {built : CompiledModule} (hvacant : Site.Vacant c.machine c.layout t g.tree)
    (hsteady : c.Steady directory g.tree answer) (h : Settled c g directory t r w)
    (hprepares : r.Prepares c.machine w built.content path references) :
    ∃ r' w', (r.run c.machine built references).Gives w
        ((answer built.content ⟨path, references⟩).outcome, r') w' ∧
      Settled c g directory t r' w' := by
  have hobstacle := (hsteady.undisturbed g "").2
  obtain ⟨w₁, stager, w₂, hwrite, hstage, hrestage⟩ := hprepares
  obtain ⟨l, hwritten⟩ := Runner.written_of_gives hwrite
  obtain ⟨rfl, g', hholds, hnames, hrests⟩ := h.stage hvacant hobstacle hwritten hstage
  obtain ⟨ready, rfl⟩ := h.eq_runner
  obtain ⟨w₃, hexchange, hsecured⟩ := hsteady.exchange ⟨path, references⟩ hrests
    (fun _ => laid_of_secured hholds hnames) hrestage
  refine ⟨_, _, Runner.gives_run_of hwrite hstage hexchange, ?_⟩
  have hmodule : w₃.tree.node? l = some (.file built.content temporaryMode) := by
    have hlaid := (laid_of_secured hholds hnames hsecured).written
    rwa [(hsecured.sound.supports.names hnames).under?_eq] at hlaid
  have hremove := FileTree.removeFile_file (hsecured.sound.supports.names hnames) hwritten.isFile
    hmodule
  have htree : (World.trying (fun t => t.removeFile c.machine.directory path) w₃).tree =
      w₃.tree.erase l := by
    rw [World.trying, hremove]
  refine Settled.resting true ?_
  rw [htree]
  exact (hholds.secured_erase hsecured).rests

/-- What may have gone before: the tree was `t` when a runner was made, and since then it has run
modules, other hosts have made their stagers for the layout, and some of these have staged. -/
inductive Past (c : Crew) (directory : Option Path) (t : FileTree) : Runner → World → Prop
  | fresh {w : World} (h : (Stager.create c.machine c.layout c.bundle w).2.tree = t) :
      Past c directory t (c.runner directory false)
        (Stager.create c.machine c.layout c.bundle w).2
  /-- Another runner is made, and what follows is told of that one. -/
  | anew {r : Runner} {w : World} (h : Past c directory t r w) :
      Past c directory t (c.runner directory false)
        (Stager.create c.machine c.layout c.bundle w).2
  | cleared {r : Runner} {w : World} (h : Past c directory t r w) :
      Past c directory t r (Stager.create c.machine c.layout c.bundle w).2
  | staged {r : Runner} {w w' : World} {ready : Bool} {stager : Stager}
      (h : Past c directory t r w)
      (hstage : (Stager.stage c.machine ⟨c.layout, c.bundle, ready⟩).Gives w stager w') :
      Past c directory t r w'
  | ran {r r' : Runner} {w w' : World} {built : CompiledModule} {references : List Path}
      {path : Path} {outcome : RunOutcome} (h : Past c directory t r w)
      (hprepares : r.Prepares c.machine w built.content path references)
      (hrun : (r.run c.machine built references).Gives w (outcome, r') w') :
      Past c directory t r' w'
  /-- A module that could not be written. -/
  | refused {r : Runner} {w w' : World} {built : CompiledModule} {references : List Path}
      {cause : SystemError} (h : Past c directory t r w)
      (hrun : ExceptT.run (r.run c.machine built references) w = (.error (.system cause), w')) :
      Past c directory t r w'

theorem Past.settled (hvacant : Site.Vacant c.machine c.layout t g.tree)
    (hsteady : c.Steady directory g.tree answer) (h : c.Past directory t r w) :
    Settled c g directory t r w := by
  have hobstacle := (hsteady.undisturbed g "").2
  induction h with
  | fresh htree => exact Settled.unmade htree
  | anew _ ih => exact (ih.create hvacant hobstacle).fresh
  | cleared _ ih => exact ih.create hvacant hobstacle
  | staged _ hstage ih => exact ih.staged hvacant hobstacle hstage
  | ran _ hprepares hrun ih =>
    obtain ⟨r', w', hgives, hsettled⟩ := ih.run hvacant hsteady hprepares
    obtain ⟨hresult, rfl⟩ := hrun.unique hgives
    obtain ⟨_, rfl⟩ := Prod.mk.inj hresult
    exact hsettled
  | refused _ hrun ih =>
    obtain rfl := Runner.run_refused hrun
    exact ih

/-- Runs of one module with the same references end alike, whatever has gone before them, unless the
worker tells the two temporary paths of the module apart. One of the two may well be the first run
of a fresh runner. -/
theorem Past.runs_repeat {t₁ : FileTree} {r₀ : Runner} {w₀ : World} {path₀ : Path}
    {built : CompiledModule} (hvacant : Site.Vacant c.machine c.layout t t₁)
    (hsteady : c.Steady directory t₁ answer) (h : c.Past directory t r w)
    (h₀ : c.Past directory t r₀ w₀)
    (hprepares : r.Prepares c.machine w built.content path references)
    (hprepares₀ : r₀.Prepares c.machine w₀ built.content path₀ references) :
    ∃ outcome outcome₀ r' r₀' w' w₀',
      (r.run c.machine built references).Gives w (outcome, r') w' ∧
      (r₀.run c.machine built references).Gives w₀ (outcome₀, r₀') w₀' ∧
      outcome = (answer built.content ⟨path, references⟩).outcome ∧
      (answer built.content ⟨path, references⟩ = answer built.content ⟨path₀, references⟩ →
        outcome = outcome₀) := by
  obtain ⟨g, rfl⟩ := hvacant.exists_ground
  obtain ⟨r', w', hrun, _⟩ := (h.settled hvacant hsteady).run hvacant hsteady hprepares
  obtain ⟨r₀', w₀', hrun₀, _⟩ := (h₀.settled hvacant hsteady).run hvacant hsteady hprepares₀
  exact ⟨_, _, r', r₀', w', w₀', hrun, hrun₀, rfl, congrArg Answer.outcome⟩

end Runs

namespace Sample

/-- A worker for modules that have no templates. -/
def worker : Program := fun _ t =>
  { status := .exited 0
    output := Text.Utf8.encode (Response.toLine .empty)
    errors := []
    tree := t }

def crew : Crew :=
  { Site.Sample.crew with
    machine := { Site.Sample.machine with program := fun _ => .ok worker } }

def create (w : World) : World := (Stager.create crew.machine crew.layout crew.bundle w).2

def run (ready : Bool) (w : World) : Except RunnerError (RunOutcome × Runner) × World :=
  ExceptT.run ((crew.runner none ready).run crew.machine ⟨[7]⟩ []) w

def began : World := create { tree := .empty }

def first : Except RunnerError (RunOutcome × Runner) × World := run false began

/-- Another host makes its stager when the first run is over. -/
def cleared : World := create first.2

theorem first_eq : first.1 = .ok (.success .empty, crew.runner none true) := by decide +kernel

theorem prepares_began : (crew.runner none false).Prepares crew.machine began [7]
    ⟨"/rendergen-module-000002.so"⟩ [] :=
  Runner.prepares_of_results (crew.runner none true).stager (crew.runner none true).stager
    (by decide +kernel)

theorem prepares_cleared : (crew.runner none true).Prepares crew.machine cleared [7]
    ⟨"/rendergen-module-000015.so"⟩ [] :=
  Runner.prepares_of_results (crew.runner none true).stager (crew.runner none true).stager
    (by decide +kernel)

theorem steady (around : FileTree) : crew.Steady none around
    fun _ _ => (.exited 0, Text.Utf8.encode (Response.toLine .empty), []) :=
  have hprogram : crew.machine.program crew.stock.executable = .ok worker := rfl
  steady_of_program (fun _ => rfl) (by decide) rfl rfl hprogram fun _ _ _ _ _ _ => ⟨rfl, rfl⟩

end Sample

/-- A worker that was cleared away after the first run is back in the second, which ends like the
first. -/
theorem Past.runs_repeat_cleared :
    Sample.cleared.tree.under? [] Sample.crew.layout.executablePath = none ∧
      ∃ outcome r' w' r₀', Sample.run true Sample.cleared = (.ok (outcome, r'), w') ∧
        Sample.first.1 = .ok (outcome, r₀') := by
  have hbegan : Sample.crew.Past none .empty (Sample.crew.runner none false) Sample.began :=
    Past.fresh (by decide +kernel)
  have hcleared : Sample.crew.Past none .empty (Sample.crew.runner none true) Sample.cleared :=
    (hbegan.ran Sample.prepares_began (Work.gives_run Sample.first_eq)).cleared
  obtain ⟨outcome, outcome₀, r', r₀', w', w₀', hrun, hrun₀, _, hsame⟩ :=
    Past.runs_repeat (Site.Sample.vacant rfl) (Sample.steady _) hcleared hbegan
      Sample.prepares_cleared Sample.prepares_began
  obtain rfl := hsame rfl
  exact ⟨by decide +kernel, outcome, r', w', r₀', hrun, congrArg Prod.fst hrun₀⟩

end Staging.Crew
end TemplateBatch
