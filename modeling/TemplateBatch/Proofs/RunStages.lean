import TemplateBatch.Proofs.AddedFiles
import TemplateBatch.Proofs.StagingSteps
import TemplateBatch.Proofs.WorkResults
import TemplateBatch.Runner

/-!
A run of a module and its stages. The module is written to a file of its own, the worker is staged,
and when its start finds it gone it is staged again, once. What each of these does to the files is
told apart from the others.
-/
namespace TemplateBatch

open Staging
open FileTree (Adds KeepsWays)

namespace Runner

theorem isName_module (k : ℕ) : Path.IsName (moduleName k) := by
  have hstem : '/' ∉ ("rendergen-module-" ++ Machine.serial k).toList := by
    rw [String.toList_append, List.mem_append, not_or]
    exact ⟨by decide, noSeparator_serial k⟩
  exact Path.IsName.append hstem ⟨by decide, 's', by decide, by decide⟩

theorem toList_moduleName (k : ℕ) : (moduleName k).toList =
    "rendergen-module-".toList ++ ((Machine.serial k).toList ++ ".so".toList) := by
  unfold moduleName
  simp only [String.toList_append, List.append_assoc]

theorem moduleName_ne (k : ℕ) (a : Artifact) : moduleName k ≠ a.name := by
  intro h
  have hmodule : (moduleName k).toList[10]? = some 'm' := by
    rw [toList_moduleName, List.getElem?_append_left (by decide)]
    decide
  have hstaged : a.name.toList[10]? = some 'w' := by cases a <;> decide
  rw [h, hstaged] at hmodule
  exact absurd hmodule (by decide)

/-- A module stands at `l` under the path, in a file of its own. -/
structure Written (m : Machine) (content : Bytes) (path : Path) (l : Location) (t t' : FileTree) :
    Prop where
  names : t.Names m.directory path l
  isFile : FileTree.endsInSeparator path = false
  named : ∃ k l', l = moduleName k :: l'
  adds : Adds l (.file content temporaryMode) t t'

theorem run_writeModule {m : Machine} {w : World} {path : Path}
    (hpath : m.freshPath w m.temporary moduleName = path) (content : Bytes) :
    ExceptT.run (writeModule m content) w =
      match w.tree.createNew m.directory path temporaryMode with
      | .error e => (.error (.system e), w)
      | .ok t =>
        match t.write m.directory path content with
        | .error e =>
          (.error (.system e),
            World.trying (fun t => t.removeFile m.directory path) { w with tree := t })
        | .ok t' => (.ok path, { w with tree := t' }) := by
  rw [writeModule, Work.run_world_bind]
  simp only [hpath, Work.run_bind, Work.run_recovering, Work.run_changing]
  cases w.tree.createNew m.directory path temporaryMode with
  | error e => rfl
  | ok t =>
    cases hwrite : t.write m.directory path content with
    | error e => simp only [hwrite]
    | ok t' =>
      simp only [hwrite]
      rfl

/-- A module is written, or nothing is left of it. -/
theorem writeModule_cases (m : Machine) (content : Bytes) (w : World) :
    (∃ path l w', (writeModule m content).Gives w path w' ∧
        Written m content path l w.tree w'.tree) ∨
      ∃ e, ExceptT.run (writeModule m content) w = (.error (.system e), w) := by
  obtain ⟨k, hpath⟩ := exists_freshPath m w m.temporary moduleName
  have hrun := run_writeModule hpath content
  have hfile := Path.not_endsInSeparator_join m.temporary (isName_module k)
  cases hcreate : w.tree.createNew m.directory (m.temporary.join (moduleName k)) temporaryMode with
  | error e =>
    rw [hcreate] at hrun
    exact Or.inr ⟨e, hrun⟩
  | ok t =>
    obtain ⟨l, hnames, hfree, rfl⟩ := FileTree.exists_of_createNew hcreate
    obtain ⟨l', hl'⟩ := hnames.of_join (isName_module k)
    have hl := FileTree.ne_nil_of_free hfree
    have hempty : (w.tree.put l (.file [] temporaryMode)).node? l =
        some (.file [] temporaryMode) := by
      rw [FileTree.node?_put _ _ _ _ hl, if_pos rfl]
    have hkeeps : KeepsWays w.tree (w.tree.put l (.file [] temporaryMode)) :=
      FileTree.keepsWays_put _ _ _ hl (by simp [hfree])
    have hwrite := FileTree.write_file (hnames.of_keepsWays hkeeps) hfile hempty content
    simp only [hcreate, hwrite] at hrun
    have hnodes : ∀ l'', ((w.tree.put l (.file [] temporaryMode)).put l
        (.file content temporaryMode)).node? l'' =
        if l'' = l then some (.file content temporaryMode) else w.tree.node? l'' := by
      intro l''
      rw [FileTree.node?_put _ _ _ _ hl, FileTree.node?_put _ _ _ _ hl]
      split_ifs <;> rfl
    exact Or.inl ⟨_, l, _, hrun, ⟨hnames, hfile, ⟨k, l', hl'⟩, ⟨hfree, id, hnodes⟩⟩⟩

theorem written_of_gives {m : Machine} {content : Bytes} {path : Path} {w w' : World}
    (h : (writeModule m content).Gives w path w') :
    ∃ l, Written m content path l w.tree w'.tree := by
  rcases writeModule_cases m content w with ⟨path', l, w'', h', hwritten⟩ | ⟨e, he⟩
  · obtain ⟨rfl, rfl⟩ := h.unique h'
    exact ⟨l, hwritten⟩
  · cases (Prod.mk.inj (h.symm.trans he)).1

theorem Written.apart {m : Machine} {layout : Layout} {g : Ground m layout} {content : Bytes}
    {path : Path} {l : Location} {t t' : FileTree} (h : Written m content path l t t')
    (a : Artifact) : l ≠ g.place a := by
  obtain ⟨k, l', rfl⟩ := h.named
  obtain ⟨l'', hl''⟩ := g.exists_place a
  rw [hl'']
  exact fun hplace => moduleName_ne k a (List.cons.inj hplace).1

end Runner

namespace Launch

variable {σ α ε : Type} {attempt : σ → Except SystemError α × σ}
  {restage : σ → Except ε Unit × σ} {s s₁ s₂ s' : σ} {a : α}

theorem round_of_ne (h : (attempt s).1 ≠ .error .textBusy) (left : ℕ) :
    round attempt left s = attempt s := by
  cases left with
  | zero => rfl
  | succ left =>
    rw [round]
    split
    case h_1 hbusy => exact absurd (congrArg Prod.fst hbusy) h
    case h_2 => rfl

theorem start_of_ok (h : attempt s = (.ok a, s')) : start attempt restage s = (.ok a, s') := by
  have hround : round attempt retries s = (.ok a, s') := by
    rw [round_of_ne (by simp [h]), h]
  rw [start, hround]
  rfl

/-- A program that is gone is staged again before the second round. -/
theorem start_of_notFound (hgone : attempt s = (.error .notFound, s₁))
    (hrestage : restage s₁ = (.ok (), s₂)) (h : attempt s₂ = (.ok a, s')) :
    start attempt restage s = (.ok a, s') := by
  have hfirst : round attempt retries s = (.error .notFound, s₁) := by
    rw [round_of_ne (by simp [hgone]), hgone]
  have hsecond : round attempt retries s₂ = (.ok a, s') := by
    rw [round_of_ne (by simp [h]), h]
  simp only [start, hfirst, hrestage, hsecond]
  rfl

end Launch

/-- A command that was started has run its program on the files that were there. -/
theorem Command.run_ok {m : Machine} {c : Command} {w w' : World} {outcome : Outcome}
    (h : c.run m w = (.ok outcome, w')) :
    c.hasNul = false ∧ m.obstacle w.clock = none ∧ w'.tree = outcome.tree ∧
      ∃ program invocation, c.resolve m w.tree = .ok (program, invocation) ∧
        outcome = program invocation w.tree := by
  rw [run] at h
  cases hnul : c.hasNul with
  | true => simp [hnul] at h
  | false =>
    cases hobstacle : m.obstacle w.clock with
    | some e => simp [hnul, hobstacle] at h
    | none =>
      rcases hresolve : c.resolve m w.tree with e | ⟨program, invocation⟩
      · simp [hnul, hobstacle, hresolve] at h
      · simp only [hnul, hobstacle, hresolve, Bool.false_eq_true, if_false] at h
        obtain ⟨houtcome, rfl⟩ := Prod.mk.inj h
        obtain rfl := Except.ok.inj houtcome
        exact ⟨rfl, rfl, rfl, program, invocation, rfl, rfl⟩

namespace Runner

/-- What a run needs to come to an outcome: the module is written under the path, the worker is
staged, and it is staged again if it turns out to be gone. -/
def Prepares (m : Machine) (r : Runner) (w : World) (content : Bytes) (path : Path)
    (references : List Path) : Prop :=
  ∃ w₁ stager w₂, (writeModule m content).Gives w path w₁ ∧ (r.stager.stage m).Gives w₁ stager w₂ ∧
    let started := (r.workerCommand (Request.toLine ⟨path, references⟩)).run m w₂
    started.1 = .error .notFound →
      ∃ stager' w₃, (stager.restage m).Gives started.2 stager' w₃

/-- A run is prepared when its stages come to these results in turn, with the worker staged again in
any case. -/
theorem prepares_of_results {m : Machine} {r : Runner} {w : World} {content : Bytes} {path : Path}
    {references : List Path} (stager stager' : Stager)
    (h : let written := ExceptT.run (writeModule m content) w
      let staged := ExceptT.run (r.stager.stage m) written.2
      let started := (r.workerCommand (Request.toLine ⟨path, references⟩)).run m staged.2
      written.1 = .ok path ∧ staged.1 = .ok stager ∧
        (ExceptT.run (stager.restage m) started.2).1 = .ok stager') :
    r.Prepares m w content path references := by
  obtain ⟨hwritten, hstaged, hrestaged⟩ := h
  exact ⟨_, stager, _, Work.gives_run hwritten, Work.gives_run hstaged,
    fun _ => ⟨stager', _, Work.gives_run hrestaged⟩⟩

theorem runFile_error {m : Machine} {r : Runner} {path : Path} {references : List Path}
    {e : RunnerError} {w w' : World}
    (h : ExceptT.run (r.runFile m path references) w = (.error e, w')) :
    ∃ cause, e = .stage cause := by
  rw [runFile, Work.run_bind, Work.run_mapError] at h
  cases hstage : (ExceptT.run (r.stager.stage m) w).1 with
  | error cause =>
    rw [hstage] at h
    exact ⟨cause, (Except.error.inj (Prod.mk.inj h).1).symm⟩
  | ok stager =>
    rw [hstage] at h
    cases (Prod.mk.inj h).1

theorem run_refused {m : Machine} {r : Runner} {built : CompiledModule} {references : List Path}
    {cause : SystemError} {w w' : World}
    (h : ExceptT.run (r.run m built references) w = (.error (.system cause), w')) : w' = w := by
  rw [run, Work.run_bind] at h
  rcases writeModule_cases m built.content w with ⟨path, l, w₁, hwrite, _⟩ | ⟨e, hrefused⟩
  · rw [show ExceptT.run (writeModule m built.content) w = _ from hwrite] at h
    obtain ⟨cause', hcause⟩ := runFile_error (Prod.ext (Prod.mk.inj h).1 rfl)
    cases hcause
  · rw [hrefused] at h
    exact (Prod.mk.inj h).2.symm

theorem gives_run_of {m : Machine} {r : Runner} {built : CompiledModule} {references : List Path}
    {path : Path} {stager : Stager} {outcome : RunOutcome} {w w₁ w₂ w₃ : World}
    (hwrite : (writeModule m built.content).Gives w path w₁)
    (hstage : (r.stager.stage m).Gives w₁ stager w₂)
    (hexchange : ({ r with stager }).exchange m (Request.toLine ⟨path, references⟩) w₂ =
      (outcome, w₃)) :
    (r.run m built references).Gives w (outcome, { r with stager })
      (World.trying (fun t => t.removeFile m.directory path) w₃) := by
  refine Work.gives_bind.mpr ⟨path, w₁, hwrite, Work.gives_ensuring.mpr ⟨w₃, ?_, rfl⟩⟩
  refine Work.gives_bind.mpr ⟨stager, w₂, Work.gives_mapError.mpr hstage, ?_⟩
  exact Work.gives_bind.mpr
    ⟨outcome, w₃, Work.gives_mk hexchange, Work.gives_pure.mpr ⟨rfl, rfl⟩⟩

section Exchange
variable {m : Machine} {r : Runner} {line : String} {stager : Stager} {outcome : Outcome}
  {w w₁ w₂ w' : World}

theorem exchange_started (hrun : (r.workerCommand line).run m w = (.ok outcome, w')) :
    r.exchange m line w = (classify outcome.status outcome.output outcome.errors, w') := by
  unfold exchange
  simp only [Launch.start_of_ok hrun]

theorem exchange_restaged (hgone : (r.workerCommand line).run m w = (.error .notFound, w₁))
    (hrestage : (r.stager.restage m).Gives w₁ stager w₂)
    (hrun : (r.workerCommand line).run m w₂ = (.ok outcome, w')) :
    r.exchange m line w = (classify outcome.status outcome.output outcome.errors, w') := by
  have hstaged : ExceptT.run (r.stager.restage m) w₁ = (.ok stager, w₂) := hrestage
  unfold exchange
  dsimp only
  rw [Launch.start_of_notFound hgone ?_ hrun]
  simp only [hstaged]

end Exchange
end Runner

end TemplateBatch
