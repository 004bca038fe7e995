import TemplateBatch.Proofs.SharedStaging
import TemplateBatch.Runner
import TemplateBatch.Worker.Program
import Mathlib.Data.Fintype.Basic

/-!
What a worker finds beside itself when it has been started. The two staged files come and go one at
a time, so a worker can be started while its run configuration is missing. It cannot when no
executable is published between the two removals of a host that clears the layout, and when nobody
is at the configuration at the moment. From then on the configuration stays until a host that comes
later removes it, which may be before the worker has read it.
-/
namespace TemplateBatch.Staging

variable {ι : Type}

/-- The executable has been seen to be there, and the configuration is next. -/
def Phase.atConfiguration : Phase → Bool
  | .checking .configuration => true
  | .creating .configuration => true
  | .writing .configuration _ => true
  | .publishing .configuration _ => true
  | _ => false

namespace Task

def atConfiguration : Task → Bool
  | .passing _ p => p.atConfiguration
  | _ => false

/-- The next step may give the executable its name. -/
def publishesExecutable : Task → Bool
  | .passing _ (.publishing .executable _) => true
  | _ => false

end Task

theorem Ground.Moves.atConfiguration {m : Machine} {layout : Layout} {g : Ground m layout}
    {stock : Stock} {t t' : FileTree} {p p' : Phase} (h : g.Moves stock t p p' t')
    (hp : p.atConfiguration = true) :
    p'.atConfiguration = true ∨ t'.node? (g.place .configuration) ≠ none := by
  cases h with
  | @found a hfound =>
    cases a with
    | executable => cases hp
    | configuration => exact Or.inr (by simp [hfound])
  | @missing a _ => cases a <;> exact Or.inl hp
  | @created a _ _ _ _ => cases a <;> exact Or.inl hp
  | @written a _ _ _ => cases a <;> exact Or.inl hp
  | @published a _ _ _ _ =>
    cases a with
    | executable => cases hp
    | configuration =>
      rw [FileTree.node?_put _ _ _ _ (g.place_ne_nil _), if_pos rfl]
      exact Or.inr (by simp)
  | @beaten a path l hdraft htaken =>
    cases a with
    | executable => cases hp
    | configuration =>
      rw [FileTree.node?_erase _ _ _ hdraft.ne_nil, if_neg (hdraft.apart _).symm, htaken]
      exact Or.inr (by simp)
  | _ => cases hp

theorem Host.receive_ne_clearing (layout : Layout) (h : Host) (call : Call) (a : Artifact) :
    (h.receive layout call).task ≠ .clearing a := by
  cases call with
  | stage =>
    rw [Host.receive]
    split <;> exact Task.noConfusion
  | restage => exact Task.noConfusion

theorem Host.pass_ne_clearing (layout : Layout) (h : Host) (more : Bool) (p : Phase)
    (a : Artifact) : (h.pass layout more p).task ≠ .clearing a := by
  cases p with
  | done =>
    rw [Host.pass]
    split <;> exact Task.noConfusion
  | _ => exact Task.noConfusion

theorem Host.atConfiguration_pass {layout : Layout} {h : Host} {more : Bool} {p : Phase}
    (hp : p.atConfiguration = true) : (h.pass layout more p).task.atConfiguration = true := by
  cases p with
  | done => cases hp
  | failed e => cases hp
  | _ => exact hp

namespace Site

variable [DecidableEq ι] {c : Crew} {g : Ground c.machine c.layout} {s s' : Site ι} {i : ι}
  {act : Action}

/-- Steps as ever, but for one: the executable is not given its name while a host is between its
two removals. -/
def Guarded (c : Crew) (s : Site ι) (i : ι) (act : Action) : Prop :=
  s.Allows c i act ∧ ((s.host i).task.publishesExecutable = true →
    ∀ j, (s.host j).task ≠ .clearing .configuration)

instance [Fintype ι] (c : Crew) (s : Site ι) (i : ι) (act : Action) :
    Decidable (s.Guarded c i act) :=
  inferInstanceAs (Decidable (_ ∧ (_ → _)))

/-- Steps as ever, but for one: the staged configuration is not removed. -/
def Sparing (c : Crew) (s : Site ι) (i : ι) (act : Action) : Prop :=
  s.Allows c i act ∧ (s.host i).task ≠ .clearing .configuration

instance (c : Crew) (s : Site ι) (i : ι) (act : Action) : Decidable (s.Sparing c i act) :=
  inferInstanceAs (Decidable (_ ∧ _))

/-- An executable without a configuration is one that somebody is about to mend, and between the two
removals there is none. -/
structure Paired (c : Crew) (g : Ground c.machine c.layout) (s : Site ι) : Prop where
  between : ∀ j, (s.host j).task = .clearing .configuration →
    s.tree.node? (g.place .executable) = none
  mended : s.tree.node? (g.place .executable) ≠ none →
    s.tree.node? (g.place .configuration) = none →
    ∃ j, (s.host j).task.atConfiguration = true

omit [DecidableEq ι] in
/-- Without an executable there is nothing to pair. -/
theorem paired_of_missing (h : s.tree.node? (g.place .executable) = none) : Paired c g s where
  between _ _ := h
  mended hexe := absurd h hexe

theorem clearing_setHost {t : FileTree} {h : Host} (hi : h.task ≠ .clearing .configuration)
    {j : ι} (hj : (({ s with tree := t }.setHost i h).host j).task = .clearing .configuration) :
    (s.host j).task = .clearing .configuration := by
  by_cases hji : j = i
  · subst hji
    rw [host_setHost_self] at hj
    exact absurd hj hi
  · rwa [host_setHost_of_ne _ _ _ _ hji] at hj

theorem Paired.called (h : Paired c g s) (htask : (s.host i).task = .waiting) (call : Call) :
    Paired c g (s.setHost i ((s.host i).receive c.layout call)) := by
  refine ⟨fun j hj => h.between j ?_, fun hexe hconf => ?_⟩
  · exact clearing_setHost (t := s.tree) (Host.receive_ne_clearing _ _ _ _) hj
  · obtain ⟨j, hj⟩ := h.mended hexe hconf
    have hji : j ≠ i := by
      rintro rfl
      rw [htask] at hj
      cases hj
    exact ⟨j, by rwa [host_setHost_of_ne _ _ _ _ hji]⟩

/-- Whoever mends goes on until the configuration is there, and whoever publishes the executable
mends next. -/
theorem Paired.mended_pass (h : Paired c g s) {more : Bool} {p p' : Phase} {t : FileTree}
    (htask : (s.host i).task = .passing more p) (hmoves : g.Moves c.stock s.tree p p' t)
    (hexe : t.node? (g.place .executable) ≠ none)
    (hconf : t.node? (g.place .configuration) = none) :
    ∃ j, (({ s with tree := t }.setHost i ((s.host i).pass c.layout more p')).host
      j).task.atConfiguration = true := by
  have hmissing : s.tree.node? (g.place .configuration) = none := by
    rcases hmoves.place .configuration with hsame | ⟨hnone, _⟩
    · rw [← hsame, hconf]
    · exact hnone
  rcases hmoves.place .executable with hsame | ⟨_, _, _, rfl⟩
  · obtain ⟨j, hj⟩ := h.mended (hsame ▸ hexe) hmissing
    refine ⟨j, ?_⟩
    by_cases hji : j = i
    · subst hji
      rw [htask] at hj
      rw [host_setHost_self]
      exact Host.atConfiguration_pass
        ((hmoves.atConfiguration hj).resolve_right fun hsome => hsome hconf)
    · rwa [host_setHost_of_ne _ _ _ _ hji]
  · exact ⟨i, by rw [host_setHost_self]; rfl⟩

theorem Paired.took (h : Paired c g s) (hguard : s.Guarded c i act)
    (htook : Took c g s i act s') : Paired c g s' := by
  cases htook with
  | @called call htask => exact h.called htask call
  | @cleared clock a t htask ht =>
    refine paired_of_missing ?_
    rw [tree_setHost, ht]
    split_ifs with hplace
    · rfl
    · -- The configuration is removed second, when the executable is gone.
      cases a with
      | executable => exact absurd rfl hplace
      | configuration => exact h.between i htask
  | @passed clock more p p' t htask hmoves =>
    refine ⟨fun j hj => ?_, h.mended_pass htask hmoves⟩
    replace hj := clearing_setHost (Host.pass_ne_clearing _ _ _ _ _) hj
    rcases hmoves.place .executable with hsame | ⟨_, _, ⟨path, rfl⟩, _⟩
    · exact hsame.trans (h.between j hj)
    · exact absurd hj (hguard.2 (by rw [htask]; rfl) j)

theorem Reachable.paired {t : FileTree} (hvacant : Vacant c.machine c.layout t g.tree)
    (h : Reachable c (Guarded c) (Site.start t) s) :
    Early c t s ∨ Staged c g s ∧ Paired c g s := by
  induction h with
  | start => exact Or.inl (early_start t)
  | @step s i act _ hguard ih =>
    rcases ih with hearly | ⟨hstaged, hpaired⟩
    · refine (hearly.after hvacant hguard.1).imp_right fun ⟨hstaged, htree⟩ => ⟨hstaged, ?_⟩
      exact paired_of_missing (by rw [htree, g.free])
    · have htook := hstaged.took hguard.1
      exact Or.inr ⟨htook.staged hstaged, hpaired.took hguard htook⟩

/-- A staged configuration is there until a host removes it. -/
theorem Staged.spared (hstaged : Staged c g s) {n : Node}
    (hnode : s.tree.node? (g.place .configuration) = some n)
    (hrun : Reachable c (Sparing c) s s') :
    Staged c g s' ∧ s'.tree.node? (g.place .configuration) = some n := by
  induction hrun with
  | start => exact ⟨hstaged, hnode⟩
  | step _ hspares ih =>
    have htook := ih.1.took hspares.1
    refine ⟨htook.staged ih.1, (htook.kept .configuration ih.2).resolve_right ?_⟩
    exact fun hcleared => hspares.2 hcleared.1

omit [DecidableEq ι] in
theorem read_configuration {p : Path}
    (hnames : s.tree.Names c.machine.directory p (g.place .configuration))
    (hnode : s.tree.node? (g.place .configuration) = some (c.stock.file .configuration)) :
    s.tree.read c.machine.directory p = .ok c.stock.configuration := by
  have hreadable : temporaryMode &&& 0o444 ≠ 0 := by decide
  rw [FileTree.read, FileTree.find_file hnames hnode]
  simp [Artifact.mode, hreadable, Stock.content]

omit [DecidableEq ι] in
theorem Staged.executableAt {l : Location} {content : Bytes} (h : Staged c g s)
    (hstarts : Machine.executableAt s.tree c.machine.directory c.layout.executablePath =
      .ok (l, content)) :
    content = c.stock.executable ∧ s.tree.node? (g.place .executable) ≠ none := by
  have hnames := h.sound.supports.names (g.names .executable)
  rw [Layout.path] at hnames
  rw [Machine.executableAt] at hstarts
  rcases h.sound.staged .executable with hnone | hsome
  · rw [FileTree.find_free hnames hnone] at hstarts
    cases hstarts
  · rw [FileTree.find_file hnames hsome] at hstarts
    have hmode : executableMode &&& 0o111 ≠ 0 := by decide
    simp only [Artifact.mode, hmode, if_false, Except.ok.injEq, Prod.mk.injEq] at hstarts
    exact ⟨hstarts.2.symm, by simp [hsome]⟩

namespace Sample

/-- A run configuration in its short form. -/
def shared : RunConfiguration := { name := "r", linkage := .dynamic }

def document : String := "[[\"r\",\"dynamic\"]]"

/-- No file is a library to it. -/
def loader : Loader := ⟨fun _ => none, fun _ => none⟩

/-- Hosts whose workers are to share the standard library. -/
def dynamicCrew : Crew where
  machine := { machine with program := fun _ => .ok (Worker.program .silent loader) }
  layout := ⟨⟨"/s"⟩⟩
  bundle := (Bundle.empty.insertWorker [1, 2]).insertConfiguration (Text.Utf8.encode document)
  stock := ⟨[1, 2], Text.Utf8.encode document⟩
  complete := by decide +kernel

def runner : Runner := ⟨⟨dynamicCrew.layout, dynamicCrew.bundle, true⟩, none⟩

/-- The host `i` clears the layout and stages. -/
def settling {ι : Type} (i : ι) : List (ι × Action) :=
  List.replicate 2 (i, .next 0) ++ [(i, .call .stage)] ++ List.replicate 10 (i, .next 0)

/-- The host `i` has staged when `j` begins to clear the layout. It finds its worker gone and stages
again, and only then does `j` come to the configuration. -/
def crossing {ι : Type} (i j : ι) : List (ι × Action) :=
  settling i ++ [(j, .next 0), (i, .call .restage)] ++ List.replicate 7 (i, .next 0)
    ++ [(j, .next 0)]

/-- The host `i` has staged when `j` clears the layout and stages in its turn. The executable of `j`
is published, and its next step is to look for the configuration. -/
def mending {ι : Type} (i j : ι) : List (ι × Action) :=
  settling i ++ List.replicate 2 (j, .next 0) ++ [(j, .call .stage)]
    ++ List.replicate 6 (j, .next 0)

/-- The host `i` is asked to stage again, and looks at both files. -/
def restaging {ι : Type} (i : ι) : List (ι × Action) :=
  (i, .call .restage) :: List.replicate 3 (i, .next 0)

/-- The host `j` clears the layout. -/
def overtaking {ι : Type} (j : ι) : List (ι × Action) := List.replicate 2 (j, .next 0)

/-- The worker of these hosts can be started among the files of `t`, finds no configuration when it
looks for it among those of `t'`, and takes it that nothing is required. -/
def StartsBare (t t' : FileTree) : Prop :=
  t'.under? [] dynamicCrew.layout.configurationPath = none ∧
    ∃ invocation,
      (runner.workerCommand "").resolve dynamicCrew.machine t =
        .ok (Worker.program .silent loader, invocation) ∧
      Worker.loadRunConfiguration .silent t' invocation.directory
        (RunConfiguration.beside invocation.executable) = .ok {}

/-- The files when a race is over. -/
def raced : FileTree :=
  ⟨[(["s"], .directory FileTree.directoryMode),
    ([Bundle.workerFileName, "s"], dynamicCrew.stock.file .executable),
    ([Bundle.configurationFileName, "s"], dynamicCrew.stock.file .configuration)]⟩

/-- The files when all that was staged has been cleared away. -/
def overtaken : FileTree := ⟨[(["s"], .directory FileTree.directoryMode)]⟩

/-- The files when the hosts have crossed each other, or one of them is mending. -/
def crossed : FileTree :=
  ⟨[(["s"], .directory FileTree.directoryMode),
    ([Bundle.workerFileName, "s"], dynamicCrew.stock.file .executable)]⟩

theorem run_race :
    let s := begun.run dynamicCrew race
    let later := s.run dynamicCrew (restaging 0)
    Follows dynamicCrew (Guarded dynamicCrew) begun race ∧ s.tree = raced ∧
      (∀ i, (s.host i).task.atConfiguration = false) ∧
      Follows dynamicCrew (Sparing dynamicCrew) s (restaging 0) ∧ later.tree = raced := by
  decide +kernel

theorem run_crossing :
    let s := begun.run dynamicCrew (crossing 0 1)
    Follows dynamicCrew (Allows dynamicCrew) begun (crossing 0 1) ∧ s.tree = crossed ∧
      (s.host 0).answers = List.replicate 2 (.ok dynamicCrew.layout.paths) ∧
      ∀ i, (s.host i).task = .waiting := by
  decide +kernel

theorem run_mending :
    let s := begun.run dynamicCrew (mending 0 1)
    Follows dynamicCrew (Guarded dynamicCrew) begun (mending 0 1) ∧ s.tree = crossed ∧
      (s.host 0).answers = [.ok dynamicCrew.layout.paths] ∧ (s.host 0).task = .waiting := by
  decide +kernel

theorem run_settling :
    let s := begun.run dynamicCrew (settling 0)
    let later := s.run dynamicCrew (overtaking 1)
    Follows dynamicCrew (Guarded dynamicCrew) begun (settling 0) ∧ s.tree = raced ∧
      (s.host 0).answers = [.ok dynamicCrew.layout.paths] ∧
      (∀ i, (s.host i).task.atConfiguration = false) ∧
      Follows dynamicCrew (Guarded dynamicCrew) s (overtaking 1) ∧ later.tree = overtaken := by
  decide +kernel

theorem startsBare_of_load {t t' : FileTree}
    (hfind : Machine.findProgram t [] [] dynamicCrew.layout.executablePath =
      .ok ([Bundle.workerFileName, "s"], [1, 2]))
    (habsent : t'.under? [] dynamicCrew.layout.configurationPath = none)
    (hload : Worker.loadRunConfiguration .silent t' []
      (RunConfiguration.beside (FileTree.pathOf [Bundle.workerFileName, "s"])) = .ok {}) :
    StartsBare t t' := by
  refine ⟨habsent, ⟨FileTree.pathOf [Bundle.workerFileName, "s"], [], [], [],
    Text.Utf8.encode ""⟩, ?_, hload⟩
  have hresolve : (runner.workerCommand "").resolve dynamicCrew.machine t =
      (Machine.findProgram t [] [] dynamicCrew.layout.executablePath).bind fun found =>
        .ok (Worker.program .silent loader,
          ⟨FileTree.pathOf found.1, [], [], [], Text.Utf8.encode ""⟩) := rfl
  rw [hresolve, hfind]
  rfl

theorem startsBare_crossed_overtaken : StartsBare crossed crossed ∧ StartsBare raced overtaken :=
  ⟨startsBare_of_load (by decide +kernel) (by decide +kernel) (by decide +kernel),
    startsBare_of_load (by decide +kernel) (by decide +kernel) (by decide +kernel)⟩

end Sample

end Site
end TemplateBatch.Staging
