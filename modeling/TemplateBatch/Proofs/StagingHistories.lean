import TemplateBatch.Proofs.StagingPasses

/-!
A stager through any history of calls, between which the staged files may come from elsewhere or be
taken away. What it remembers and what is on the disk are apart: a stager that has staged answers
from memory, and looks again only when it is told to stage again. Whatever a call finds there it
leaves alone, and what it adds is complete.
-/
namespace TemplateBatch.Staging

open FileTree (Adds DirectoryAt KeepsWays Names)

/-- A stager in the world that it stages in. -/
structure Scene where
  stager : Stager
  world : World

namespace Scene

/-- Stage, and keep the stager that comes back. -/
def stage (m : Machine) (s : Scene) : Except StageError (Path × Path) × Scene :=
  match ExceptT.run (s.stager.stage m) s.world with
  | (.ok stager, w) => (.ok stager.layout.paths, ⟨stager, w⟩)
  | (.error e, w) => (.error e, { s with world := w })

/-- Stage and stage again. That the first was done is remembered whether the second is or not. -/
def restage (m : Machine) (s : Scene) : Except StageError (Path × Path) × Scene :=
  match s.stage m with
  | (.error e, s') => (.error e, s')
  | (.ok paths, s') =>
    match ExceptT.run (s'.stager.writeMissing m) s'.world with
    | (.ok (), w) => (.ok paths, { s' with world := w })
    | (.error e, w) => (.error e, { s' with world := w })

def answer (m : Machine) (s : Scene) : Call → Except StageError (Path × Path) × Scene
  | .stage => s.stage m
  | .restage => s.restage m

variable {m : Machine} {s s' : Scene} {r : Except StageError Unit} {w : World}

theorem stage_of_ready (h : s.stager.ready = true) :
    s.stage m = (.ok s.stager.layout.paths, s) := by
  have hrun : ExceptT.run (s.stager.stage m) s.world = (.ok s.stager, s.world) := by
    rw [Stager.stage, if_pos h, Work.run_pure]
  rw [stage, hrun]

theorem stage_of_not_ready (h : s.stager.ready = false)
    (hwrite : ExceptT.run (s.stager.writeMissing m) s.world = (r, w)) :
    s.stage m =
      (r.map fun _ => s.stager.layout.paths, ⟨{ s.stager with ready := r.isOk }, w⟩) := by
  obtain ⟨⟨layout, bundle, ready⟩, w₀⟩ := s
  obtain rfl : ready = false := h
  have hrun : ExceptT.run (Stager.stage m ⟨layout, bundle, false⟩) w₀ =
      (r.map fun _ => ⟨layout, bundle, true⟩, w) := by
    rw [Stager.stage, if_neg Bool.false_ne_true, Work.run_bind, hwrite]
    cases r <;> rfl
  rw [stage, hrun]
  cases r <;> rfl

theorem restage_of_error {e : StageError} (h : s.stage m = (.error e, s')) :
    s.restage m = (.error e, s') := by
  rw [restage, h]

theorem restage_of_ok {paths : Path × Path} (h : s.stage m = (.ok paths, s'))
    (hwrite : ExceptT.run (s'.stager.writeMissing m) s'.world = (r, w)) :
    s.restage m = (r.map fun _ => paths, { s' with world := w }) := by
  rw [restage, h]
  simp only [hwrite]
  cases r <;> rfl

/-- A call does what the stager does, which tells its caller where the files are. -/
theorem run_work (m : Machine) (s : Scene) (call : Call) :
    ExceptT.run (call.work m s.stager) s.world =
      ((s.answer m call).1.map fun _ => (s.answer m call).2.stager, (s.answer m call).2.world) := by
  have hstage : ExceptT.run (s.stager.stage m) s.world =
      ((s.stage m).1.map fun _ => (s.stage m).2.stager, (s.stage m).2.world) := by
    rw [stage]
    rcases ExceptT.run (s.stager.stage m) s.world with ⟨_ | _, _⟩ <;> rfl
  cases call with
  | stage => exact hstage
  | restage =>
    rw [Call.work, Stager.restage, Work.run_bind, hstage, answer, restage]
    rcases s.stage m with ⟨e | paths, s'⟩
    · rfl
    · simp only [Except.map]
      rw [Work.run_bind]
      rcases ExceptT.run (s'.stager.writeMissing m) s'.world with ⟨_ | _, _⟩ <;> rfl

theorem stager_answer (m : Machine) (s : Scene) (call : Call) :
    (s.answer m call).2.stager = { s.stager with ready := (s.stage m).1.isOk } := by
  have hstage : (s.stage m).2.stager = { s.stager with ready := (s.stage m).1.isOk } := by
    cases hready : s.stager.ready with
    | true =>
      rw [stage_of_ready hready]
      simp [Except.isOk, Except.toBool, ← hready]
    | false =>
      rcases hwrite : ExceptT.run (s.stager.writeMissing m) s.world with ⟨r, w⟩
      rw [stage_of_not_ready hready hwrite]
      cases r <;> rfl
  cases call with
  | stage => exact hstage
  | restage =>
    rw [answer, ← hstage, restage]
    rcases s.stage m with ⟨e | paths, s'⟩
    · rfl
    · simp only
      rcases ExceptT.run (s'.stager.writeMissing m) s'.world with ⟨_ | _, _⟩ <;> rfl

end Scene

/-- No link has the name of a staged file. -/
def Unlinked (t : FileTree) : Prop :=
  ∀ a d target, t.node? (Artifact.name a :: d) ≠ some (.link target)

/-- The staging directory is there, and both files can be named in it. -/
def Housed (m : Machine) (layout : Layout) (t : FileTree) : Prop :=
  (∃ d, DirectoryAt t m.directory layout.directory d) ∧
    ∀ a, ∃ l, t.Names m.directory (layout.path a) l

section Calls
variable {m : Machine} {layout : Layout} {bundle : Bundle} {stock : Stock} {t t' : FileTree}

theorem Unlinked.exists? (h : Unlinked t) {base : Location} {a : Artifact}
    (hunder : t.under? base (layout.path a) ≠ none) :
    t.exists? base (layout.path a) = true := by
  obtain ⟨l, n, hnames, hnode⟩ := FileTree.exists_names_of_under?_ne hunder
  obtain ⟨d, rfl⟩ := (layout.path_eq_join a ▸ hnames).of_join a.isName
  rw [FileTree.exists?, FileTree.find, hnames.locate_target (h a d), hnode]

theorem AddsStaged.unlinked (h : AddsStaged m layout bundle t t') (hlinks : Unlinked t) :
    Unlinked t' := by
  intro a d target hnode
  rcases h (a.name :: d) with hsame | ⟨_, hplaced⟩
  · exact hlinks a d target (hsame ▸ hnode)
  · cases hplaced with
    | directory _ _ hdirectory => simp [hdirectory] at hnode
    | file _ _ _ hfile => simp [hfile, Stock.file] at hnode

theorem Housed.of_keepsWays (hkeeps : KeepsWays t t') (h : Housed m layout t) :
    Housed m layout t' :=
  ⟨h.1.imp fun _ hat => hat.of_keepsWays hkeeps,
    fun a => (h.2 a).imp fun _ hnames => hnames.of_keepsWays hkeeps⟩

theorem Housed.makePath (h : Housed m layout t) :
    t.makePath m.directory layout.directory = (.ok (), t) :=
  h.1.elim fun _ hat => FileTree.makePath_of_directoryAt hat

theorem Completes.housed {t₁ : FileTree} (h : Completes m layout stock t t₁ t') :
    Housed m layout t' := by
  obtain ⟨⟨d, hat⟩, _⟩ := FileTree.makePath_made h.make
  refine ⟨⟨d, hat.of_keepsWays h.fills.keepsWays⟩, fun a => ?_⟩
  obtain ⟨l, _, hnames, _⟩ := FileTree.exists_names_of_under?_ne (h.present a)
  exact ⟨l, hnames⟩

namespace Scene
variable {s s' : Scene} {call : Call} {paths : Path × Path}

theorem addsStaged_answer (m : Machine) (s : Scene) (call : Call) :
    AddsStaged m s.stager.layout s.stager.bundle s.world.tree (s.answer m call).2.world.tree := by
  have hadds : AddsStaged m s.stager.layout s.stager.bundle s.world.tree
      (ExceptT.run (call.work m s.stager) s.world).2.tree := by
    cases call with
    | stage =>
      exact (s.stager.preserves_stage s.world s.world ⟨.of_agrees (.refl _), rfl⟩).1
    | restage =>
      exact (s.stager.preserves_restage s.world s.world ⟨.of_agrees (.refl _), rfl⟩).1
  rwa [run_work] at hadds

theorem answer_of_error {e : ResourceError} (hstock : Stock.ofBundle s.stager.bundle = .error e)
    (hready : s.stager.ready = false) (call : Call) :
    s.answer m call = (.error (.resource e), s) := by
  have hwrite : ExceptT.run (s.stager.writeMissing m) s.world =
      (.error (.resource e), s.world) := by
    simp only [Stager.writeMissing, hstock]
    rfl
  have hstage : s.stage m = (.error (.resource e), s) := by
    obtain ⟨⟨layout, bundle, ready⟩, w⟩ := s
    obtain rfl : ready = false := hready
    exact stage_of_not_ready rfl hwrite
  cases call with
  | stage => exact hstage
  | restage => exact restage_of_error hstage

theorem stage_ok (h : s.stage m = (.ok paths, s')) :
    paths = s.stager.layout.paths ∧ (s.stager.ready = true ∧ s' = s ∨
      s.stager.ready = false ∧ s'.stager = { s.stager with ready := true } ∧
        (s.stager.writeMissing m).Gives s.world () s'.world) := by
  cases hready : s.stager.ready with
  | true =>
    obtain ⟨hpaths, rfl⟩ := Prod.mk.inj ((stage_of_ready hready).symm.trans h)
    exact ⟨(Except.ok.inj hpaths).symm, Or.inl ⟨rfl, rfl⟩⟩
  | false =>
    rcases hwrite : ExceptT.run (s.stager.writeMissing m) s.world with ⟨e | _, w⟩
    · cases (Prod.mk.inj ((stage_of_not_ready hready hwrite).symm.trans h)).1
    · obtain ⟨hpaths, rfl⟩ := Prod.mk.inj ((stage_of_not_ready hready hwrite).symm.trans h)
      exact ⟨(Except.ok.inj hpaths).symm, Or.inr ⟨rfl, rfl, hwrite⟩⟩

theorem restage_ok (h : s.restage m = (.ok paths, s')) :
    ∃ s₁, s.stage m = (.ok paths, s₁) ∧
      (s₁.stager.writeMissing m).Gives s₁.world () s'.world := by
  rcases hstage : s.stage m with ⟨e | paths', s₁⟩
  · cases (Prod.mk.inj ((restage_of_error hstage).symm.trans h)).1
  · rcases hwrite : ExceptT.run (s₁.stager.writeMissing m) s₁.world with ⟨e | _, w⟩
    · cases (Prod.mk.inj ((restage_of_ok hstage hwrite).symm.trans h)).1
    · obtain ⟨hpaths, rfl⟩ := Prod.mk.inj ((restage_of_ok hstage hwrite).symm.trans h)
      exact ⟨s₁, by rw [← Except.ok.inj hpaths], hwrite⟩

theorem answer_ok (h : s.answer m call = (.ok paths, s')) :
    paths = s.stager.layout.paths ∧ s'.stager.ready = true := by
  obtain ⟨s₁, hstage⟩ : ∃ s₁, s.stage m = (.ok paths, s₁) := by
    cases call with
    | stage => exact ⟨s', h⟩
    | restage =>
      obtain ⟨s₁, hstage, _⟩ := restage_ok h
      exact ⟨s₁, hstage⟩
  have hstager := s.stager_answer m call
  rw [h, hstage] at hstager
  exact ⟨(stage_ok hstage).1, by rw [hstager]; rfl⟩

/-- Where staging goes well, staging again is to stage and then to stage again. -/
theorem restage_of_stage (h : s.stage m = (.ok paths, s')) : s.restage m = s'.restage m := by
  obtain ⟨hpaths, hready⟩ := answer_ok (show s.answer m .stage = _ from h)
  have hstager := s.stager_answer m .stage
  rw [answer, h] at hstager
  rcases hwrite : ExceptT.run (s'.stager.writeMissing m) s'.world with ⟨r, w⟩
  rw [restage_of_ok h hwrite, restage_of_ok (stage_of_ready hready) hwrite, hpaths, hstager]

variable (hobstacle : ∀ k, m.obstacle k ≠ some .alreadyExists)
include hobstacle

theorem completes_answer (hlooks : call = .restage ∨ s.stager.ready = false)
    (h : s.answer m call = (.ok paths, s')) :
    ∃ stock t, Stock.ofBundle s.stager.bundle = .ok stock ∧
      Completes m s.stager.layout stock s.world.tree t s'.world.tree := by
  cases call with
  | stage =>
    obtain ⟨_, ⟨hready, _⟩ | ⟨_, _, hwrite⟩⟩ := stage_ok h
    · rw [hready] at hlooks
      rcases hlooks with hcall | hready <;> contradiction
    · exact Stager.completes_writeMissing hobstacle hwrite
  | restage =>
    obtain ⟨s₁, hstage, hagain⟩ := restage_ok h
    obtain ⟨stock, t, hstock, hcompletes⟩ := Stager.completes_writeMissing hobstacle hagain
    obtain ⟨_, ⟨_, rfl⟩ | ⟨_, hstager, hwrite⟩⟩ := stage_ok hstage
    · exact ⟨stock, t, hstock, hcompletes⟩
    · obtain ⟨stock', t', hstock', hcompletes'⟩ :=
        Stager.completes_writeMissing hobstacle hwrite
      rw [hstager] at hstock hcompletes
      obtain rfl := Except.ok.inj (hstock'.symm.trans hstock)
      exact ⟨stock', t', hstock', hcompletes'.trans hcompletes⟩

theorem answer_of_unhindered (hlinks : Unlinked s.world.tree)
    (hstock : Stock.ofBundle s.stager.bundle = .ok stock)
    (hfree : Unhindered m s.stager.layout stock .opening s.world)
    (haccessible : Accessible m s.stager.layout s.world.tree) (call : Call) :
    ∃ s', s.answer m call = (.ok s.stager.layout.paths, s') := by
  obtain ⟨w, hwrite, hfree'⟩ := Stager.writeMissing_gives hstock hfree haccessible
  cases hready : s.stager.ready with
  | true =>
    cases call with
    | stage => exact ⟨_, stage_of_ready hready⟩
    | restage => exact ⟨_, restage_of_ok (stage_of_ready hready) hwrite⟩
  | false =>
    have hstage := stage_of_not_ready hready hwrite
    cases call with
    | stage => exact ⟨_, hstage⟩
    | restage =>
      -- The second pass finds all that the first one has written.
      obtain ⟨stock', t, _, hcompletes⟩ := Stager.completes_writeMissing hobstacle hwrite
      obtain ⟨d, hat⟩ := hcompletes.housed.1
      have hlinks' : Unlinked w.tree := by
        have hadds := s.addsStaged_answer m .stage
        rw [answer, hstage] at hadds
        exact hadds.unlinked hlinks
      have hagain : (Stager.writeMissing m { s.stager with ready := true }).Gives w () _ :=
        Stager.writeMissing_present hstock (hfree' _ le_rfl) hat
          fun a => hlinks'.exists? (hcompletes.present a)
      exact ⟨_, restage_of_ok hstage hagain⟩

end Scene
end Calls

/-- The stager is called, or somebody else creates or removes a staged file. -/
inductive Event where
  | called (call : Call)
  | appeared (a : Artifact) (content : Bytes) (mode : ℕ)
  | vanished (a : Artifact)
  deriving DecidableEq, Repr

/-- Create a file with its content where nothing is. -/
def appear (t : FileTree) (base : Location) (p : Path) (content : Bytes) (mode : ℕ) : FileTree :=
  match t.createNew base p mode with
  | .ok t' => fill t' base p content
  | .error _ => t

namespace Scene

def withTree (s : Scene) (t : FileTree) : Scene := { s with world := { s.world with tree := t } }

def next (m : Machine) (s : Scene) : Event → Scene
  | .called call => (s.answer m call).2
  | .appeared a content mode =>
    s.withTree (appear s.world.tree m.directory (s.stager.layout.path a) content mode)
  | .vanished a => s.withTree (discard s.world.tree m.directory (s.stager.layout.path a))

def after (m : Machine) (s : Scene) (events : List Event) : Scene := events.foldl (next m) s

end Scene

section Histories
variable {m : Machine} {layout : Layout} {bundle : Bundle} {t : FileTree}

/-- A file that comes from elsewhere takes a place that was free, if any. -/
theorem appear_cases (t : FileTree) (base : Location) (p : Path) (content : Bytes) (mode : ℕ) :
    appear t base p content mode = t ∨
      ∃ l, Adds l (.file content mode) t (appear t base p content mode) := by
  rw [appear]
  cases hcreate : t.createNew base p mode with
  | error e => exact Or.inl rfl
  | ok t' =>
    obtain ⟨l, hnames, hfree, rfl⟩ := FileTree.exists_of_createNew hcreate
    have hl := FileTree.ne_nil_of_free hfree
    have hempty : Adds l (.file [] mode) t (t.put l (.file [] mode)) :=
      ⟨hfree, id, fun l' => FileTree.node?_put _ _ _ _ hl⟩
    have hfill := FileTree.fill_file (hnames.of_keepsWays hempty.keepsWays)
      ((hempty.nodes l).trans (if_pos rfl)) content
    refine Or.inr ⟨l, hfree, id, fun l' => ?_⟩
    simp only [hfill]
    rw [FileTree.node?_put _ _ _ _ hl, hempty.nodes]
    split_ifs <;> rfl

theorem discard_cases (t : FileTree) (base : Location) {p : Path}
    (hend : FileTree.endsInSeparator p = false) :
    discard t base p = t ∨ ∃ l n, t.Names base p l ∧ t.node? l = some n ∧
      n.isDirectory = false ∧ discard t base p = t.erase l := by
  rw [discard, FileTree.removeFile, FileTree.locateLast,
    FileTree.withoutEnd_of_not_endsInSeparator hend]
  cases FileTree.refusal? p with
  | some e => exact Or.inl rfl
  | none =>
    rcases hlocate : t.locate base .entry p with e | ⟨l, _ | n⟩
    · exact Or.inl rfl
    · exact Or.inl rfl
    · obtain ⟨hnames, hnode⟩ := FileTree.names_of_locate hlocate
      cases n with
      | directory mode => exact Or.inl rfl
      | _ => exact Or.inr ⟨l, _, hnames, hnode.symm, rfl, by simp [hend]⟩

/-- Ways stay when a staged file comes or goes, and no link comes. -/
structure Spares (t t' : FileTree) : Prop where
  keepsWays : KeepsWays t t'
  unlinked : Unlinked t'

theorem Unlinked.appear (h : Unlinked t) (base : Location) (p : Path) (content : Bytes)
    (mode : ℕ) : Spares t (appear t base p content mode) := by
  rcases appear_cases t base p content mode with hsame | ⟨l, hadds⟩
  · rw [hsame]
    exact ⟨KeepsWays.refl t, h⟩
  · refine ⟨hadds.keepsWays, fun a d target hlink => ?_⟩
    exact h a d target (hadds.keepsWays_back _ _ hlink trivial)

theorem Unlinked.discard (h : Unlinked t) (base : Location) (layout : Layout) (a : Artifact) :
    Spares t (discard t base (layout.path a)) := by
  obtain hsame | ⟨l, n, hnames, hnode, hdirectory, herase⟩ :=
    discard_cases t base (Ground.isFile_path layout a)
  · rw [hsame]
    exact ⟨KeepsWays.refl t, h⟩
  · obtain ⟨d, rfl⟩ := (layout.path_eq_join a ▸ hnames).of_join a.isName
    have hnodes := fun l' => FileTree.node?_erase t (a.name :: d) l' (List.cons_ne_nil _ _)
    rw [herase]
    refine ⟨fun l' n' hn' hway => ?_, fun b d' target hlink => ?_⟩
    · have hne : l' ≠ a.name :: d := by
        rintro rfl
        obtain rfl := Option.some.inj (hnode.symm.trans hn')
        cases n with
        | file content mode => exact hway.elim
        | directory mode => cases hdirectory
        | link target => exact h a d target hnode
      rw [hnodes, if_neg hne, hn']
    · rw [hnodes] at hlink
      split_ifs at hlink
      exact h b d' target hlink

/-- What stays as it is of a stager and its files: the stager has its layout and its bundle, no link
has the name of a staged file, and where it has staged it finds its directory. -/
structure Lasts (m : Machine) (layout : Layout) (bundle : Bundle) (s : Scene) : Prop where
  layout_eq : s.stager.layout = layout
  bundle_eq : s.stager.bundle = bundle
  unlinked : Unlinked s.world.tree
  housed : s.stager.ready = true →
    (∃ stock, Stock.ofBundle bundle = .ok stock) ∧ Housed m layout s.world.tree

namespace Lasts
variable {s : Scene}

theorem withTree (h : Lasts m layout bundle s) {t : FileTree} (ht : Spares s.world.tree t) :
    Lasts m layout bundle (s.withTree t) where
  layout_eq := h.layout_eq
  bundle_eq := h.bundle_eq
  unlinked := ht.unlinked
  housed hready := (h.housed hready).imp_right (·.of_keepsWays ht.keepsWays)

theorem of_housed (h : Lasts m layout bundle s) (call : Call)
    (hhoused : (s.stage m).1.isOk = true →
      (∃ stock, Stock.ofBundle bundle = .ok stock) ∧
        Housed m layout (s.answer m call).2.world.tree) :
    Lasts m layout bundle (s.answer m call).2 := by
  have hadds := s.addsStaged_answer m call
  have hstager := s.stager_answer m call
  rw [h.layout_eq, h.bundle_eq] at hadds
  exact ⟨by rw [hstager, h.layout_eq], by rw [hstager, h.bundle_eq],
    hadds.unlinked h.unlinked, fun hready => hhoused (by rwa [hstager] at hready)⟩

theorem answer_of_ready (h : Lasts m layout bundle s) (hready : s.stager.ready = true)
    (call : Call) : Lasts m layout bundle (s.answer m call).2 :=
  h.of_housed call fun _ => (h.housed hready).imp_right
    (·.of_keepsWays (s.addsStaged_answer m call).keepsWays)

variable (hobstacle : ∀ k, m.obstacle k ≠ some .alreadyExists)
include hobstacle

theorem stage (h : Lasts m layout bundle s) : Lasts m layout bundle (s.stage m).2 := by
  refine h.of_housed .stage fun hok => ?_
  cases hready : s.stager.ready with
  | true =>
    rw [Scene.answer, Scene.stage_of_ready hready]
    exact h.housed hready
  | false =>
    rcases hstage : s.stage m with ⟨e | paths, s'⟩
    · rw [hstage] at hok
      cases hok
    · obtain ⟨stock, t, hstock, hcompletes⟩ :=
        Scene.completes_answer hobstacle (Or.inr hready) (show s.answer m .stage = _ from hstage)
      rw [h.bundle_eq] at hstock
      rw [h.layout_eq] at hcompletes
      rw [Scene.answer, hstage]
      exact ⟨⟨stock, hstock⟩, hcompletes.housed⟩

theorem answer (h : Lasts m layout bundle s) (call : Call) :
    Lasts m layout bundle (s.answer m call).2 := by
  cases call with
  | stage => exact h.stage hobstacle
  | restage =>
    have hstaged := h.stage hobstacle
    rw [Scene.answer]
    rcases hstage : s.stage m with ⟨e | paths, s₁⟩
    · rw [Scene.restage_of_error hstage]
      rwa [hstage] at hstaged
    · rw [hstage] at hstaged
      obtain ⟨_, hready⟩ := Scene.answer_ok (show s.answer m .stage = _ from hstage)
      rw [Scene.restage_of_stage hstage]
      exact hstaged.answer_of_ready hready .restage

theorem next (h : Lasts m layout bundle s) (event : Event) :
    Lasts m layout bundle (s.next m event) := by
  cases event with
  | called call => exact h.answer hobstacle call
  | appeared a content mode => exact h.withTree (h.unlinked.appear _ _ content mode)
  | vanished a => exact h.withTree (h.unlinked.discard _ _ a)

theorem after (h : Lasts m layout bundle s) (events : List Event) :
    Lasts m layout bundle (s.after m events) := by
  induction events generalizing s with
  | nil => exact h
  | cons event events ih => exact ih (h.next hobstacle event)

end Lasts

theorem Scene.ready_after {s : Scene} (h : s.stager.ready = true) (events : List Event) :
    (s.after m events).stager = s.stager := by
  induction events generalizing s with
  | nil => rfl
  | cons event events ih =>
    have hnext : (s.next m event).stager = s.stager := by
      cases event with
      | called call =>
        rw [Scene.next, Scene.stager_answer, Scene.stage_of_ready h]
        simp [Except.isOk, Except.toBool, ← h]
      | appeared a content mode => rfl
      | vanished a => rfl
    exact (ih (by rw [hnext, h])).trans hnext

theorem Stock.exists_error (h : bundle.get? Bundle.workerResource = none ∨
    bundle.get? Bundle.configurationResource = none) :
    ∃ e, Stock.ofBundle bundle = .error e := by
  rw [Stock.ofBundle, Bundle.require, Bundle.require]
  cases hworker : bundle.get? Bundle.workerResource with
  | none => exact ⟨_, rfl⟩
  | some content =>
    rw [h.resolve_left (by simp [hworker])]
    exact ⟨_, rfl⟩

/-- What comes of a call in the scene `s`: the answer `r` and the scene `s'`. -/
structure Served (m : Machine) (layout : Layout) (bundle : Bundle) (s : Scene) (call : Call)
    (r : Except StageError (Path × Path)) (s' : Scene) : Prop where
  /-- Whatever was there before is there as it was. -/
  kept : ∀ l n, s.world.tree.node? l = some n → s'.world.tree.node? l = some n
  /-- A call that fails leaves no temporary file either. -/
  added : AddsStaged m layout bundle s.world.tree s'.world.tree
  /-- A stager that could not stage is what it was when it was made. -/
  remembered : s'.stager = ⟨layout, bundle, (s.stage m).1.isOk⟩
  refused : bundle.get? Bundle.workerResource = none ∨
    bundle.get? Bundle.configurationResource = none → ∃ e, r = .error (.resource e) ∧ s' = s
  /-- What was missing is told by the tree in which the directory has been made. -/
  restored : ∀ paths, r = .ok paths → call = .restage ∨ s.stager.ready = false →
    ∃ stock t, Stock.ofBundle bundle = .ok stock ∧
      s.world.tree.makePath m.directory layout.directory = (.ok (), t) ∧
      Restores m layout stock t s'.world.tree ∧
      ∀ a, s'.world.tree.exists? m.directory (layout.path a) = true
  answered : ∀ stock, Stock.ofBundle bundle = .ok stock →
    Unhindered m layout stock .opening s.world → Accessible m layout s.world.tree →
    r = .ok layout.paths

section Service
variable (hobstacle : ∀ k, m.obstacle k ≠ some .alreadyExists) {s : Scene}
include hobstacle

theorem Lasts.served (h : Lasts m layout bundle s) (call : Call) :
    Served m layout bundle s call (s.answer m call).1 (s.answer m call).2 := by
  have hafter := h.answer hobstacle call
  obtain ⟨rfl, rfl, hlinks, hhoused⟩ := h
  have hadds := s.addsStaged_answer m call
  refine ⟨fun _ _ hn => hadds.kept hn, hadds, s.stager_answer m call, fun hlacks => ?_,
    fun paths hr hlooks => ?_, fun stock hstock hfree haccessible => ?_⟩
  · obtain ⟨e, he⟩ := Stock.exists_error hlacks
    have hready : s.stager.ready = false := by
      by_contra hready
      obtain ⟨⟨stock, hstock⟩, _⟩ := hhoused (by simpa using hready)
      rw [he] at hstock
      cases hstock
    rw [Scene.answer_of_error he hready]
    exact ⟨e, rfl, rfl⟩
  · obtain ⟨stock, t, hstock, hcompletes⟩ :=
      Scene.completes_answer hobstacle hlooks (Prod.ext hr rfl)
    exact ⟨stock, t, hstock, hcompletes.make, hcompletes.restores,
      fun a => hafter.unlinked.exists? (hcompletes.present a)⟩
  · obtain ⟨s', hs'⟩ :=
      Scene.answer_of_unhindered hobstacle hlinks hstock hfree haccessible call
    rw [hs']

/-- A stager that has staged answers from memory, and puts back what is gone when it is told to. -/
theorem Lasts.served_again (h : Lasts m layout bundle s) (hready : s.stager.ready = true) :
    s.answer m .stage = (.ok layout.paths, s) ∧
      ∃ stock, Stock.ofBundle bundle = .ok stock ∧
        (∀ paths s', s.answer m .restage = (.ok paths, s') →
          paths = layout.paths ∧ Restores m layout stock s.world.tree s'.world.tree) ∧
        (Unhindered m layout stock .opening s.world →
          ∃ s', s.answer m .restage = (.ok layout.paths, s')) := by
  obtain ⟨rfl, rfl, hlinks, hhoused⟩ := h
  obtain ⟨⟨stock, hstock⟩, hhoused⟩ := hhoused hready
  refine ⟨Scene.stage_of_ready hready, stock, hstock, fun paths s' hrestage => ?_,
    fun hfree => ?_⟩
  · obtain ⟨stock', t, hstock', hcompletes⟩ :=
      Scene.completes_answer hobstacle (Or.inl rfl) hrestage
    obtain rfl := Except.ok.inj (hstock'.symm.trans hstock)
    obtain rfl : t = s.world.tree :=
      (Prod.mk.inj (hcompletes.make.symm.trans hhoused.makePath)).2
    exact ⟨(Scene.answer_ok hrestage).1, hcompletes.restores⟩
  · exact Scene.answer_of_unhindered hobstacle hlinks hstock hfree
      ⟨s.world.tree, hhoused.makePath, hhoused.2⟩ .restage

/-- Staging creates and never replaces, whatever calls there are, whatever becomes of the staged
files between them and whichever steps fail, as long as no failure tells of a file that is not
there. Once it has staged, a stager says so without a look at the disk; told to stage again it puts
back what is missing, and that alone. -/
theorem served_in_every_history (layout : Layout) (bundle : Bundle) (w₀ : World)
    (hlinks : Unlinked w₀.tree) (events : List Event) :
    let s := Scene.after m ⟨⟨layout, bundle, false⟩, w₀⟩ events
    (∀ call, Served m layout bundle s call (s.answer m call).1 (s.answer m call).2) ∧
    ∀ call paths s₁, s.answer m call = (.ok paths, s₁) → ∀ later,
      let s₂ := s₁.after m later
      s₂.answer m .stage = (.ok paths, s₂) ∧
      ∃ stock, Stock.ofBundle bundle = .ok stock ∧
        (∀ paths' s₃, s₂.answer m .restage = (.ok paths', s₃) →
          paths' = paths ∧ Restores m layout stock s₂.world.tree s₃.world.tree) ∧
        (Unhindered m layout stock .opening s₂.world →
          ∃ s₃, s₂.answer m .restage = (.ok paths, s₃)) := by
  intro s
  have hnew : Lasts m layout bundle ⟨⟨layout, bundle, false⟩, w₀⟩ :=
    ⟨rfl, rfl, hlinks, fun hready => by cases hready⟩
  have hlasts : Lasts m layout bundle s := hnew.after hobstacle events
  refine ⟨fun call => hlasts.served hobstacle call, fun call paths s₁ hok later => ?_⟩
  obtain ⟨hpaths, hready⟩ := Scene.answer_ok hok
  rw [hlasts.layout_eq] at hpaths
  have hlasts₁ := hlasts.answer hobstacle call
  rw [hok] at hlasts₁
  rw [hpaths]
  exact (hlasts₁.after hobstacle later).served_again hobstacle
    (by rw [Scene.ready_after hready, hready])

end Service
end Histories

open Site.Sample (crew)

namespace Sample

/-- Somebody else has put a configuration into the staging directory. -/
def world : World where
  tree := ⟨[(["s"], .directory 0o755), ([Artifact.configuration.name, "s"], .file [7] 0o644)]⟩

def scene : Scene := ⟨⟨crew.layout, crew.bundle, false⟩, world⟩

/-- The worker has been staged and taken away again. -/
def bare : Scene := (scene.answer crew.machine .stage).2.after crew.machine [.vanished .executable]

theorem obstacle_crew (k : ℕ) : crew.machine.obstacle k ≠ some .alreadyExists := by
  simp [crew, Site.Sample.machine]

theorem unlinked_world : Unlinked world.tree := by
  intro a d target hnode
  obtain ⟨e, hfind, he⟩ := Option.map_eq_some_iff.mp hnode
  have hmem := List.mem_of_find?_eq_some hfind
  simp only [world, List.mem_cons, List.not_mem_nil, or_false] at hmem
  rcases hmem with rfl | rfl <;> cases he

theorem accessible_world : Accessible crew.machine crew.layout world.tree :=
  ⟨world.tree, by decide +kernel, fun a => ⟨[a.name, "s"], by cases a <;> decide +kernel⟩⟩

theorem unhindered_world : Unhindered crew.machine crew.layout crew.stock .opening world :=
  ⟨fun _ _ => rfl, by decide +kernel⟩

theorem unhindered_bare : Unhindered crew.machine crew.layout crew.stock .opening bare.world :=
  ⟨fun _ _ => rfl, by decide +kernel⟩

theorem names_bare (a : Artifact) :
    bare.world.tree.Names crew.machine.directory (crew.layout.path a) [a.name, "s"] := by
  cases a <;> decide +kernel

theorem nodes_bare : bare.world.tree.node? [Artifact.executable.name, "s"] = none ∧
    bare.world.tree.node? [Artifact.configuration.name, "s"] = some (.file [7] 0o644) := by
  decide +kernel

end Sample

/-- The configuration that was found stays. The worker that was taken away comes back when the
stager is told to stage again, and not before. -/
theorem served_in_every_history_sample :
    (∀ k, crew.machine.obstacle k ≠ some .alreadyExists) ∧ Unlinked Sample.world.tree ∧
    Sample.bare.answer crew.machine .stage = (.ok crew.layout.paths, Sample.bare) ∧
    Sample.bare.world.tree.node? [Artifact.executable.name, "s"] = none ∧
    ∃ s', Sample.bare.answer crew.machine .restage = (.ok crew.layout.paths, s') ∧
      s'.world.tree.node? [Artifact.executable.name, "s"] = some (.file [1, 2] 0o755) ∧
      s'.world.tree.node? [Artifact.configuration.name, "s"] = some (.file [7] 0o644) := by
  obtain ⟨hserved, hagain⟩ := served_in_every_history Sample.obstacle_crew crew.layout crew.bundle
    Sample.world Sample.unlinked_world []
  have hok : (Sample.scene.answer crew.machine .stage).1 = .ok crew.layout.paths :=
    (hserved .stage).answered crew.stock crew.complete Sample.unhindered_world
      Sample.accessible_world
  obtain ⟨hstage, stock, hstock, hrestores, hrestages⟩ :=
    hagain .stage _ (Sample.scene.answer crew.machine .stage).2 (Prod.ext hok rfl)
      [.vanished .executable]
  obtain rfl : crew.stock = stock := Except.ok.inj (crew.complete.symm.trans hstock)
  obtain ⟨s', hs'⟩ := hrestages Sample.unhindered_bare
  obtain ⟨_, place, hnames, hnodes, _⟩ := hrestores _ _ hs'
  have hplace : ∀ a, place a = [a.name, "s"] := fun a => (hnames a).unique (Sample.names_bare a)
  have hnode : ∀ a, s'.world.tree.node? [a.name, "s"] =
      some ((Sample.bare.world.tree.node? [a.name, "s"]).getD (crew.stock.file a)) :=
    fun a => hplace a ▸ hnodes a
  obtain ⟨hexecutable, hconfiguration⟩ := Sample.nodes_bare
  refine ⟨Sample.obstacle_crew, Sample.unlinked_world, hstage, hexecutable, s', hs', ?_, ?_⟩
  · rw [hnode, hexecutable]
    rfl
  · rw [hnode, hconfiguration]
    rfl

end TemplateBatch.Staging
