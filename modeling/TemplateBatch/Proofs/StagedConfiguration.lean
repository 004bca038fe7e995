import TemplateBatch.Proofs.BundledLibraries
import TemplateBatch.Proofs.ResourceListing
import TemplateBatch.Proofs.RuntimeSearch
import TemplateBatch.Proofs.StagingEffects

/-!
The run configuration on its way from the host to its workers. The host derives it from its own
configuration and from the toolchain, carries it in the bundle and stages it; a worker that stands
beside it searches the runtime directory and then the one of the toolchain.
-/
namespace TemplateBatch

theorem Variables.get?_set (vs : Variables) (key value : String) :
    (vs.set key value).get? key = some value := by
  simp [set, get?]

theorem Configuration.override_ok {c₀ c : Configuration} {lookup : String → Option String}
    (h : c₀.override lookup = .ok c) :
    c.options = c₀.options ∧
      c.runtimeDirectory = pathOr (lookup runtimeVariable) c₀.runtimeDirectory := by
  rw [override] at h
  cases hformat : lookup formatVariable with
  | none =>
    simp only [hformat] at h
    obtain rfl := Except.ok.inj h
    exact ⟨rfl, rfl⟩
  | some value =>
    cases hswitch : switch? value with
    | none => simp [hformat, hswitch] at h
    | some b =>
      simp only [hformat, hswitch] at h
      obtain rfl := Except.ok.inj h
      exact ⟨rfl, rfl⟩

namespace Bundle

theorem get?_embedded :
    embedded.get? configurationResource = some (Text.Utf8.encode Embedded.runConfiguration) := by
  rw [embedded, insertConfiguration, get?_insert, if_pos rfl]

end Bundle

namespace Staging

theorem Stock.configuration_of_ofBundle {b : Bundle} {stock : Stock}
    (h : Stock.ofBundle b = .ok stock) :
    b.get? Bundle.configurationResource = some stock.configuration := by
  rw [ofBundle] at h
  split at h
  · cases h
  · split at h
    · cases h
    · next configuration hrequire =>
      obtain rfl := Except.ok.inj h
      rw [Bundle.require] at hrequire
      split at hrequire
      · next content hcontent =>
        rw [hcontent]
        exact congrArg some (Except.ok.inj hrequire)
      · cases hrequire

section Staged
variable {m : Machine} {layout : Layout} {stock : Stock}

/-- Until staging is done with the configuration nothing is there, and then it is. -/
def Awaits (m : Machine) (layout : Layout) (stock : Stock) (t : FileTree) : Phase → Prop
  | .opening =>
    (t.makePath m.directory layout.directory).2.under? m.directory (layout.path .configuration) =
      none
  | .failed _ => True
  | .done =>
    t.under? m.directory (layout.path .configuration) =
      some (.file stock.configuration temporaryMode)
  | _ => t.under? m.directory (layout.path .configuration) = none

theorem Advances.awaits {obstacle : Option SystemError} {p p' : Phase} {t t' : FileTree}
    (hobstacle : obstacle ≠ some .alreadyExists)
    (h : Advances m layout stock obstacle t p p' t') (hawaits : Awaits m layout stock t p) :
    Awaits m layout stock t' p' := by
  cases h with
  | opened hmake =>
    rw [Awaits, hmake] at hawaits
    exact hawaits
  | unopened _ => trivial
  | failed _ _ => trivial
  | @found a hexists =>
    cases a with
    | executable => exact hawaits
    | configuration =>
      rw [FileTree.exists?] at hexists
      split at hexists
      · next l n hfind => exact absurd hawaits (FileTree.under?_of_find hfind)
      · cases hexists
  | @missing a => cases a <;> exact hawaits
  | @created a path => cases a <;> exact hawaits
  | @written a path => cases a <;> exact hawaits
  | permitted => exact hawaits
  | @published a path l _ hnames hadds =>
    cases a with
    | executable =>
      refine (FileTree.under?_congr hadds.keepsWays hadds.keepsWays_back fun l' hnames' => ?_).trans
        hawaits
      rw [hadds.nodes, if_neg]
      rintro rfl
      cases artifact_unique hnames hnames'
    | configuration =>
      change t'.under? m.directory (layout.path .configuration) = _
      rw [(hnames.of_keepsWays hadds.keepsWays).under?_eq, hadds.nodes, if_pos rfl]
      rfl
  | @beaten a path _ hbeaten hagrees =>
    cases a with
    | executable => exact (hagrees.under?_eq ..).trans hawaits
    | configuration => exact absurd hawaits (hbeaten.resolve_left hobstacle)

theorem Stager.configuration_staged {s s' : Stager} {w w' : World}
    (hobstacle : ∀ k, m.obstacle k ≠ some .alreadyExists) (hready : s.ready = false)
    (hcleared : (w.tree.makePath m.directory s.layout.directory).2.under? m.directory
      s.layout.configurationPath = none)
    (hstage : (s.stage m).Gives w s' w') :
    ∃ content, s.bundle.get? Bundle.configurationResource = some content ∧
      w'.tree.under? m.directory s.layout.configurationPath =
        some (.file content temporaryMode) := by
  rw [stage, hready] at hstage
  obtain ⟨_, w₁, hwrite, hreturn⟩ := Work.gives_bind.mp hstage
  obtain ⟨_, rfl⟩ := Work.gives_pure.mp hreturn
  rw [writeMissing] at hwrite
  split at hwrite
  · exact absurd hwrite Work.not_gives_throw
  · next stock hstock =>
    refine ⟨stock.configuration, Stock.configuration_of_ofBundle hstock, ?_⟩
    obtain ⟨_, ⟨_, hdone⟩ | ⟨e, herror, _⟩⟩ := complete_induction m s.layout stock w
      (P := fun p t => Awaits m s.layout stock t p) hcleared
      fun k _ _ _ _ h hadvances => hadvances.awaits (hobstacle k) h
    · rw [show ExceptT.run (complete m s.layout stock) w = _ from hwrite] at hdone
      exact hdone
    · rw [show ExceptT.run (complete m s.layout stock) w = _ from hwrite] at herror
      cases herror

end Staged
end Staging

namespace Pipeline

section Host
variable {m : Machine} {c : Configuration} {b : Bundle} {w w₁ : World} {p : Pipeline}

/-- The directory of the toolchain's own shared standard library. -/
def libraryDirectory (p : Pipeline) : Path := p.compiler.toolchain.libraryDirectory

theorem runner_ofConfiguration (h : (ofConfiguration m c b).Gives w p w₁) :
    p.runner.stager.bundle = workerBundle c p.libraryDirectory b ∧
      p.runner.stager.ready = false ∧ p.runner.runtimeDirectory = c.runtimeDirectory := by
  obtain ⟨compiler, w₂, _, hrest⟩ := Work.gives_bind.mp h
  obtain ⟨layout, w₃, _, hrest⟩ := Work.gives_bind.mp hrest
  obtain ⟨w₄, w₅, hworld, hrest⟩ := Work.gives_bind.mp hrest
  obtain ⟨rfl, rfl⟩ := Work.gives_world.mp hworld
  obtain ⟨_, w₆, _, hreturn⟩ := Work.gives_bind.mp hrest
  obtain ⟨rfl, _⟩ := Work.gives_pure.mp hreturn
  exact ⟨rfl, rfl, rfl⟩

/-- The run configuration for workers whose modules share the standard library. -/
def sharedConfiguration (c : Configuration) (libraryDirectory : Path) : RunConfiguration :=
  .dynamic (c.runtimeDirectory.toList ++ [libraryDirectory])

theorem get?_workerBundle_dynamic (hlinkage : c.options.linkage = .dynamic) (directory : Path) :
    (workerBundle c directory b).get? Bundle.configurationResource =
      some (Text.Utf8.encode (sharedConfiguration c directory).toText) := by
  simp only [workerBundle, workerConfiguration?, hlinkage, Bundle.insertConfiguration,
    Bundle.get?_insert, if_true, sharedConfiguration]

theorem workerBundle_static (hlinkage : c.options.linkage = .static) (directory : Path) :
    workerBundle c directory b = b := by
  simp only [workerBundle, workerConfiguration?, hlinkage]

end Host

/-- The first library of the search is in the runtime directory if that has one, and is the one of
the toolchain else. -/
theorem exists_first_library {t : FileTree} {base : Location} {directory found : Path}
    (runtime : Option Path) (extra : List Path)
    (hfound : findStandardLibrary t base directory = some found) :
    ∃ library, (runtime.toList ++ [directory] ++ extra).findSome? (findStandardLibrary t base) =
        some library ∧
      ((∃ d x, runtime = some d ∧ HoldsLibrary t base d x) →
        ∃ d, runtime = some d ∧ HoldsLibrary t base d library) ∧
      ((¬ ∃ d x, runtime = some d ∧ HoldsLibrary t base d x) → library = found) := by
  cases runtime with
  | none => exact ⟨found, by simp [hfound], by simp, fun _ => rfl⟩
  | some d =>
    cases hd : findStandardLibrary t base d with
    | none =>
      refine ⟨found, by simp [hd, hfound], ?_, fun _ => rfl⟩
      rintro ⟨d', x, hd', hx⟩
      obtain rfl := Option.some.inj hd'
      obtain ⟨y, hy⟩ := hx.exists_find
      rw [hd] at hy
      cases hy
    | some library =>
      have hholds := holdsLibrary_of_find hd
      exact ⟨library, by simp [hd], fun _ => ⟨d, rfl, hholds⟩,
        fun hnone => absurd ⟨d, library, rfl, hholds⟩ hnone⟩

namespace Sample

/-- Programs that say nothing and leave everything as it is. -/
def machine (vs : Variables) : Machine where
  directory := []
  executable := ⟨"/r"⟩
  environment := ("PATH", "/") :: vs
  temporary := ⟨"/"⟩
  program := fun _ => .ok fun _ t => ⟨.exited 0, [], [], t⟩

def places : List (Location × Node) :=
  [(["rustc"], .file [1] 0o755), (["a"], .directory 0o755),
    (["libstd-1.so", "a"], .file [] 0o644), (["lib"], .directory 0o755),
    (["rustlib", "lib"], .directory 0o755),
    ([Toolchain.hostTarget, "rustlib", "lib"], .directory 0o755),
    (["lib", Toolchain.hostTarget, "rustlib", "lib"], .directory 0o755),
    (["libstd-2.so", "lib", Toolchain.hostTarget, "rustlib", "lib"], .file [] 0o644)]

def world : World := { tree := ⟨places⟩ }

/-- A worker, and the run configuration that comes with every host. -/
def bundle : Bundle :=
  (Bundle.empty.insertConfiguration (Text.Utf8.encode Embedded.runConfiguration)).insertWorker [2]

/-- Modules share the standard library or not; the directory holds one. -/
def configuration (linkage : Linkage) (directory : String) : Configuration where
  options := { linkage }
  runtimeDirectory := some ⟨directory⟩

/-- Two directories in the variable, of which the first one has a library. -/
def named : Variables := [(Configuration.runtimeVariable, "/a:/b")]

def toolchain : Toolchain := ⟨⟨"rustc"⟩, "", ⟨""⟩, Toolchain.hostTarget⟩

section Pipelines
variable (vs : Variables) (linkage : Linkage) (directory : String)

def pipeline : Pipeline :=
  let c := configuration linkage directory
  { compiler := ⟨toolchain, c.options, Reference.libraries⟩
    runner := ⟨⟨⟨⟨"/"⟩⟩, workerBundle c toolchain.libraryDirectory bundle, false⟩,
      c.runtimeDirectory⟩
    output := c.output
    references := [] }

/-- The world after the compiler was asked about itself. -/
def asked : World := (ExceptT.run (Toolchain.resolve (machine vs) none) world).2

/-- The world with a pipeline. -/
def cleared : World :=
  (Staging.Stager.create (machine vs) ⟨⟨"/"⟩⟩
    (workerBundle (configuration linkage directory) toolchain.libraryDirectory bundle)
    (asked vs)).2

theorem pipeline_gives
    (h : (ExceptT.run (Toolchain.resolve (machine vs) none) world).1 = .ok toolchain) :
    (ofConfiguration (machine vs) (configuration linkage directory) bundle).Gives world
      (pipeline linkage directory) (cleared vs linkage directory) := by
  have hlayout : layout (machine vs) (configuration linkage directory) = .ok ⟨⟨"/"⟩⟩ := by
    change Staging.Layout.besideHost (machine vs) = _
    have hparent : (Path.mk "/r").parent? = some ⟨"/"⟩ := by rfl
    simp only [Staging.Layout.besideHost, machine, hparent]
  exact gives_ofConfiguration (Work.gives_run h) hlayout

/-- What staging comes to. -/
def staged : Except Staging.StageError Staging.Stager × World :=
  ExceptT.run ((pipeline linkage "/a").runner.stager.stage (machine [])) world

/-- The files when the worker has been staged. -/
def filled : FileTree := (staged linkage).2.tree

theorem stage_gives : ∃ stager,
    ((pipeline linkage "/a").runner.stager.stage (machine [])).Gives world stager
      (staged linkage).2 := by
  have hok : (staged linkage).1.isOk = true := by cases linkage <;> decide +kernel
  cases hstaged : (staged linkage).1 with
  | ok stager => exact ⟨stager, Work.gives_run hstaged⟩
  | error e => simp [hstaged, Except.isOk, Except.toBool] at hok

end Pipelines

def shared : RunConfiguration := .dynamic [⟨"/a"⟩, toolchain.libraryDirectory]

theorem beside_worker (linkage : Linkage) : RunConfiguration.beside ⟨"/rendergen-worker"⟩ =
    (pipeline linkage "/a").runner.stager.layout.configurationPath := by
  rfl

end Sample

/-- A worker obeys the run configuration that its host has staged for it. Where modules share the
standard library, it searches the runtime directory, if there is one, and then the directory of the
toolchain, so that it starts whenever the toolchain has the library. Where they do not, the
configuration that comes with the host is staged, and a worker searches nothing. Nothing else is at
the place of the configuration when staging starts, and nobody else puts a file there meanwhile. -/
theorem staged_configuration_obeyed {m : Machine} {c : Configuration} {b : Bundle}
    {w w₁ w₂ w₃ : World} {p : Pipeline} {stager : Staging.Stager}
    (hobstacle : ∀ k, m.obstacle k ≠ some .alreadyExists)
    (hpipeline : (ofConfiguration m c b).Gives w p w₁)
    (hcleared : (w₂.tree.makePath m.directory p.runner.stager.layout.directory).2.under?
      m.directory p.runner.stager.layout.configurationPath = none)
    (hstage : (p.runner.stager.stage m).Gives w₂ stager w₃) :
    (c.options.linkage = .dynamic →
      let staged : RunConfiguration := .dynamic (c.runtimeDirectory.toList ++ [p.libraryDirectory])
      ∀ words t executable vs,
        t.under? m.directory (RunConfiguration.beside executable) =
            w₃.tree.under? m.directory p.runner.stager.layout.configurationPath →
        Worker.loadRunConfiguration words t m.directory (RunConfiguration.beside executable) =
            .ok staged ∧
        ∀ found, p.compiler.toolchain.standardLibrary? t m.directory = some found →
          ∃ library,
            Worker.bootstrap words t m.directory vs executable = .ok ⟨staged, some library⟩ ∧
            ((∃ d x, c.runtimeDirectory = some d ∧ HoldsLibrary t m.directory d x) →
              ∃ d, c.runtimeDirectory = some d ∧ HoldsLibrary t m.directory d library) ∧
            ((¬ ∃ d x, c.runtimeDirectory = some d ∧ HoldsLibrary t m.directory d x) →
              library = found ∧ HoldsLibrary t m.directory p.libraryDirectory library)) ∧
    (c.options.linkage = .static →
      b.get? Bundle.configurationResource = Bundle.embedded.get? Bundle.configurationResource →
      ∀ words t executable vs,
        t.under? m.directory (RunConfiguration.beside executable) =
            w₃.tree.under? m.directory p.runner.stager.layout.configurationPath →
        Worker.searched {} vs = [] ∧
        Worker.bootstrap words t m.directory vs executable = .ok ⟨{}, none⟩) := by
  obtain ⟨hbundle, hready, _⟩ := runner_ofConfiguration hpipeline
  obtain ⟨content, hcontent, hunder⟩ :=
    Staging.Stager.configuration_staged hobstacle hready hcleared hstage
  have hreadable : Staging.temporaryMode &&& 0o444 ≠ 0 := by decide
  rw [hbundle] at hcontent
  constructor
  · intro hlinkage staged words t executable vs hbeside
    rw [get?_workerBundle_dynamic hlinkage] at hcontent
    rw [hunder, ← Option.some.inj hcontent] at hbeside
    have hload := Worker.loadRunConfiguration_of_readText words
      (Worker.readText_of_under? hreadable hbeside) (RunConfiguration.ofText?_toText staged)
    refine ⟨hload, fun found hfound => ?_⟩
    obtain ⟨library, hfirst, hruntime, htoolchain⟩ :=
      exists_first_library c.runtimeDirectory (Worker.extraDirectories vs) hfound
    refine ⟨library, ?_, hruntime, fun hnone => ?_⟩
    · rw [Worker.bootstrap_of_load words hload]
      exact Worker.resolve_dynamic rfl hfirst
    · obtain rfl := htoolchain hnone
      exact ⟨rfl, holdsLibrary_of_find hfound⟩
  · intro hlinkage hembedded words t executable vs hbeside
    have htext : RunConfiguration.ofText? Embedded.runConfiguration = some {} := by decide +kernel
    rw [workerBundle_static hlinkage, hembedded, Bundle.get?_embedded] at hcontent
    rw [hunder, ← Option.some.inj hcontent] at hbeside
    have hload := Worker.loadRunConfiguration_of_readText words
      (Worker.readText_of_under? hreadable hbeside) htext
    refine ⟨rfl, ?_⟩
    rw [Worker.bootstrap_of_load words hload]
    exact Worker.resolve_static rfl _

/-- A worker that stands where it was staged takes the library of the runtime directory, or none at
all. -/
theorem staged_configuration_obeyed_sample :
    (∃ library,
      Worker.bootstrap .silent (Sample.filled .dynamic) [] [] ⟨"/rendergen-worker"⟩ =
        .ok ⟨Sample.shared, some library⟩ ∧
      ∃ d, (Sample.configuration .dynamic "/a").runtimeDirectory = some d ∧
        HoldsLibrary (Sample.filled .dynamic) [] d library) ∧
    Worker.bootstrap .silent (Sample.filled .static) [] Sample.named ⟨"/rendergen-worker"⟩ =
      .ok ⟨{}, none⟩ := by
  constructor
  · obtain ⟨stager, hstage⟩ := Sample.stage_gives .dynamic
    have hlibrary : Sample.toolchain.standardLibrary? (Sample.filled .dynamic) [] =
        some (Sample.toolchain.libraryDirectory.join "libstd-2.so") := by
      decide +kernel
    have hruntime : findStandardLibrary (Sample.filled .dynamic) [] ⟨"/a"⟩ =
        some ⟨"/a/libstd-1.so"⟩ := by
      decide +kernel
    obtain ⟨_, hbootstrap⟩ := (staged_configuration_obeyed (fun _ => by simp [Sample.machine])
      (Sample.pipeline_gives [] .dynamic "/a" (by decide +kernel)) (by decide +kernel) hstage).1 rfl
      .silent (Sample.filled .dynamic) ⟨"/rendergen-worker"⟩ []
      (congrArg ((Sample.filled .dynamic).under? []) (Sample.beside_worker .dynamic))
    obtain ⟨library, hfound, hheld, _⟩ := hbootstrap _ hlibrary
    exact ⟨library, hfound, hheld ⟨⟨"/a"⟩, _, rfl, holdsLibrary_of_find hruntime⟩⟩
  · obtain ⟨stager, hstage⟩ := Sample.stage_gives .static
    have hcarried : Sample.bundle.get? Bundle.configurationResource =
        Bundle.embedded.get? Bundle.configurationResource := by
      rw [Bundle.get?_embedded]
      rfl
    obtain ⟨_, hbootstrap⟩ := (staged_configuration_obeyed (fun _ => by simp [Sample.machine])
      (Sample.pipeline_gives [] .static "/a" (by decide +kernel)) (by decide +kernel) hstage).2 rfl
      hcarried .silent (Sample.filled .static) ⟨"/rendergen-worker"⟩ Sample.named
      (congrArg ((Sample.filled .static).under? []) (Sample.beside_worker .static))
    exact hbootstrap

/-- Directories with a colon between them are no beginning of a list that starts with the whole
text. -/
theorem exists_splitDirectories_append_iff (v : String) (directory : Path) :
    (∃ rest, (⟨v⟩ : Path) :: directory :: Worker.splitDirectories v =
        Worker.splitDirectories v ++ directory :: rest) ↔ ':' ∉ v.toList := by
  constructor
  · rintro ⟨rest, hrest⟩ hcolon
    obtain ⟨d, ds, hsplit⟩ := List.exists_cons_of_ne_nil (Worker.splitDirectories_ne_nil v)
    have hfirst : (⟨v⟩ : Path) = d := by
      rw [hsplit] at hrest
      exact (List.cons.inj hrest).1
    have hpiece : d ∈ Worker.splitDirectories v := hsplit ▸ List.mem_cons_self
    exact Worker.colon_not_mem_of_mem_split hpiece (hfirst ▸ hcolon)
  · intro hcolon
    rw [Worker.splitDirectories_of_no_colon hcolon]
    exact ⟨[⟨v⟩], rfl⟩

/-- The host takes the whole value of the variable for one directory and has its workers search that
one before the directory of the toolchain, and the directories that the value names behind both. The
two readings agree on values without a colon only: else the library of the toolchain is found before
those in the directories that the value names. -/
theorem searched_of_runtimeVariable {m : Machine} {c₀ c : Configuration} {b : Bundle} {w w₁ : World}
    {p : Pipeline} {v : String}
    (hvariable : m.environment.get? Configuration.runtimeVariable = some v) (hvalue : v ≠ "")
    (hlinkage : c₀.options.linkage = .dynamic)
    (hoverride : c₀.override m.environment.get? = .ok c)
    (hpipeline : (ofConfiguration m c b).Gives w p w₁) (line : String) :
    ∃ text staged,
      p.runner.stager.bundle.get? Bundle.configurationResource = some (Text.Utf8.encode text) ∧
      RunConfiguration.ofText? text = some staged ∧
      let environment := (p.runner.workerCommand line).fullEnvironment m
      let searched := Worker.searched staged environment
      searched = ⟨v⟩ :: p.libraryDirectory :: Worker.splitDirectories v ∧
      ((∃ rest, searched = Worker.splitDirectories v ++ p.libraryDirectory :: rest) ↔
        ':' ∉ v.toList) ∧
      ∀ t,
        (searched.findSome? (findStandardLibrary t m.directory) = none →
          Worker.resolve t m.directory staged (Worker.extraDirectories environment) =
            .error (.runtimeMissing staged.name searched)) ∧
        ∀ found, findStandardLibrary t m.directory ⟨v⟩ = none →
          p.compiler.toolchain.standardLibrary? t m.directory = some found →
          Worker.resolve t m.directory staged (Worker.extraDirectories environment) =
            .ok ⟨staged, some found⟩ := by
  obtain ⟨hoptions, hdirectory⟩ := Configuration.override_ok hoverride
  obtain ⟨hbundle, _, hruntime⟩ := runner_ofConfiguration hpipeline
  have hconfigured : c.runtimeDirectory = some ⟨v⟩ := by
    rw [hdirectory, hvariable, Configuration.pathOr]
    rintro rfl
    exact hvalue rfl
  have henvironment : ((p.runner.workerCommand line).fullEnvironment m).get?
      Configuration.runtimeVariable = some v := by
    simp only [Command.fullEnvironment, Runner.workerCommand, hruntime, hconfigured,
      List.foldl_cons, List.foldl_nil, Variables.get?_set]
  have hextra : Worker.extraDirectories ((p.runner.workerCommand line).fullEnvironment m) =
      Worker.splitDirectories v := by
    simp only [Worker.extraDirectories, henvironment]
  refine ⟨_, sharedConfiguration c p.libraryDirectory, ?_, RunConfiguration.ofText?_toText _, ?_⟩
  · rw [hbundle]
    exact get?_workerBundle_dynamic (hoptions ▸ hlinkage) _
  · have hsearched : Worker.searched (sharedConfiguration c p.libraryDirectory)
        ((p.runner.workerCommand line).fullEnvironment m) =
        ⟨v⟩ :: p.libraryDirectory :: Worker.splitDirectories v := by
      simp [Worker.searched, sharedConfiguration, RunConfiguration.dynamic, hconfigured, hextra]
    refine ⟨hsearched, hsearched ▸ exists_splitDirectories_append_iff v p.libraryDirectory, ?_⟩
    refine fun t => ⟨Worker.resolve_missing rfl, fun found hnone hfound => ?_⟩
    have htoolchain : findStandardLibrary t m.directory p.libraryDirectory = some found := hfound
    refine Worker.resolve_dynamic rfl ?_
    rw [hsearched]
    simp [hnone, htoolchain]

/-- Both directories are searched behind that of the toolchain. -/
theorem searched_of_runtimeVariable_sample :
    ∃ text staged,
      (Sample.pipeline .dynamic "/a:/b").runner.stager.bundle.get? Bundle.configurationResource =
        some (Text.Utf8.encode text) ∧
      RunConfiguration.ofText? text = some staged ∧
      Worker.searched staged
          (((Sample.pipeline .dynamic "/a:/b").runner.workerCommand "").fullEnvironment
            (Sample.machine Sample.named)) =
        [⟨"/a:/b"⟩, Sample.toolchain.libraryDirectory, ⟨"/a"⟩, ⟨"/b"⟩] := by
  have hoverride : ({ options := { linkage := .dynamic } } : Configuration).override
      (Sample.machine Sample.named).environment.get? =
        .ok (Sample.configuration .dynamic "/a:/b") := by
    decide +kernel
  have hvariable : (Sample.machine Sample.named).environment.get?
      Configuration.runtimeVariable = some "/a:/b" := by
    decide +kernel
  have hsplit : Worker.splitDirectories "/a:/b" = [⟨"/a"⟩, ⟨"/b"⟩] := by decide +kernel
  obtain ⟨text, staged, hbundle, htext, hsearched, _⟩ :=
    searched_of_runtimeVariable hvariable (by decide) rfl hoverride
      (Sample.pipeline_gives Sample.named .dynamic "/a:/b" (by decide +kernel)) ""
  rw [hsplit] at hsearched
  exact ⟨text, staged, hbundle, htext, hsearched⟩

/-- A library in the first of two directories that the variable names goes behind the one of the
toolchain. -/
theorem toolchain_before_runtimeVariable :
    let staged : RunConfiguration := .dynamic [⟨"/a:/b"⟩, Sample.toolchain.libraryDirectory]
    let environment := ((Sample.pipeline .dynamic "/a:/b").runner.workerCommand "").fullEnvironment
      (Sample.machine Sample.named)
    let searched := Worker.searched staged environment
    (ofConfiguration (Sample.machine Sample.named) (Sample.configuration .dynamic "/a:/b")
        Sample.bundle).Gives Sample.world (Sample.pipeline .dynamic "/a:/b")
        (Sample.cleared Sample.named .dynamic "/a:/b") ∧
      (Sample.pipeline .dynamic "/a:/b").runner.stager.bundle.get? Bundle.configurationResource =
        some (Text.Utf8.encode staged.toText) ∧
      Worker.splitDirectories "/a:/b" = [⟨"/a"⟩, ⟨"/b"⟩] ∧
      HoldsLibrary Sample.world.tree [] ⟨"/a"⟩ ⟨"/a/libstd-1.so"⟩ ∧
      (¬ ∃ rest, searched =
        Worker.splitDirectories "/a:/b" ++ Sample.toolchain.libraryDirectory :: rest) ∧
      Worker.resolve Sample.world.tree [] staged (Worker.extraDirectories environment) =
        .ok ⟨staged, some (Sample.toolchain.libraryDirectory.join "libstd-2.so")⟩ := by
  intro staged environment searched
  have hheld : findStandardLibrary Sample.world.tree [] ⟨"/a"⟩ = some ⟨"/a/libstd-1.so"⟩ := by
    decide +kernel
  have hsearched : searched = ⟨"/a:/b"⟩ :: Sample.toolchain.libraryDirectory ::
      Worker.splitDirectories "/a:/b" := by
    decide +kernel
  refine ⟨Sample.pipeline_gives Sample.named .dynamic "/a:/b" (by decide +kernel),
    get?_workerBundle_dynamic rfl _, by decide +kernel, holdsLibrary_of_find hheld, ?_,
    by decide +kernel⟩
  rw [hsearched, exists_splitDirectories_append_iff]
  decide +kernel

end Pipeline
end TemplateBatch
