import TemplateBatch.Proofs.BatchRuns
import TemplateBatch.Proofs.Rejection

/-!
What becomes of sources that are handed over for building. The first prebuilt crate that is missing
is told before anything else, then every problem with a name, and neither runs the compiler. When it
is run, it is run once, and what is told of it follows from how it ended. Sources that are rejected
have always been told an error.
-/
namespace TemplateBatch.ModuleCompiler

section Missing
variable (m : Machine) (t : FileTree)

/-- All prebuilt crates are files. -/
def AllFiles (references : List Reference) : Prop :=
  ∀ name path, Reference.external name path ∈ references → t.isFile m.directory path = true

/-- The crate is no file, and those before it are. -/
def FirstMissing (references : List Reference) (name : String) (path : Path) : Prop :=
  ∃ before after, references = before ++ .external name path :: after ∧ AllFiles m t before ∧
    t.isFile m.directory path = false

variable {m t} {references : List Reference}

theorem AllFiles.cons {r : Reference}
    (hr : ∀ name path, r = .external name path → t.isFile m.directory path = true)
    (h : AllFiles m t references) : AllFiles m t (r :: references) := by
  intro name path hmem
  rcases List.mem_cons.mp hmem with heq | hrest
  · exact hr name path heq.symm
  · exact h name path hrest

theorem FirstMissing.cons {r : Reference} {name : String} {path : Path}
    (hr : ∀ name path, r = .external name path → t.isFile m.directory path = true)
    (h : FirstMissing m t references name path) : FirstMissing m t (r :: references) name path := by
  obtain ⟨before, after, rfl, hbefore, hfile⟩ := h
  exact ⟨r :: before, after, rfl, hbefore.cons hr, hfile⟩

variable (m t references) in
theorem missing?_cases :
    (∃ name path, missing? m t references = some (name, path) ∧
        FirstMissing m t references name path) ∨
      (missing? m t references = none ∧ AllFiles m t references) := by
  induction references with
  | nil => exact Or.inr ⟨rfl, fun _ _ h => absurd h List.not_mem_nil⟩
  | cons r references ih =>
    have hskip (hr : ∀ name path, r = .external name path → t.isFile m.directory path = true)
        (hsame : missing? m t (r :: references) = missing? m t references) :
        (∃ name path, missing? m t (r :: references) = some (name, path) ∧
            FirstMissing m t (r :: references) name path) ∨
          (missing? m t (r :: references) = none ∧ AllFiles m t (r :: references)) := by
      rw [hsame]
      rcases ih with ⟨name, path, hfound, hfirst⟩ | ⟨hnone, hall⟩
      · exact Or.inl ⟨name, path, hfound, hfirst.cons hr⟩
      · exact Or.inr ⟨hnone, hall.cons hr⟩
    cases r with
    | source name text => exact hskip (fun _ _ h => by cases h) rfl
    | external name path =>
      cases hfile : t.isFile m.directory path with
      | true =>
        refine hskip (fun name' path' h => ?_) ?_
        · cases h
          exact hfile
        · simp [missing?, Reference.externalPath?, hfile]
      | false =>
        refine Or.inl ⟨name, path, ?_, [], references, rfl, ?_, hfile⟩
        · simp [missing?, Reference.externalPath?, hfile]
        · exact fun _ _ h => absurd h List.not_mem_nil

end Missing

/-- Making a scratch directory and writing the files of a crate in it. -/
def prepare (m : Machine) (sources : List Source) (references : List Reference) :
    Work CompileError Path := do
  let directory := m.freshPath (← getThe World) m.temporary scratchName
  Work.changing .system fun t => t.makeDirectory m.directory directory 0o700
  writeFiles m directory (Crate.files sources references)
  return directory

/-- The command that builds the crate in a directory. -/
def command (c : ModuleCompiler) (references : List Reference) (directory : Path) : Command where
  program := c.toolchain.compiler
  arguments := c.arguments (directory.join Crate.outputFile) references
  directory := some directory

section Preparing
variable (m : Machine) (sources : List Source) (references : List Reference)

theorem history_writeFiles (directory : Path) (files : List (String × String)) (w : World) :
    (ExceptT.run (writeFiles m directory files) w).2.history = w.history := by
  refine preserves_writeFiles m directory files (P := fun w' => w'.history = w.history) ?_ w rfl
  exact fun _ _ h _ _ _ => h

theorem history_prepare (w : World) :
    (ExceptT.run (prepare m sources references) w).2.history = w.history := by
  have hkept : (prepare m sources references).Preserves fun w' => w'.history = w.history := by
    refine Work.preserves_world fun w' h => ?_
    refine Work.preserves_bind (P := fun w' => w'.history = w.history) ?_ (fun _ => ?_) w' h
    · exact Work.preserves_changing fun _ _ h _ => h
    · refine Work.preserves_bind (fun w' h => ?_) fun _ => Work.preserves_pure _
      exact (history_writeFiles m _ _ w').trans h
  exact hkept w rfl

variable {m} in
theorem run_prepare {w : World} {directory : Path}
    (hpath : m.freshPath w m.temporary scratchName = directory) :
    ExceptT.run (prepare m sources references) w =
      match w.tree.makeDirectory m.directory directory 0o700 with
      | .error cause => (.error (.system cause), w)
      | .ok t =>
        match ExceptT.run (writeFiles m directory (Crate.files sources references))
          { w with tree := t } with
        | (.error e, w₁) => (.error e, w₁)
        | (.ok _, w₁) => (.ok directory, w₁) := by
  rw [prepare, Work.run_world_bind]
  simp only [hpath, Work.run_bind, Work.run_changing]
  cases w.tree.makeDirectory m.directory directory 0o700 with
  | error cause => rfl
  | ok t =>
    dsimp only
    rcases ExceptT.run (writeFiles m directory (Crate.files sources references))
      { w with tree := t } with ⟨_ | _, _⟩ <;> rfl

theorem writeFiles_error {directory : Path} {files : List (String × String)} {w w' : World}
    {e : CompileError} (h : ExceptT.run (writeFiles m directory files) w = (.error e, w')) :
    ∃ cause, e = .system cause := by
  induction files generalizing w with
  | nil => cases h
  | cons f files ih =>
    obtain ⟨name, text⟩ := f
    rw [writeFiles, Work.run_bind, Work.run_changing] at h
    cases hwrite : w.tree.write m.directory (directory.join name) (Text.Utf8.encode text) with
    | error cause =>
      rw [hwrite] at h
      exact ⟨cause, (Except.error.inj (Prod.mk.inj h).1).symm⟩
    | ok t =>
      rw [hwrite] at h
      exact ih h

end Preparing

/-- The compiler was run once, on the crate of the sources in a scratch directory. -/
structure RanIn (m : Machine) (c : ModuleCompiler) (sources : List Source)
    (references : List Reference) (w : World) (directory : Path) (r : Run) (w' : World) : Prop where
  prepared : ∃ w₁, (prepare m sources references).Gives w directory w₁ ∧ r.before = w₁.tree
  started : ∃ program, (c.command references directory).Starts m r.before program r.invocation ∧
    r.outcome = program r.invocation r.before
  history : w'.history = w.history ++ [r]

/-- The messages of the compiler, about the sources that it was given. -/
def messages (sources : List Source) (outcome : Outcome) : List Diagnostic :=
  CompilerReport.read (sourceMap sources) (Text.Utf8.decodeLossy outcome.errors)

/-- What is told behind the messages of a compiler that failed: nothing if there is an error among
them, and else that it failed. -/
inductive Closing (status : ExitStatus) (reported : List Diagnostic) : List Diagnostic → Prop
  | silent (herror : ∃ d ∈ reported, d.severity = .error) : Closing status reported []
  | told (hnone : ∀ d ∈ reported, d.severity ≠ .error) :
      Closing status reported [.error ("rustc failed with " ++ status.display)]

theorem exists_closing (status : ExitStatus) (reported : List Diagnostic) :
    ∃ closing, Closing status reported closing ∧
      rejection reported status = reported ++ closing := by
  rw [rejection]
  by_cases herror : reported.any Diagnostic.isError = true
  · refine ⟨[], .silent ?_, ?_⟩
    · simpa [Diagnostic.isError] using herror
    · rw [if_pos herror, List.append_nil]
  · refine ⟨_, .told ?_, if_neg herror⟩
    simpa [Diagnostic.isError] using herror

/-- The ways in which building ends once nothing is missing and the names are in order: before the
compiler, with the compiler not started, or after its only run. -/
inductive Ends (m : Machine) (c : ModuleCompiler) (sources : List Source)
    (references : List Reference) (w : World) : Compilation → World → Prop
  | unwritten {cause w₁ w'}
      (hprepare : ExceptT.run (prepare m sources references) w = (.error (.system cause), w₁))
      (hhistory : w'.history = w.history) :
      Ends m c sources references w ⟨[], .error (.system cause)⟩ w'
  | notStarted {directory w₁ cause w₂ w'}
      (hprepare : (prepare m sources references).Gives w directory w₁)
      (hrun : (c.command references directory).run m w₁ = (.error cause, w₂))
      (hhistory : w'.history = w.history) :
      Ends m c sources references w
        ⟨[], .error (.toolchain (.notStarted c.toolchain.compiler cause))⟩ w'
  | rejected {directory r w' closing} (hran : RanIn m c sources references w directory r w')
      (hstatus : r.outcome.status ≠ .exited 0)
      (hclosing : Closing r.outcome.status (messages sources r.outcome) closing) :
      Ends m c sources references w ⟨messages sources r.outcome ++ closing, .ok none⟩ w'
  | unread {directory r w' cause} (hran : RanIn m c sources references w directory r w')
      (hstatus : r.outcome.status = .exited 0)
      (hread : r.outcome.tree.read m.directory (directory.join Crate.outputFile) = .error cause) :
      Ends m c sources references w ⟨[], .error (.system cause)⟩ w'
  | built {directory r w' content} (hran : RanIn m c sources references w directory r w')
      (hstatus : r.outcome.status = .exited 0)
      (hread : r.outcome.tree.read m.directory (directory.join Crate.outputFile) = .ok content) :
      Ends m c sources references w ⟨[], .ok (some ⟨content⟩)⟩ w'

section Building
variable (m : Machine) (c : ModuleCompiler) (sources : List Source) (references : List Reference)

/-- What a build that ended told and came to. -/
def compilationOf : Except CompileError (List Diagnostic × Option CompiledModule) → Compilation
  | .ok (diagnostics, result) => ⟨diagnostics, .ok result⟩
  | .error e => ⟨[], .error e⟩

/-- What is made of a run of the compiler, or of its not being started. -/
def conclude (directory : Path) :
    Except SystemError Outcome → Work CompileError (List Diagnostic × Option CompiledModule)
  | .error cause => throw (.toolchain (.notStarted c.toolchain.compiler cause))
  | .ok outcome =>
    if outcome.status.isSuccess then do
      let content ← Work.reading .system fun t =>
        t.read m.directory (directory.join Crate.outputFile)
      return ([], some ⟨content⟩)
    else
      let report := Text.Utf8.decodeLossy outcome.errors
      return (rejection (CompilerReport.read (sourceMap sources) report) outcome.status, none)

theorem build_eq (directory : Path) :
    c.build m sources references directory = (do
      writeFiles m directory (Crate.files sources references)
      let ran ← Work.running m (c.command references directory)
      c.conclude m sources directory ran) := by
  rw [build]
  refine bind_congr fun _ => bind_congr fun ran => ?_
  cases ran <;> rfl

theorem run_running_bind {α ε : Type} (command : Command)
    (f : Except SystemError Outcome → Work ε α) (w : World) :
    ExceptT.run (Work.running m command >>= f) w =
      ExceptT.run (f (command.run m w).1) (command.run m w).2 := rfl

theorem run_conclude (directory : Path) (outcome : Outcome) (w : World) :
    ExceptT.run (c.conclude m sources directory (.ok outcome)) w =
      if outcome.status = .exited 0 then
        match w.tree.read m.directory (directory.join Crate.outputFile) with
        | .error cause => (.error (.system cause), w)
        | .ok content => (.ok ([], some ⟨content⟩), w)
      else
        (.ok (rejection (messages sources outcome) outcome.status, none), w) := by
  rw [conclude, ExitStatus.isSuccess]
  simp only [beq_iff_eq]
  split_ifs
  · rw [Work.run_bind, Work.run_reading]
    cases w.tree.read m.directory (directory.join Crate.outputFile) <;> rfl
  · rfl

/-- The scratch crate that was prepared is built, and cleared away at the end. -/
theorem run_buildInScratch (w : World) :
    (∃ cause w₁ w', ExceptT.run (prepare m sources references) w = (.error (.system cause), w₁) ∧
      ExceptT.run (c.buildInScratch m sources references) w = (.error (.system cause), w') ∧
      w'.history = w.history) ∨
    ∃ (directory : Path) (w₁ : World) (cleanup : World → World),
      (prepare m sources references).Gives w directory w₁ ∧
      (∀ w : World, (cleanup w).history = w.history) ∧
      ExceptT.run (c.buildInScratch m sources references) w =
        ((ExceptT.run (Work.running m (c.command references directory) >>=
            c.conclude m sources directory) w₁).1,
          cleanup (ExceptT.run (Work.running m (c.command references directory) >>=
            c.conclude m sources directory) w₁).2) := by
  have hhistory := history_prepare m sources references w
  obtain ⟨directory, hpath⟩ : ∃ directory, m.freshPath w m.temporary scratchName = directory :=
    ⟨_, rfl⟩
  have hprepared := run_prepare sources references hpath
  rw [buildInScratch, Work.run_world_bind]
  simp only [hpath, Work.run_bind, Work.run_changing, Work.run_ensuring, build_eq]
  cases hmake : w.tree.makeDirectory m.directory directory 0o700 with
  | error cause =>
    rw [hmake] at hprepared
    exact Or.inl ⟨cause, w, w, hprepared, rfl, rfl⟩
  | ok t =>
    rw [hmake] at hprepared
    dsimp only at hprepared ⊢
    rcases hwrite : ExceptT.run (writeFiles m directory (Crate.files sources references))
      { w with tree := t } with ⟨e | u, w₁⟩
    all_goals rw [hwrite] at hprepared
    · obtain ⟨cause, rfl⟩ := writeFiles_error m hwrite
      rw [hprepared] at hhistory
      exact Or.inl ⟨cause, w₁, _, hprepared, rfl, hhistory⟩
    · refine Or.inr ⟨directory, w₁,
        fun (w : World) => { w with tree := (w.tree.removeTree m.directory directory).2 },
        hprepared, fun _ => rfl, rfl⟩

theorem ends_buildInScratch (w : World) :
    Ends m c sources references w
      (compilationOf (ExceptT.run (c.buildInScratch m sources references) w).1)
      (ExceptT.run (c.buildInScratch m sources references) w).2 := by
  rcases run_buildInScratch m c sources references w with
    ⟨cause, w₁, w', hprepare, hbuild, hhistory⟩ |
      ⟨directory, w₁, cleanup, hprepare, hcleanup, hbuild⟩
  · rw [hbuild]
    exact .unwritten hprepare hhistory
  · have hbefore : w₁.history = w.history := by
      have hhistory := history_prepare m sources references w
      rwa [hprepare] at hhistory
    rw [hbuild, run_running_bind]
    rcases (c.command references directory).run_cases m w₁ with
      ⟨cause, w₂, hrun, _, hhistory⟩ | ⟨program, invocation, w₂, hstarts, hrun, htree, hhistory⟩
    · rw [hrun]
      exact .notStarted hprepare hrun ((hcleanup w₂).trans (hhistory.trans hbefore))
    · have hran : RanIn m c sources references w directory
          ⟨invocation, w₁.tree, program invocation w₁.tree⟩ (cleanup w₂) :=
        ⟨⟨w₁, hprepare, rfl⟩, ⟨program, hstarts, rfl⟩,
          (hcleanup w₂).trans (hbefore ▸ hhistory)⟩
      rw [hrun, run_conclude]
      split_ifs with hstatus
      · cases hread : w₂.tree.read m.directory (directory.join Crate.outputFile) with
        | error cause => exact .unread hran hstatus (htree ▸ hread)
        | ok content => exact .built hran hstatus (htree ▸ hread)
      · obtain ⟨closing, hclosing, hall⟩ := exists_closing (program invocation w₁.tree).status
          (messages sources (program invocation w₁.tree))
        have hends := Ends.rejected hran hstatus hclosing
        rw [hall]
        exact hends

variable (extra : List Reference)

/-- Compiling stops at a missing crate, at the problems with names, or at an end of building. -/
theorem compile_cases (w : World) :
    (∃ name path, FirstMissing m w.tree (c.baseline ++ extra) name path ∧
        c.compile m sources extra w = (⟨[], .error (.missingReference name path)⟩, w)) ∨
      (AllFiles m w.tree (c.baseline ++ extra) ∧
        Crate.validate sources (c.baseline ++ extra) ≠ [] ∧
        c.compile m sources extra w =
          (⟨Crate.validate sources (c.baseline ++ extra), .ok none⟩, w)) ∨
      (AllFiles m w.tree (c.baseline ++ extra) ∧
        Crate.validate sources (c.baseline ++ extra) = [] ∧
        Ends m c sources (c.baseline ++ extra) w (c.compile m sources extra w).1
          (c.compile m sources extra w).2) := by
  rw [compile]
  rcases missing?_cases m w.tree (c.baseline ++ extra) with
    ⟨name, path, hmissing, hfirst⟩ | ⟨hmissing, hall⟩
  · rw [hmissing]
    exact Or.inl ⟨name, path, hfirst, rfl⟩
  · rw [hmissing]
    dsimp only
    cases hproblems : Crate.validate sources (c.baseline ++ extra) with
    | cons d problems => exact Or.inr (Or.inl ⟨hall, List.cons_ne_nil d problems, rfl⟩)
    | nil =>
      have hends := ends_buildInScratch m c sources (c.baseline ++ extra) w
      refine Or.inr (Or.inr ⟨hall, rfl, ?_⟩)
      rcases hrun : ExceptT.run (c.buildInScratch m sources (c.baseline ++ extra)) w with
        ⟨_ | _, w'⟩
      all_goals
        rw [hrun] at hends
        exact hends

end Building

/-- The compiler is run on crates that are there and names that are in order, in a scratch
directory that was prepared. -/
theorem ran_of_ranIn {m : Machine} {c : ModuleCompiler} {sources : List Source}
    {extra : List Reference} {w : World} {Q : Run → Prop}
    (h : AllFiles m w.tree (c.baseline ++ extra) →
      Crate.validate sources (c.baseline ++ extra) = [] →
      ∀ directory r w', RanIn m c sources (c.baseline ++ extra) w directory r w' → Q r) :
    World.Ran Q w (c.compile m sources extra w).2 := by
  rcases compile_cases m c sources extra w with
    ⟨_, _, _, hcompile⟩ | ⟨_, _, hcompile⟩ | ⟨hall, hvalid, hends⟩
  · rw [hcompile]
    exact World.Ran.refl Q w
  · rw [hcompile]
    exact World.Ran.refl Q w
  · have hone {directory : Path} {r : Run} {w' : World}
        (hran : RanIn m c sources (c.baseline ++ extra) w directory r w') : World.Ran Q w w' :=
      ⟨[r], hran.history, List.forall_mem_singleton.mpr (h hall hvalid directory r w' hran)⟩
    revert hends
    rcases c.compile m sources extra w with ⟨compilation, w'⟩
    intro hends
    cases hends with
    | unwritten _ hhistory => exact World.ran_of_history_eq hhistory
    | notStarted _ _ hhistory => exact World.ran_of_history_eq hhistory
    | rejected hran _ _ => exact hone hran
    | unread hran _ _ => exact hone hran
    | built hran _ _ => exact hone hran

/-- Compiling tells of the first crate that is missing and of nothing else, or else of the problems
with names, or else what follows from how building ended. Sources without a module have been told
an error. -/
theorem compile_reports (m : Machine) (c : ModuleCompiler) (sources : List Source)
    (extra : List Reference) (w : World) :
    ((∃ name path, FirstMissing m w.tree (c.baseline ++ extra) name path ∧
          c.compile m sources extra w = (⟨[], .error (.missingReference name path)⟩, w)) ∨
        (AllFiles m w.tree (c.baseline ++ extra) ∧
          Crate.validate sources (c.baseline ++ extra) ≠ [] ∧
          c.compile m sources extra w =
            (⟨Crate.validate sources (c.baseline ++ extra), .ok none⟩, w)) ∨
        (AllFiles m w.tree (c.baseline ++ extra) ∧
          Crate.validate sources (c.baseline ++ extra) = [] ∧
          Ends m c sources (c.baseline ++ extra) w (c.compile m sources extra w).1
            (c.compile m sources extra w).2)) ∧
      ((c.compile m sources extra w).1.result = .ok none →
        ∃ d ∈ (c.compile m sources extra w).1.diagnostics, d.severity = .error) := by
  refine ⟨compile_cases m c sources extra w, fun hrejected => ?_⟩
  have herror := any_isError_compile m c sources extra w hrejected
  simpa [Diagnostic.isError] using herror

end TemplateBatch.ModuleCompiler
