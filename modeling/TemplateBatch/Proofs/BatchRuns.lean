import TemplateBatch.Pipeline
import TemplateBatch.Proofs.RunStages
import TemplateBatch.Proofs.StagingEffects

/-!
Which programs a batch runs, and what a worker finds when it is started. Every run that a batch adds
to the history is one of the compiler, of the formatter or of a worker. When it is a worker, the
module that its request names is there, with the content that was built.
-/
namespace TemplateBatch

open Staging (AddsStaged)
open FileTree (Agrees)

namespace Command

/-- The command starts the program with this invocation among the files of `t`. -/
structure Starts (m : Machine) (c : Command) (t : FileTree) (program : Program)
    (invocation : Invocation) : Prop where
  loaded : ∃ content, m.program content = .ok program
  arguments : invocation.arguments = c.arguments
  input : invocation.input = c.input
  directory : c.base m t = .ok invocation.directory

section Running
variable {m : Machine} {c : Command} {t : FileTree} {program : Program} {invocation : Invocation}

theorem starts_of_resolve (h : c.resolve m t = .ok (program, invocation)) :
    c.Starts m t program invocation := by
  simp only [resolve, bind, Except.bind] at h
  split at h
  · cases h
  · next directory hbase =>
    split at h
    · cases h
    · next found _ =>
      split at h
      · cases h
      · next _ _ =>
        split at h
        · cases h
        · next _ hprogram =>
          obtain ⟨rfl, rfl⟩ := Prod.mk.inj (Except.ok.inj h)
          exact ⟨⟨found.2, hprogram⟩, rfl, rfl, hbase⟩

/-- A command that is not started changes no file, and one that is ends up in the history. -/
theorem run_cases (m : Machine) (c : Command) (w : World) :
    (∃ e w', c.run m w = (.error e, w') ∧ w'.tree = w.tree ∧ w'.history = w.history) ∨
      ∃ program invocation w', c.Starts m w.tree program invocation ∧
        c.run m w = (.ok (program invocation w.tree), w') ∧
        w'.tree = (program invocation w.tree).tree ∧
        w'.history = w.history ++ [⟨invocation, w.tree, program invocation w.tree⟩] := by
  rw [run]
  split
  case isTrue => exact Or.inl ⟨_, _, rfl, rfl, rfl⟩
  case isFalse =>
    cases m.obstacle w.clock with
    | some e => exact Or.inl ⟨e, _, rfl, rfl, rfl⟩
    | none =>
      rcases hresolve : c.resolve m w.tree with e | ⟨program, invocation⟩
      · exact Or.inl ⟨e, _, rfl, rfl, rfl⟩
      · exact Or.inr ⟨program, invocation, _, starts_of_resolve hresolve, rfl, rfl, rfl⟩

end Running
end Command

/-- All runs between the worlds have `Q`. -/
def World.Ran (Q : Run → Prop) (w w' : World) : Prop :=
  ∃ runs, w'.history = w.history ++ runs ∧ ∀ r ∈ runs, Q r

namespace World

variable {Q Q' : Run → Prop} {w w' w'' : World}

theorem ran_of_history_eq (h : w'.history = w.history) : Ran Q w w' :=
  ⟨[], by rw [h, List.append_nil], fun _ hr => absurd hr List.not_mem_nil⟩

theorem Ran.refl (Q : Run → Prop) (w : World) : Ran Q w w := ran_of_history_eq rfl

theorem Ran.trans (h : Ran Q w w') (h' : Ran Q w' w'') : Ran Q w w'' := by
  obtain ⟨runs, hruns, hall⟩ := h
  obtain ⟨runs', hruns', hall'⟩ := h'
  refine ⟨runs ++ runs', by rw [hruns', hruns, List.append_assoc], ?_⟩
  exact List.forall_mem_append.mpr ⟨hall, hall'⟩

theorem Ran.mono (himp : ∀ r, Q r → Q' r) (h : Ran Q w w') : Ran Q' w w' := by
  obtain ⟨runs, hruns, hall⟩ := h
  exact ⟨runs, hruns, fun r hr => himp r (hall r hr)⟩

theorem history_trying (f : FileTree → Except SystemError FileTree) (w : World) :
    (w.trying f).history = w.history := by
  rw [trying]
  cases f w.tree <;> rfl

theorem ran_command {m : Machine} {c : Command}
    (h : ∀ program invocation, c.Starts m w.tree program invocation →
      Q ⟨invocation, w.tree, program invocation w.tree⟩) : Ran Q w (c.run m w).2 := by
  rcases c.run_cases m w with
    ⟨e, w', hrun, _, hhistory⟩ | ⟨program, invocation, w', hstarts, hrun, _, hhistory⟩
  · rw [hrun]
    exact ran_of_history_eq hhistory
  · rw [hrun]
    exact ⟨_, hhistory, List.forall_mem_singleton.mpr (h program invocation hstarts)⟩

/-- As long as all runs since `w₀` have `D`, the tree of `w` has `P`. -/
def Holds (D : Run → Prop) (P : FileTree → Prop) (w₀ w : World) : Prop :=
  ∃ runs, w.history = w₀.history ++ runs ∧ ((∀ r ∈ runs, D r) → P w.tree)

section Holding
variable {D : Run → Prop} {P P' P'' : FileTree → Prop}

theorem holds_refl (h : P w.tree) : Holds D P w w := ⟨[], (List.append_nil _).symm, fun _ => h⟩

theorem Holds.of_ran (h : Holds D P w w') (hran : Ran D w w') : P w'.tree := by
  obtain ⟨runs, hruns, htree⟩ := h
  obtain ⟨runs', hruns', hall⟩ := hran
  obtain rfl := List.append_cancel_left (hruns.symm.trans hruns')
  exact htree hall

theorem Holds.of_tree (h : Holds D P w w') (hhistory : w''.history = w'.history)
    (htree : P w'.tree → P' w''.tree) : Holds D P' w w'' := by
  obtain ⟨runs, hruns, hp⟩ := h
  exact ⟨runs, hhistory.trans hruns, fun hall => htree (hp hall)⟩

theorem Holds.trans (h : Holds D P w w') (h' : Holds D P' w' w'')
    (htree : P w'.tree → P' w''.tree → P'' w''.tree) : Holds D P'' w w'' := by
  obtain ⟨runs, hruns, hp⟩ := h
  obtain ⟨runs', hruns', hp'⟩ := h'
  refine ⟨runs ++ runs', by rw [hruns', hruns, List.append_assoc], fun hall => ?_⟩
  obtain ⟨hfirst, hsecond⟩ := List.forall_mem_append.mp hall
  exact htree (hp hfirst) (hp' hsecond)

theorem Holds.command {m : Machine} {c : Command} (h : Holds D P w w')
    (hrun : ∀ program invocation, c.Starts m w'.tree program invocation →
      D ⟨invocation, w'.tree, program invocation w'.tree⟩ → P w'.tree →
      P (program invocation w'.tree).tree) : Holds D P w (c.run m w').2 := by
  rcases c.run_cases m w' with
    ⟨e, w'', hfailed, htree, hhistory⟩ | ⟨program, invocation, w'', hstarts, hran, htree, hhistory⟩
  · rw [hfailed]
    exact h.of_tree hhistory fun hp => htree ▸ hp
  · obtain ⟨runs, hruns, hp⟩ := h
    rw [hran]
    refine ⟨runs ++ [_], by rw [hhistory, hruns, List.append_assoc], fun hall => ?_⟩
    obtain ⟨hfirst, hlast⟩ := List.forall_mem_append.mp hall
    rw [htree]
    exact hrun program invocation hstarts (hlast _ List.mem_cons_self) (hp hfirst)

end Holding
end World

/-- The run is one of a program of the machine, which was given these arguments. -/
structure Run.OfProgram (m : Machine) (arguments : List String) (r : Run) : Prop where
  program : ∃ content program, m.program content = .ok program ∧
    r.outcome = program r.invocation r.before
  arguments : r.invocation.arguments = arguments

theorem World.ran_ofProgram (m : Machine) (c : Command) (w : World) :
    Ran (Run.OfProgram m c.arguments) w (c.run m w).2 := by
  refine ran_command fun program invocation hstarts => ?_
  obtain ⟨content, hprogram⟩ := hstarts.loaded
  exact ⟨⟨content, program, hprogram, rfl⟩, hstarts.arguments⟩

namespace ModuleCompiler

theorem arguments_ne_nil (c : ModuleCompiler) (output : Path) (references : List Reference) :
    c.arguments output references ≠ [] := by
  simp [arguments]

section Compiling
variable (m : Machine) (c : ModuleCompiler) (sources : List Source) (references : List Reference)

theorem preserves_writeFiles (directory : Path) (files : List (String × String)) {P : World → Prop}
    (h : ∀ w t, P w → ∀ f ∈ files,
      w.tree.write m.directory (directory.join f.1) (Text.Utf8.encode f.2) = .ok t →
      P { w with tree := t }) : (writeFiles m directory files).Preserves P := by
  induction files with
  | nil => exact Work.preserves_pure ()
  | cons f files ih =>
    obtain ⟨name, text⟩ := f
    refine Work.preserves_bind (Work.preserves_changing fun w t hw ht => ?_) fun _ => ih ?_
    · exact h w t hw _ List.mem_cons_self ht
    · exact fun w t hw f hf => h w t hw f (List.mem_cons_of_mem _ hf)

theorem preserves_build (directory : Path) {P : World → Prop}
    (hwrite : ∀ w t, P w → ∀ f ∈ Crate.files sources references,
      w.tree.write m.directory (directory.join f.1) (Text.Utf8.encode f.2) = .ok t →
      P { w with tree := t })
    (hrun : ∀ w, P w →
      P (Command.run m
        { program := c.toolchain.compiler
          arguments := c.arguments (directory.join Crate.outputFile) references
          directory := some directory } w).2) :
    (c.build m sources references directory).Preserves P := by
  refine Work.preserves_bind (preserves_writeFiles m directory _ hwrite) fun _ => ?_
  refine Work.preserves_bind (Work.preserves_running hrun) fun r => ?_
  cases r with
  | error cause => exact Work.preserves_throw _
  | ok outcome =>
    dsimp only
    split
    case isTrue =>
      exact Work.preserves_bind (Work.preserves_reading _ _) fun _ => Work.preserves_pure _
    case isFalse => exact Work.preserves_pure _

theorem ran_compile (extra : List Reference) (w₀ : World) :
    World.Ran (fun r => ∃ output references, r.OfProgram m (c.arguments output references)) w₀
      (c.compile m sources extra w₀).2 := by
  have hbuild : (c.buildInScratch m sources (c.baseline ++ extra)).Preserves
      (World.Ran (fun r => ∃ output references, r.OfProgram m (c.arguments output references))
        w₀) := by
    refine Work.preserves_world fun w hw => ?_
    refine Work.preserves_bind (Work.preserves_changing fun w t hw _ => hw) (fun _ => ?_) w hw
    refine Work.preserves_ensuring ?_ fun w hw => hw
    refine preserves_build m c sources _ _ (fun w t hw _ _ _ => hw) fun w hw => hw.trans ?_
    exact (World.ran_ofProgram m _ w).mono fun r hr => ⟨_, _, hr⟩
  have hran := hbuild w₀ (World.Ran.refl _ w₀)
  rw [compile]
  split
  case h_1 => exact World.Ran.refl _ w₀
  case h_2 =>
    split
    case h_1 =>
      rcases hrun : (c.buildInScratch m sources (c.baseline ++ extra)).run w₀ with ⟨_ | _, w⟩
      all_goals rwa [hrun] at hran
    case h_2 => exact World.Ran.refl _ w₀

end Compiling
end ModuleCompiler

namespace Launch

variable {σ α ε : Type}

/-- Where an attempt ends: in a state with `R` if it succeeds, and else in one with `Q`. -/
def Lands (Q R : σ → Prop) : Except ε α × σ → Prop
  | (.ok _, s) => R s
  | (.error _, s) => Q s

section Attempts
variable {attempt : σ → Except SystemError α × σ} {restage : σ → Except ε Unit × σ}
  {Q R : σ → Prop} {s : σ}

theorem lands_round (hattempt : ∀ s, Q s → Lands Q R (attempt s)) (h : Q s) (left : ℕ) :
    Lands Q R (round attempt left s) := by
  induction left generalizing s with
  | zero => exact hattempt s h
  | succ left ih =>
    have hlands := hattempt s h
    rw [round]
    split
    case h_1 hbusy =>
      rw [hbusy] at hlands
      exact ih hlands
    case h_2 => exact hlands

theorem lands_ended {r : Except SystemError α × σ} (h : Lands Q R r) :
    Lands Q R (ended r : Except (Failure ε) α × σ) := by
  rcases r with ⟨_ | _, _⟩ <;> exact h

/-- Every attempt but one that succeeds leaves the state in which the next may be made. -/
theorem lands_start (hattempt : ∀ s, Q s → Lands Q R (attempt s))
    (hrestage : ∀ s, Q s → Q (restage s).2) (h : Q s) : Lands Q R (start attempt restage s) := by
  have hround := lands_round hattempt h retries
  rw [start]
  split
  case h_1 s₁ hgone =>
    rw [hgone] at hround
    have hs := hrestage s₁ hround
    rcases hrestaged : restage s₁ with ⟨_ | _, s₂⟩
    all_goals rw [hrestaged] at hs
    · exact hs
    · exact lands_ended (lands_round hattempt hs retries)
  case h_2 => exact lands_ended hround

end Attempts
end Launch

namespace Runner

/-- What a request comes to: staging goes on for a while, and then a worker is started on the line
or it is not. -/
inductive Serves (m : Machine) (s : Staging.Stager) (line : String) (w w' : World) : Prop
  | idle (hadds : AddsStaged m s.layout s.bundle w.tree w'.tree)
      (hhistory : w'.history = w.history) : Serves m s line w w'
  | started {t program invocation content}
      (hadds : AddsStaged m s.layout s.bundle w.tree t)
      (hprogram : m.program content = .ok program) (harguments : invocation.arguments = [])
      (hinput : invocation.input = Text.Utf8.encode line)
      (hdirectory : invocation.directory = m.directory)
      (htree : w'.tree = (program invocation t).tree)
      (hhistory : w'.history = w.history ++ [⟨invocation, t, program invocation t⟩]) :
      Serves m s line w w'

theorem Serves.after {m : Machine} {s s' : Staging.Stager} {line : String} {w w₁ w' : World}
    (hadds : AddsStaged m s.layout s.bundle w.tree w₁.tree) (hhistory : w₁.history = w.history)
    (hstager : s'.layout = s.layout ∧ s'.bundle = s.bundle) (h : Serves m s' line w₁ w') :
    Serves m s line w w' := by
  obtain ⟨hlayout, hbundle⟩ := hstager
  cases h with
  | idle hadds' hhistory' =>
    rw [hlayout, hbundle] at hadds'
    exact .idle (hadds.trans hadds') (hhistory'.trans hhistory)
  | started hadds' hprogram harguments hinput hdirectory htree hhistory' =>
    rw [hlayout, hbundle] at hadds'
    rw [hhistory] at hhistory'
    exact .started (hadds.trans hadds') hprogram harguments hinput hdirectory htree hhistory'

/-- The run is one of a worker that was asked for a module, with the libraries in `references`, and
found it where the request says. -/
structure Serving (m : Machine) (built : CompiledModule) (references : List Path) (r : Run) :
    Prop where
  directory : r.invocation.directory = m.directory
  request : ∃ path, r.invocation.input = Text.Utf8.encode (Request.toLine ⟨path, references⟩) ∧
    r.before.read m.directory path = .ok built.content

section Runs
variable (m : Machine) (r : Runner)

theorem serves_exchange (line : String) (w : World) :
    Serves m r.stager line w (r.exchange m line w).2 := by
  let Q : World → Prop := fun w' =>
    AddsStaged m r.stager.layout r.stager.bundle w.tree w'.tree ∧ w'.history = w.history
  have hattempt : ∀ w', Q w' →
      Launch.Lands Q (Serves m r.stager line w) ((r.workerCommand line).run m w') := by
    intro w' ⟨hadds, hhistory⟩
    rcases (r.workerCommand line).run_cases m w' with
      ⟨e, w'', hrun, htree, hsame⟩ | ⟨program, invocation, w'', hstarts, hrun, htree, hruns⟩
    · rw [hrun]
      exact ⟨htree ▸ hadds, hsame.trans hhistory⟩
    · rw [hrun]
      obtain ⟨content, hprogram⟩ := hstarts.loaded
      exact .started hadds hprogram hstarts.arguments hstarts.input
        (Except.ok.inj hstarts.directory).symm htree (hhistory ▸ hruns)
  have hlands : ∀ {restage : World → Except Staging.StageError Unit × World} {launched},
      (∀ w', (restage w').2 = (ExceptT.run (r.stager.restage m) w').2) →
      Launch.start ((r.workerCommand line).run m) restage w = launched →
      Launch.Lands Q (Serves m r.stager line w) launched := by
    rintro restage _ hrestage rfl
    refine Launch.lands_start hattempt (fun w' hw' => ?_) ⟨.of_agrees (Agrees.refl _), rfl⟩
    rw [hrestage]
    exact r.stager.preserves_restage w w' hw'
  unfold exchange
  dsimp only
  split
  case h_1 hstart =>
    refine hlands (fun w' => ?_) hstart
    rcases ExceptT.run (r.stager.restage m) w' with ⟨_ | _, _⟩ <;> rfl
  case h_2 hstart =>
    obtain ⟨hadds, hhistory⟩ : Q _ := by
      refine hlands (fun w' => ?_) hstart
      rcases ExceptT.run (r.stager.restage m) w' with ⟨_ | _, _⟩ <;> rfl
    exact .idle hadds hhistory

theorem serves_runFile (path : Path) (references : List Path) (w : World) :
    Serves m r.stager (Request.toLine ⟨path, references⟩) w
      (ExceptT.run (r.runFile m path references) w).2 := by
  obtain ⟨hadds, hhistory⟩ := r.stager.preserves_stage w w ⟨.of_agrees (Agrees.refl _), rfl⟩
  rw [runFile, Work.run_bind, Work.run_mapError]
  rcases hstage : ExceptT.run (r.stager.stage m) w with ⟨e | s, w₁⟩
  all_goals
    rw [hstage] at hadds hhistory
    dsimp only [Except.mapError]
  · exact .idle hadds hhistory
  · have hstager := r.stager.yields_stage w s (congrArg Prod.fst hstage)
    rw [Work.run_bind, ExceptT.run_mk]
    dsimp only
    rw [Work.run_pure]
    exact (serves_exchange m { r with stager := s } _ w₁).after hadds hhistory hstager

end Runs

section Modules
variable {m : Machine} {content : Bytes} {path : Path} {l : Location}

theorem Written.read_of_kept {t t' t'' : FileTree} (h : Written m content path l t t')
    (hkeeps : FileTree.KeepsWays t' t'') (hnode : t''.node? l = t'.node? l) :
    t''.read m.directory path = .ok content := by
  have hfile : t''.node? l = some (.file content Staging.temporaryMode) := by
    rw [hnode, h.adds.nodes, if_pos rfl]
  have hnames := (h.names.of_keepsWays h.adds.keepsWays).of_keepsWays hkeeps
  rw [FileTree.read, FileTree.find_file hnames hfile]
  rfl

theorem preserves_writeModule (content : Bytes) (w₀ : World) :
    (writeModule m content).Preserves fun w => w.history = w₀.history := by
  refine Work.preserves_world fun w hw =>
    Work.preserves_bind (P := fun w => w.history = w₀.history) ?_ (fun _ => ?_) w hw
  · exact Work.preserves_changing fun _ _ hw _ => hw
  · refine Work.preserves_bind ?_ fun _ => Work.preserves_pure _
    refine Work.preserves_recovering (Work.preserves_changing fun _ _ hw _ => hw) fun w hw => ?_
    rw [World.history_trying, hw]

/-- A run either changes nothing, or it has written its module, served the request for it and
removed it. -/
theorem run_cases (m : Machine) (r : Runner) (built : CompiledModule) (references : List Path)
    (w : World) :
    (ExceptT.run (r.run m built references) w).2 = w ∨
      ∃ path l w₁ w₂, Written m built.content path l w.tree w₁.tree ∧ w₁.history = w.history ∧
        Serves m r.stager (Request.toLine ⟨path, references⟩) w₁ w₂ ∧
        (ExceptT.run (r.run m built references) w).2 =
          World.trying (fun t => t.removeFile m.directory path) w₂ := by
  rw [run, Work.run_bind]
  rcases writeModule_cases m built.content w with ⟨path, l, w₁, hwrite, hwritten⟩ | ⟨e, hrefused⟩
  · have hhistory : (ExceptT.run (writeModule m built.content) w).2.history = w.history :=
      preserves_writeModule built.content w w rfl
    rw [show ExceptT.run (writeModule m built.content) w = _ from hwrite] at hhistory ⊢
    exact Or.inr ⟨path, l, w₁, _, hwritten, hhistory, r.serves_runFile m path references w₁, rfl⟩
  · rw [hrefused]
    exact Or.inl rfl

/-- The worker of a run is started while the module is there. -/
theorem ran_run (m : Machine) (r : Runner) (built : CompiledModule) (references : List Path)
    (w : World) :
    World.Ran (fun s => s.OfProgram m [] ∧ Serving m built references s) w
      (ExceptT.run (r.run m built references) w).2 := by
  rcases r.run_cases m built references w with
    hsame | ⟨path, l, w₁, w₂, hwritten, hhistory, hserves, hend⟩
  · rw [hsame]
    exact World.Ran.refl _ w
  · rw [hend]
    refine World.Ran.trans ?_ (World.ran_of_history_eq (World.history_trying _ w₂))
    cases hserves with
    | idle _ hidle => exact World.ran_of_history_eq (hidle.trans hhistory)
    | started hadds hprogram harguments hinput hdirectory _ hruns =>
      refine ⟨_, hhistory ▸ hruns, List.forall_mem_singleton.mpr
        ⟨⟨⟨_, _, hprogram, rfl⟩, harguments⟩, hdirectory, path, hinput, ?_⟩⟩
      exact hwritten.read_of_kept hadds.keepsWays ((hadds l).resolve_right fun h => by
        rw [hwritten.adds.nodes, if_pos rfl] at h
        cases h.1)

end Modules
end Runner

namespace Pipeline

/-- What the formatter is given besides the text. -/
def formatArguments (edition : String) : List String := ["--edition", edition, "--emit", "stdout"]

section Formatting
variable (m : Machine) (p : Pipeline)

def formatCommand (formatter : Path) (edition text : String) : Command where
  program := formatter
  arguments := formatArguments edition
  input := Text.Utf8.encode text

theorem formatText_snd (formatter : Path) (edition text : String) (w : World) :
    (formatText m formatter edition text w).2 =
      ((formatCommand formatter edition text).run m w).2 := by
  rw [formatText]
  split
  case h_1 ended w' hrun =>
    have hw : ((formatCommand formatter edition text).run m w).2 = w' := congrArg Prod.snd hrun
    rw [hw]
    split <;> rfl
  case h_2 hrun => exact (congrArg Prod.snd hrun).symm

theorem ran_formatText (formatter : Path) (edition text : String) (w : World) :
    World.Ran (Run.OfProgram m (formatArguments edition)) w
      (formatText m formatter edition text w).2 := by
  rw [formatText_snd]
  exact World.ran_ofProgram m _ w

theorem ran_formatOutputs (formatter : Path) (edition : String) (outputs : List RenderedOutput)
    (w : World) :
    World.Ran (Run.OfProgram m (formatArguments edition)) w
      (formatOutputs m formatter edition outputs w).2 := by
  induction outputs generalizing w with
  | nil => exact World.Ran.refl _ w
  | cons o os ih => exact (ran_formatText m formatter edition o.text w).trans (ih _)

theorem ran_format (report : BatchReport) (w : World) :
    World.Ran (Run.OfProgram m (formatArguments p.compiler.options.edition)) w
      (p.format m report w).2 := by
  rw [format]
  split
  case isTrue => exact ran_formatOutputs m _ _ _ w
  case isFalse => exact World.Ran.refl _ w

end Formatting

section Batches
variable (m : Machine) (p : Pipeline) (templates : List Template) (w : World)

/-- A batch without templates changes nothing, and one without a module ends with the compiler. -/
theorem renderBatch_cases :
    let compiled := p.compiler.compile m (templates.map Template.source) p.references w
    let w' := (ExceptT.run (p.renderBatch m templates) w).2
    (templates = [] ∧ w' = w) ∨
    (templates ≠ [] ∧ (∀ built, compiled.1.result ≠ .ok (some built)) ∧ w' = compiled.2) ∨
    (templates ≠ [] ∧ ∃ built report, compiled.1.result = .ok (some built) ∧
      w' = (ExceptT.run (p.renderModule m templates built report) compiled.2).2) := by
  intro compiled w'
  by_cases hempty : templates = []
  · refine Or.inl ⟨hempty, ?_⟩
    dsimp only [w']
    rw [renderBatch, if_pos hempty]
    rfl
  · refine Or.inr ?_
    rcases hcompile : p.compiler.compile m (templates.map Template.source) p.references w with
      ⟨⟨diagnostics, result⟩, w₁⟩
    dsimp only [w', compiled]
    rw [renderBatch, if_neg hempty, Work.run_world_bind, hcompile]
    dsimp only
    rw [Work.run_set_bind]
    rcases result with e | _ | built
    · exact Or.inl ⟨hempty, fun _ h => (by cases h), rfl⟩
    · exact Or.inl ⟨hempty, fun _ h => (by cases h), rfl⟩
    · exact Or.inr ⟨hempty, built, _, rfl, rfl⟩

/-- A module that was built is run, and what comes of it is formatted. -/
theorem renderModule_cases (built : CompiledModule) (report : BatchReport) :
    let ran := ExceptT.run (p.runner.run m built p.runtimePaths) w
    let w' := (ExceptT.run (p.renderModule m templates built report) w).2
    w' = ran.2 ∨ ∃ runner report', w' = (format m { p with runner } report' ran.2).2 := by
  intro ran w'
  rcases hran : ExceptT.run (p.runner.run m built p.runtimePaths) w with
    ⟨e | ⟨outcome, runner⟩, w₁⟩
  all_goals
    dsimp only [w', ran]
    rw [renderModule, Work.run_bind, Work.run_mapError, hran]
    dsimp only [Except.mapError]
  · exact Or.inl rfl
  · rw [Work.run_world_bind]
    exact Or.inr ⟨runner, _, rfl⟩

/-- A run that belongs to a batch. -/
inductive BatchRun (r : Run) : Prop
  | compiling {output references}
      (hprogram : r.OfProgram m (p.compiler.arguments output references)) : BatchRun r
  | serving {built} (hprogram : r.OfProgram m [])
      (hbuilt : (p.compiler.compile m (templates.map Template.source) p.references w).1.result =
        .ok (some built))
      (hserving : Runner.Serving m built p.runtimePaths r) : BatchRun r
  | formatting (hprogram : r.OfProgram m (formatArguments p.compiler.options.edition)) :
      BatchRun r

/-- A batch runs the compiler and the formatter, and a worker once there is a module. -/
theorem ran_renderBatch :
    World.Ran (BatchRun m p templates w) w (ExceptT.run (p.renderBatch m templates) w).2 := by
  have hcompile : World.Ran (BatchRun m p templates w) w
      (p.compiler.compile m (templates.map Template.source) p.references w).2 :=
    (p.compiler.ran_compile m _ _ w).mono fun r ⟨_, _, hr⟩ => .compiling hr
  rcases renderBatch_cases m p templates w with
    ⟨_, hw⟩ | ⟨_, _, hw⟩ | ⟨_, built, report, hbuilt, hw⟩
  · rw [hw]
    exact World.Ran.refl _ w
  · rw [hw]
    exact hcompile
  · rw [hw]
    have hrun := hcompile.trans ((p.runner.ran_run m built p.runtimePaths _).mono
      fun r hr => .serving hr.1 hbuilt hr.2)
    rcases renderModule_cases m p templates _ built report with hend | ⟨runner, report', hend⟩
    · rw [hend]
      exact hrun
    · rw [hend]
      exact hrun.trans ((ran_format m _ _ _).mono fun r hr => .formatting hr)

variable {m p templates w} in
/-- A worker is told by having no arguments. -/
theorem BatchRun.exists_serving {r : Run} (h : BatchRun m p templates w r)
    (hnone : r.invocation.arguments = []) :
    ∃ built, (p.compiler.compile m (templates.map Template.source) p.references w).1.result =
      .ok (some built) ∧ Runner.Serving m built p.runtimePaths r := by
  cases h with
  | compiling hprogram =>
    exact absurd (hprogram.arguments.symm.trans hnone) (p.compiler.arguments_ne_nil _ _)
  | serving _ hbuilt hserving => exact ⟨_, hbuilt, hserving⟩
  | formatting hprogram => cases hprogram.arguments.symm.trans hnone

end Batches
end Pipeline
end TemplateBatch
