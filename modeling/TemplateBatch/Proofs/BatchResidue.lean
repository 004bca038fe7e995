import TemplateBatch.Proofs.Delivery
import TemplateBatch.Proofs.ScratchCrate

/-!
What a batch leaves behind. The scratch crate and the file of the module are gone when it ends,
however it ends, and the formatter leaves nothing. What stays is what staging put there: the
directories that were missing and the two staged files.
-/
namespace TemplateBatch

open Staging (AddsStaged Layout Placed)
open FileTree (Agrees KeepsWays)

namespace Runner

section Modules
variable {m : Machine} {layout : Layout} {bundle : Bundle} {content : Bytes} {path : Path}
  {l : Location} {t : FileTree} {w₁ w₂ : World}

/-- A module that is removed leaves what was staged while it was there. -/
theorem Written.addsStaged_trying (h : Written m content path l t w₁.tree)
    (hadds : AddsStaged m layout bundle w₁.tree w₂.tree) :
    AddsStaged m layout bundle t (w₂.trying fun t => t.removeFile m.directory path).tree := by
  have hfile : w₁.tree.node? l = some (.file content Staging.temporaryMode) := by
    rw [h.adds.nodes, if_pos rfl]
  have hnames : w₂.tree.Names m.directory path l :=
    (h.names.of_keepsWays h.adds.keepsWays).of_keepsWays hadds.keepsWays
  have hl := FileTree.ne_nil_of_free h.adds.free
  have htree : (w₂.trying fun t => t.removeFile m.directory path).tree = w₂.tree.erase l := by
    rw [World.trying, FileTree.removeFile_file hnames h.isFile (hadds.kept hfile)]
  have hkeeps : KeepsWays w₂.tree (w₂.tree.erase l) := by
    intro l' n hn hway
    rw [FileTree.node?_erase _ _ _ hl, if_neg, hn]
    rintro rfl
    rw [hadds.kept hfile] at hn
    obtain rfl := Option.some.inj hn
    exact hway
  rw [htree]
  intro l'
  rw [FileTree.node?_erase _ _ _ hl]
  split_ifs with hl'
  · exact Or.inl (hl' ▸ h.adds.free.symm)
  · have hnode : w₁.tree.node? l' = t.node? l' := by rw [h.adds.nodes, if_neg hl']
    rcases hadds l' with hsame | ⟨hfree, hplaced⟩
    · exact Or.inl (hsame.trans hnode)
    · refine Or.inr ⟨hnode ▸ hfree, hplaced.of_keepsWays hkeeps ?_⟩
      rw [FileTree.node?_erase _ _ _ hl, if_neg hl']

/-- A run adds what staging does, and nothing else if its worker is discreet. -/
theorem holds_run (m : Machine) (r : Runner) (c : ModuleCompiler) (built : CompiledModule)
    (references : List Path) (w : World) :
    World.Holds (Run.Discreet c) (AddsStaged m r.stager.layout r.stager.bundle w.tree) w
      (ExceptT.run (r.run m built references) w).2 := by
  rcases r.run_cases m built references w with
    hsame | ⟨path, l, w₁, w₂, hwritten, hhistory, hserves, hend⟩
  · rw [hsame]
    exact World.holds_refl (.of_agrees (Agrees.refl _))
  · rw [hend]
    have hremoved := World.history_trying (fun t => t.removeFile m.directory path) w₂
    cases hserves with
    | idle hadds hidle =>
      exact ⟨[], by rw [hremoved, hidle, hhistory, List.append_nil],
        fun _ => hwritten.addsStaged_trying hadds⟩
    | @started t program invocation _ hadds _ harguments _ _ htree hruns =>
      refine ⟨_, by rw [hremoved, hruns, hhistory], fun hall => ?_⟩
      have hdiscreet := List.forall_mem_singleton.mp hall
      have hagrees : Agrees t (program invocation t).tree :=
        hdiscreet.agrees fun output references heq =>
          c.arguments_ne_nil output references (heq.symm.trans harguments)
      rw [← htree] at hagrees
      exact hwritten.addsStaged_trying (hadds.trans (.of_agrees hagrees))

end Modules
end Runner

namespace Pipeline

section Formatting
variable (m : Machine) (c : ModuleCompiler)

theorem formatArguments_ne (edition : String) (output : Path) (references : List Reference) :
    formatArguments edition ≠ c.arguments output references := by
  intro h
  exact absurd (List.cons.inj h).1 (by decide)

theorem holds_formatOutputs (formatter : Path) (edition : String) (outputs : List RenderedOutput)
    (w : World) :
    World.Holds (Run.Discreet c) (Agrees w.tree) w
      (formatOutputs m formatter edition outputs w).2 := by
  induction outputs generalizing w with
  | nil => exact World.holds_refl (Agrees.refl _)
  | cons o os ih =>
    have hone : World.Holds (Run.Discreet c) (Agrees w.tree) w
        (formatText m formatter edition o.text w).2 := by
      rw [formatText_snd]
      refine (World.holds_refl (Agrees.refl _)).command fun program invocation hstarts hrun _ => ?_
      refine hrun.agrees fun output references heq => ?_
      exact formatArguments_ne c edition output references (hstarts.arguments.symm.trans heq)
    exact hone.trans (ih _) fun h h' => h.trans h'

theorem holds_format (p : Pipeline) (report : BatchReport) (w : World) :
    World.Holds (Run.Discreet c) (Agrees w.tree) w (p.format m report w).2 := by
  rw [format]
  split
  case isTrue => exact holds_formatOutputs m c _ _ _ w
  case isFalse => exact World.holds_refl (Agrees.refl _)

end Formatting

section Batches
variable (m : Machine) (p : Pipeline) (templates : List Template) (w : World)

theorem holds_renderModule (built : CompiledModule) (report : BatchReport) :
    World.Holds (Run.Discreet p.compiler)
      (AddsStaged m p.runner.stager.layout p.runner.stager.bundle w.tree) w
      (ExceptT.run (p.renderModule m templates built report) w).2 := by
  have hrun := p.runner.holds_run m p.compiler built p.runtimePaths w
  rcases renderModule_cases m p templates w built report with hend | ⟨runner, report', hend⟩
  · rw [hend]
    exact hrun
  · rw [hend]
    exact hrun.trans (holds_format m p.compiler _ _ _) fun h h' => h.trans (.of_agrees h')

end Batches

namespace ResidueSample

open CommandLine.Sample (machine world templates places)

/-- The worker is staged two directories down, of which there is none. -/
def pipeline : Pipeline :=
  { CommandLine.Sample.pipeline with
    runner := ⟨⟨⟨⟨"/a/s"⟩⟩, CommandLine.Sample.bundle, false⟩, none⟩ }

def rendered : FileTree :=
  ⟨places ++ [(["a"], .directory 0o755), (["s", "a"], .directory 0o755),
    (["rendergen-worker", "s", "a"], .file [2] 0o755),
    (["rendergen-worker.runtimeconfig.json", "s", "a"],
      .file (Text.Utf8.encode Embedded.runConfiguration) 0o600)]⟩

theorem tree_rendered :
    (ExceptT.run (pipeline.renderBatch machine templates) world).2.tree = rendered := by
  decide +kernel

theorem connected_world : world.tree.Connected :=
  FileTree.connected_of_entries (by decide)

section Programs
variable {r : Run} {arguments : List String}

/-- Either program leaves the files alone, or the compiler was asked for a module. -/
theorem program_cases (h : r.OfProgram machine arguments) :
    r.outcome.tree = r.before ∨ r.outcome = CommandLine.Sample.compiler r.invocation r.before := by
  obtain ⟨⟨content, program, hprogram, houtcome⟩, _⟩ := h
  obtain rfl := Except.ok.inj hprogram
  by_cases hcontent : content = [1]
  · exact Or.inr (by rw [houtcome, if_pos hcontent])
  · exact Or.inl (by rw [houtcome, if_neg hcontent, CommandLine.Sample.worker])

theorem discreet_of_silent (h : r.OfProgram machine arguments)
    (hnone : arguments.dropWhile (· != "-o") = []) : r.Discreet pipeline.compiler := by
  intro l
  rcases program_cases h with hsame | hcompiler
  · exact Or.inl (by rw [hsame])
  · refine Or.inl ?_
    rw [hcompiler, CommandLine.Sample.compiler, h.arguments, hnone]

theorem discreet_of_compiling {output : Path} {references : List Reference}
    (h : r.OfProgram machine (pipeline.compiler.arguments output references)) :
    r.Discreet pipeline.compiler := by
  obtain ⟨rest, hrest⟩ : ∃ rest, (pipeline.compiler.arguments output references).dropWhile
      (· != "-o") = "-o" :: output.text :: rest := ⟨_, rfl⟩
  intro l
  rcases program_cases h with hsame | hcompiler
  · exact Or.inl (by rw [hsame])
  · rw [hcompiler, CommandLine.Sample.compiler, h.arguments, hrest]
    dsimp only
    cases hwrite : r.before.write r.invocation.directory ⟨output.text⟩ [] with
    | error e => exact Or.inl rfl
    | ok t =>
      refine (FileTree.node?_of_write hwrite l).imp_right fun ⟨n, mode, hlocate, hfile⟩ => ?_
      exact ⟨output, references, n, [], mode, rfl, hlocate, hfile⟩

end Programs

theorem ran_discreet :
    World.Ran (Run.Discreet pipeline.compiler) world
      (ExceptT.run (pipeline.renderBatch machine templates) world).2 := by
  refine (ran_renderBatch machine pipeline templates world).mono fun r h => ?_
  cases h with
  | compiling hprogram => exact discreet_of_compiling hprogram
  | serving hprogram _ _ => exact discreet_of_silent hprogram rfl
  | formatting hprogram => exact discreet_of_silent hprogram rfl

end ResidueSample

end Pipeline
end TemplateBatch
