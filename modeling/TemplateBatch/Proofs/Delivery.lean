import TemplateBatch.CommandLine
import TemplateBatch.Proofs.BundledLibraries
import TemplateBatch.Proofs.OutputFiles
import Mathlib.Data.List.Forall2

/-!
What the command that renders a batch has done when it ends well. Every file that was listed and is
a template has its output in the directory that was asked for, with the text that the report has for
it. The report is what the command comes to before it writes anything.
-/
namespace TemplateBatch.CommandLine

/-- The work of a batch up to its report. A batch without templates has nothing to report. -/
def renderReport (m : Machine) (job : RenderJob) : Work Failure BatchReport := do
  let c ← loadConfiguration m job.configuration
  let b ← loadBundle m job.worker
  let templates ← loadTemplates m c.output.templateExtension job.files
  if templates = [] then return .empty 0
  let p ← Work.mapError .host (Pipeline.ofConfiguration m c b)
  let p := job.externals.foldl (fun p e => p.withReference (.external e.1 e.2)) p
  let (report, _) ← Work.mapError .host (p.renderBatch m templates)
  return report

theorem render_eq (m : Machine) (job : RenderJob) :
    render m job = do
      let report ← renderReport m job
      writeOutputs m job.outputDirectory report.outputs
      return reportEnding report job.json := by
  rw [render, renderReport]
  simp only [bind_assoc]
  apply bind_congr
  intro c
  apply bind_congr
  intro b
  apply bind_congr
  intro templates
  split
  · have hsilent : reportEnding (.empty 0) job.json = .silent := by cases job.json <;> rfl
    rw [pure_bind, hsilent]
    rfl
  · simp only [renderTemplates, bind_assoc, pure_bind]

section Reading
variable {m : Machine} {w w' : World}

theorem loadConfiguration_gives {path : Option Path} {c : Configuration}
    (h : (loadConfiguration m path).Gives w c w') : w' = w := by
  cases path with
  | none =>
    obtain ⟨c₀, w₁, hdefault, hoverride⟩ := Work.gives_bind.mp h
    exact (Work.gives_ofExcept.mp hoverride).2.trans (Work.gives_pure.mp hdefault).2
  | some p =>
    obtain ⟨_, _, hworld, hfile⟩ := Work.gives_bind.mp h
    obtain ⟨_, rfl⟩ := Work.gives_world.mp hworld
    obtain ⟨c₀, w₁, hload, hoverride⟩ := Work.gives_bind.mp hfile
    exact (Work.gives_ofExcept.mp hoverride).2.trans (Work.gives_ofExcept.mp hload).2

theorem loadBundle_gives {worker : Option Path} {b : Bundle}
    (h : (loadBundle m worker).Gives w b w') : w' = w := by
  have hworker : ∀ {b₀ : Bundle} {w₁ : World},
      (if b₀.hasWorker then pure b₀ else throw Failure.noWorker : Work Failure Bundle).Gives
        w₁ b w' → w' = w₁ := by
    intro b₀ w₁ hgives
    split at hgives
    case isTrue => exact (Work.gives_pure.mp hgives).2
    case isFalse => exact absurd hgives Work.not_gives_throw
  cases worker with
  | none =>
    obtain ⟨b₀, w₁, hembedded, hchecked⟩ := Work.gives_bind.mp h
    exact (hworker hchecked).trans (Work.gives_pure.mp hembedded).2
  | some p =>
    obtain ⟨content, w₁, hread, hrest⟩ := Work.gives_bind.mp h
    obtain ⟨_, rfl⟩ := Work.gives_reading.mp hread
    obtain ⟨b₀, w₂, hinserted, hchecked⟩ := Work.gives_bind.mp hrest
    exact (hworker hchecked).trans (Work.gives_pure.mp hinserted).2

/-- The files with their texts that are templates. -/
def candidates (extension : String) (files : List Path) (texts : List String) :
    List (Path × String) :=
  (files.zip texts).filter fun f => isTemplateCandidate f.1 f.2 extension

theorem loadTemplates_gives {extension : String} {files : List Path} {templates : List Template}
    (h : (loadTemplates m extension files).Gives w templates w') :
    w' = w ∧ ∃ texts,
      List.Forall₂ (fun p text => w.tree.readText m.directory p = .ok text) files texts ∧
      templates = (candidates extension files texts).map fun f => .ofCode f.1.text f.2 := by
  induction files generalizing templates w' with
  | nil =>
    obtain ⟨rfl, rfl⟩ := Work.gives_pure.mp h
    exact ⟨rfl, [], List.Forall₂.nil, rfl⟩
  | cons p files ih =>
    rw [loadTemplates] at h
    obtain ⟨text, w₁, hread, hrest⟩ := Work.gives_bind.mp h
    obtain ⟨htext, rfl⟩ := Work.gives_reading.mp hread
    obtain ⟨rest, w₂, hothers, hlast⟩ := Work.gives_bind.mp hrest
    obtain ⟨rfl, texts, hreads, rfl⟩ := ih hothers
    split at hlast
    case isTrue hcandidate =>
      obtain ⟨rfl, rfl⟩ := Work.gives_pure.mp hlast
      refine ⟨rfl, text :: texts, List.Forall₂.cons htext hreads, ?_⟩
      simp [candidates, hcandidate]
    case isFalse hother =>
      obtain ⟨rfl, rfl⟩ := Work.gives_pure.mp hlast
      refine ⟨rfl, text :: texts, List.Forall₂.cons htext hreads, ?_⟩
      simp [candidates, hother]

end Reading

section Reporting
variable {m : Machine} {job : RenderJob} {w before : World} {r : BatchReport}

theorem renderReport_gives (h : (renderReport m job).Gives w r before) :
    ∃ c texts, (loadConfiguration m job.configuration).Gives w c w ∧
      List.Forall₂ (fun p text => w.tree.readText m.directory p = .ok text) job.files texts ∧
      (Path.IsName c.output.outputSuffix → r.IsNamed) ∧
      r.Accounts ((candidates c.output.templateExtension job.files texts).map fun f =>
        .ofCode f.1.text f.2) := by
  unfold renderReport at h
  obtain ⟨c, w₁, hconfiguration, hbundle⟩ := Work.gives_bind.mp h
  obtain rfl := loadConfiguration_gives hconfiguration
  obtain ⟨b, w₂, hb, htemplates⟩ := Work.gives_bind.mp hbundle
  obtain rfl := loadBundle_gives hb
  obtain ⟨templates, w₃, hread, hbatch⟩ := Work.gives_bind.mp htemplates
  obtain ⟨rfl, texts, hreads, htemplates⟩ := loadTemplates_gives hread
  refine ⟨c, texts, hconfiguration, hreads, ?_⟩
  rw [← htemplates]
  split at hbatch
  case isTrue hnone =>
    obtain ⟨rfl, _⟩ := Work.gives_pure.mp hbatch
    rw [hnone]
    exact ⟨fun _ => BatchReport.isNamed_of_outputs rfl, BatchReport.accounts_empty 0⟩
  case isFalse =>
    obtain ⟨p, w₄, hp, hrender⟩ := Work.gives_bind.mp hbatch
    obtain ⟨⟨report, p'⟩, w₅, hreport, hr⟩ := Work.gives_bind.mp hrender
    obtain ⟨rfl, _⟩ := Work.gives_pure.mp hr
    have houtput : (job.externals.foldl (fun p e => p.withReference (.external e.1 e.2)) p).output =
        c.output :=
      (Pipeline.output_withReferences p job.externals).trans
        ((Pipeline.yields_output_ofConfiguration m c b).of_gives (Work.gives_mapError.mp hp))
    have hgives := Work.gives_mapError.mp hreport
    refine ⟨fun hsuffix => ?_, (Pipeline.yields_renderBatch m _ templates).of_gives hgives⟩
    have hstems : ∀ t ∈ templates, '/' ∉ t.fileStem.toList := by
      intro t ht
      rw [htemplates] at ht
      obtain ⟨f, _, rfl⟩ := List.mem_map.mp ht
      exact Template.noSeparator_fileStem f.1.text f.2
    rw [← houtput] at hsuffix
    exact (Pipeline.yields_isNamed_renderBatch m _ templates hsuffix hstems).of_gives hgives

theorem perform_render_of_gives {w' : World} (hreport : (renderReport m job).Gives w r before)
    (hwrites : (writeOutputs m job.outputDirectory r.outputs).Gives before () w') :
    perform m w (.render job) = (reportEnding r job.json, w') := by
  have hrender : (render m job).Gives w (reportEnding r job.json) w' := by
    rw [render_eq]
    exact Work.gives_bind.mpr ⟨r, before, hreport, Work.gives_bind.mpr
      ⟨(), w', hwrites, Work.gives_pure.mpr ⟨rfl, rfl⟩⟩⟩
  rw [perform, show (render m job).run w = _ from hrender]

/-- A command fails, or it has written the outputs of its report and ends with that. -/
theorem perform_render_cases (m : Machine) (w : World) (job : RenderJob) :
    (∃ failure, (perform m w (.render job)).1 = .failed failure) ∨
      ∃ r before, (renderReport m job).Gives w r before ∧
        (writeOutputs m job.outputDirectory r.outputs).Gives before ()
          (perform m w (.render job)).2 ∧
        (perform m w (.render job)).1 = reportEnding r job.json := by
  rw [perform]
  rcases hrun : (render m job).run w with ⟨failure | ending, w'⟩
  · exact Or.inl ⟨failure, rfl⟩
  · have hrender : (render m job).Gives w ending w' := hrun
    rw [render_eq] at hrender
    obtain ⟨r, before, hreport, hrest⟩ := Work.gives_bind.mp hrender
    obtain ⟨_, w₁, hwrites, hending⟩ := Work.gives_bind.mp hrest
    obtain ⟨rfl, rfl⟩ := Work.gives_pure.mp hending
    exact Or.inr ⟨r, before, hreport, hwrites, rfl⟩

/-- A command that ends well has come to a report without errors and has written its outputs. -/
theorem perform_render_succeeds (h : (perform m w (.render job)).1.code = 0) :
    ∃ r before, (renderReport m job).Gives w r before ∧ r.hasErrors = false ∧
      (writeOutputs m job.outputDirectory r.outputs).Gives before ()
        (perform m w (.render job)).2 := by
  rcases perform_render_cases m w job with ⟨failure, hfailed⟩ | ⟨r, before, hreport, hwrites, hending⟩
  · rw [hfailed] at h
    cases h
  · refine ⟨r, before, hreport, ?_, hwrites⟩
    rw [hending, reportEnding] at h
    cases herrors : r.hasErrors with
    | false => rfl
    | true => simp [herrors] at h

end Reporting

namespace Sample

/-- A compiler that puts an empty module where it is asked to. -/
def compiler : Program := fun i t =>
  match i.arguments.dropWhile (· != "-o") with
  | _ :: output :: _ =>
    match t.write i.directory ⟨output⟩ [] with
    | .ok t' => ⟨.exited 0, [], [], t'⟩
    | .error _ => ⟨.exited 1, [], [], t⟩
  | _ => ⟨.exited 0, [], [], t⟩

/-- A worker that answers every request for the template of the batch. -/
def worker : Program := fun _ t =>
  ⟨.exited 0, Text.Utf8.encode (Response.toLine ⟨[⟨"T_p_rtpl", "A"⟩]⟩), [], t⟩

def machine : Machine where
  directory := []
  executable := ⟨"/r"⟩
  environment := [("PATH", "/")]
  temporary := ⟨"/"⟩
  program := fun content => .ok (if content = [1] then compiler else worker)

def places : List (Location × Node) :=
  [(["rustc"], .file [1] 0o755), (["w"], .file [2] 0o644), (["_q.rtpl"], .file [121] 0o644),
    (["p.rtpl"], .file [120] 0o644)]

def world : World := { tree := ⟨places⟩ }

/-- A template, and a part of other templates in front of it. -/
def job : RenderJob where
  files := [⟨"_q.rtpl"⟩, ⟨"p.rtpl"⟩]
  outputDirectory := ⟨"o"⟩
  configuration := none
  worker := some ⟨"w"⟩
  externals := []
  json := false

def bundle : Bundle := Bundle.embedded.insertWorker [2]

def templates : List Template := [.ofCode "p.rtpl" "x"]

def toolchain : Toolchain := ⟨⟨"rustc"⟩, "", ⟨""⟩, Toolchain.hostTarget⟩

def pipeline : Pipeline where
  compiler := ⟨toolchain, {}, Reference.libraries⟩
  runner := ⟨⟨⟨⟨"/"⟩⟩, bundle, false⟩, none⟩
  output := {}
  references := []

def report : BatchReport := ⟨1, [⟨"p.rtpl", "p.rs", "A"⟩], []⟩

/-- The worker has been staged when the batch is rendered. -/
def rendered : FileTree :=
  ⟨places ++ [(["rendergen-worker"], .file [2] 0o755),
    (["rendergen-worker.runtimeconfig.json"],
      .file (Text.Utf8.encode Embedded.runConfiguration) 0o600)]⟩

def prepared : FileTree := ⟨rendered.entries ++ [(["o"], .directory 0o755)]⟩

def written : FileTree := ⟨prepared.entries ++ [(["p.rs", "o"], .file [65] 0o644)]⟩

/-- The world after the compiler was asked about itself. -/
def asked : World := (ExceptT.run (Toolchain.resolve machine none) world).2

/-- The world in which the batch is rendered. -/
def cleared : World := (Staging.Stager.create machine ⟨⟨"/"⟩⟩ bundle asked).2

theorem templates_gives :
    (loadTemplates machine "rtpl" job.files).Gives world templates world := by
  have h : (loadTemplates machine "rtpl" job.files).Gives world templates _ :=
    Work.gives_run (by decide +kernel)
  rwa [(loadTemplates_gives h).1] at h

theorem pipeline_gives :
    (Pipeline.ofConfiguration machine {} bundle).Gives world pipeline cleared := by
  have hasked : (Toolchain.resolve machine none).Gives world toolchain asked :=
    Work.gives_run (by decide +kernel)
  have hlayout : Pipeline.layout machine {} = .ok ⟨⟨"/"⟩⟩ := by rfl
  exact Pipeline.gives_ofConfiguration hasked hlayout

theorem batch_gives :
    ∃ p w, (pipeline.renderBatch machine templates).Gives cleared (report, p) w ∧
      w.tree = rendered :=
  Work.exists_gives (by decide +kernel)

theorem report_gives :
    ∃ w, (renderReport machine job).Gives world report w ∧ w.tree = rendered := by
  obtain ⟨p, w, hbatch, htree⟩ := batch_gives
  refine ⟨w, ?_, htree⟩
  refine Work.gives_bind.mpr ⟨{}, world, rfl, ?_⟩
  refine Work.gives_bind.mpr ⟨bundle, world, rfl, ?_⟩
  refine Work.gives_bind.mpr ⟨templates, world, templates_gives, ?_⟩
  rw [if_neg (show templates ≠ [] from List.cons_ne_nil _ _)]
  refine Work.gives_bind.mpr ⟨pipeline, cleared, Work.gives_mapError.mpr pipeline_gives, ?_⟩
  refine Work.gives_bind.mpr ⟨(report, p), w, Work.gives_mapError.mpr hbatch, ?_⟩
  exact Work.gives_pure.mpr ⟨rfl, rfl⟩

theorem makePath_rendered : rendered.makePath [] ⟨"o"⟩ = (.ok (), prepared) := by
  rfl

theorem writes_gives {w : World} (h : w.tree = rendered) :
    (writeOutputs machine job.outputDirectory report.outputs).Gives w ()
      { w with tree := written } := by
  have hwrite : prepared.write [] ((Path.mk "o").join "p.rs") (Text.Utf8.encode "A") =
      .ok written := by rfl
  rw [writeOutputs, if_neg (show report.outputs ≠ [] from List.cons_ne_nil _ _)]
  refine Work.gives_bind.mpr ⟨(), { w with tree := prepared }, ?_, ?_⟩
  · exact Work.gives_altering.mpr ⟨prepared, h ▸ makePath_rendered, rfl⟩
  · refine Work.gives_bind.mpr ⟨(), _, gives_writeOutput.mpr ⟨written, hwrite, rfl⟩, ?_⟩
    exact Work.gives_pure.mpr ⟨rfl, rfl⟩

theorem unlinked {w : World} (h : w.tree = rendered) : w.tree.Unlinked [] ⟨"o"⟩ := by
  intro l _ name target
  rw [h, makePath_rendered]
  apply FileTree.node?_ne_link
  simp [prepared, rendered, places]

end Sample

/-- When the command ends well, the listed files that are templates have one output each, under
names of their own and in the order of the list, and every output stands in the output directory
with the text that the report has for it. Writing them has changed nothing elsewhere. -/
theorem perform_render_delivers (m : Machine) (w : World) (job : RenderJob)
    (hsuccess : (perform m w (.render job)).1.code = 0)
    (hsuffix : ∀ c, (loadConfiguration m job.configuration).Gives w c w →
      Path.IsName c.output.outputSuffix)
    (hlinks : ∀ r before, (renderReport m job).Gives w r before →
      before.tree.Unlinked m.directory job.outputDirectory) :
    ∃ c texts r before,
      (loadConfiguration m job.configuration).Gives w c w ∧
      List.Forall₂ (fun p text => w.tree.readText m.directory p = .ok text) job.files texts ∧
      (renderReport m job).Gives w r before ∧
      (writeOutputs m job.outputDirectory r.outputs).Gives before ()
        (perform m w (.render job)).2 ∧
      r.outputs.map RenderedOutput.templatePath =
        (candidates c.output.templateExtension job.files texts).map (fun f => f.1.text) ∧
      (r.outputs.map RenderedOutput.name).Nodup ∧
      FileTree.Delivered m.directory job.outputDirectory r.outputs before.tree
        (perform m w (.render job)).2.tree := by
  obtain ⟨r, before, hreport, herrors, hwrites⟩ := perform_render_succeeds hsuccess
  obtain ⟨c, texts, hconfiguration, hreads, hnamed, haccounts⟩ := renderReport_gives hreport
  have hnames := hnamed (hsuffix c hconfiguration)
  refine ⟨c, texts, r, before, hconfiguration, hreads, hreport, hwrites, ?_, haccounts.nodup, ?_⟩
  · rw [haccounts.complete.mp herrors, List.map_map]
    rfl
  · exact writeOutputs_delivers (hlinks r before hreport) hnames haccounts.nodup hwrites

/-- The one template of the sample ends up in the output directory. -/
theorem perform_render_delivers_sample :
    (perform Sample.machine Sample.world (.render Sample.job)).1.code = 0 ∧
    ∃ before, (renderReport Sample.machine Sample.job).Gives Sample.world Sample.report before ∧
      FileTree.Delivered [] ⟨"o"⟩ Sample.report.outputs before.tree
        (perform Sample.machine Sample.world (.render Sample.job)).2.tree := by
  obtain ⟨w, hreport, htree⟩ := Sample.report_gives
  have hcode : (perform Sample.machine Sample.world (.render Sample.job)).1.code = 0 := by
    rw [perform_render_of_gives hreport (Sample.writes_gives htree)]
    rfl
  have hsuffix : ∀ c, (loadConfiguration Sample.machine none).Gives Sample.world c Sample.world →
      Path.IsName c.output.outputSuffix := by
    intro c hc
    have hdefault : (loadConfiguration Sample.machine none).Gives Sample.world {} Sample.world :=
      rfl
    obtain ⟨rfl, _⟩ := hc.unique hdefault
    exact ⟨by decide, 'r', by decide, by decide⟩
  have hlinks : ∀ r before, (renderReport Sample.machine Sample.job).Gives Sample.world r before →
      before.tree.Unlinked [] ⟨"o"⟩ := by
    intro r before hr
    obtain ⟨_, rfl⟩ := hr.unique hreport
    exact Sample.unlinked htree
  obtain ⟨c, texts, r, before, _, _, hr, _, _, _, hdelivered⟩ :=
    perform_render_delivers Sample.machine Sample.world Sample.job hcode hsuffix hlinks
  obtain ⟨rfl, rfl⟩ := hr.unique hreport
  exact ⟨hcode, before, hreport, hdelivered⟩

end TemplateBatch.CommandLine
