import TemplateBatch.CommandLine.Render
import TemplateBatch.Proofs.BatchCompleteness
import TemplateBatch.Proofs.Directories

/-!
Outputs as files. The outputs of a batch have names that are a single step of a path each, so that
they end up in the directory that they are written to, side by side and whole. Whatever else there
is in the tree stays as it was.
-/
namespace TemplateBatch

open CommandLine (writeOutput writeOutputs)

theorem OutputNames.noSeparator_answers (names : OutputNames) (candidates : List String)
    (h : ∀ candidate ∈ candidates, '/' ∉ candidate.toList) :
    ∀ name ∈ names.answers candidates, '/' ∉ name.toList := by
  induction candidates generalizing names with
  | nil => exact fun name hname => absurd hname List.not_mem_nil
  | cons candidate candidates ih =>
    rw [List.forall_mem_cons] at h
    rw [answers, List.forall_mem_cons]
    exact ⟨names.noSeparator_choose candidate h.1, ih _ h.2⟩

namespace BatchReport

/-- Every output can be written under its name. -/
def IsNamed (r : BatchReport) : Prop :=
  ∀ name ∈ r.outputs.map RenderedOutput.name, Path.IsName name

theorem isNamed_of_outputs {r : BatchReport} (h : r.outputs = []) : r.IsNamed := by
  intro name hname
  rw [h] at hname
  exact absurd hname List.not_mem_nil

theorem isNamed_correlate (n : ℕ) (templates : List Template) (outcome : RunOutcome)
    (options : OutputOptions) (hsuffix : Path.IsName options.outputSuffix)
    (hstems : ∀ t ∈ templates, '/' ∉ t.fileStem.toList) :
    (correlate templates outcome options (empty n)).IsNamed := by
  cases outcome with
  | success response =>
    intro name hname
    rw [correlate, names_correlateFrom] at hname
    obtain ⟨given, hgiven, rfl⟩ := List.mem_map.mp hname
    refine Path.IsName.append (OutputNames.noSeparator_answers _ _ ?_ given hgiven) hsuffix
    intro stem hstem
    obtain ⟨t, ht, rfl⟩ := List.mem_map.mp hstem
    exact hstems t (List.mem_of_mem_filter ht)
  | runtimeMissing => exact isNamed_of_outputs rfl
  | transportError text => exact isNamed_of_outputs rfl

end BatchReport

namespace Pipeline

variable (m : Machine) (p : Pipeline)

theorem yields_output_ofConfiguration (c : Configuration) (b : Bundle) :
    (ofConfiguration m c b).Yields fun p => p.output = c.output := by
  rw [ofConfiguration]
  apply Work.yields_after
  intro compiler
  apply Work.yields_after
  intro layout
  apply Work.yields_after
  intro w
  apply Work.yields_after
  intro _
  exact Work.yields_pure _ _ rfl

theorem output_withReferences (externals : List (String × Path)) :
    (externals.foldl (fun p e => p.withReference (.external e.1 e.2)) p).output = p.output := by
  induction externals generalizing p with
  | nil => rfl
  | cons e externals ih => exact ih (p.withReference (.external e.1 e.2))

variable (templates : List Template) (hsuffix : Path.IsName p.output.outputSuffix)
  (hstems : ∀ t ∈ templates, '/' ∉ t.fileStem.toList)

theorem isNamed_format (report : BatchReport) (w : World) (h : report.IsNamed) :
    (p.format m report w).1.IsNamed := by
  rw [format]
  split
  · intro name hname
    apply h name
    rwa [formatOutputs_kept m RenderedOutput.name fun _ _ => rfl] at hname
  · exact h

include hsuffix hstems in
theorem yields_isNamed_renderBatch :
    (p.renderBatch m templates).Yields fun r => r.1.IsNamed := by
  rw [renderBatch]
  split
  · exact Work.yields_pure _ _ (BatchReport.isNamed_of_outputs rfl)
  apply Work.yields_after
  intro w
  rcases p.compiler.compile m (templates.map Template.source) p.references w with
    ⟨⟨diagnostics, result⟩, w'⟩
  apply Work.yields_after
  intro _
  rcases result with e | _ | built
  · exact Work.yields_throw _ _
  · exact Work.yields_pure _ _ (BatchReport.isNamed_of_outputs rfl)
  · simp only [renderModule]
    apply Work.yields_after
    intro ran
    apply Work.yields_after
    intro w
    apply Work.yields_after
    intro _
    apply Work.yields_pure
    exact isNamed_format m _ _ w
      (BatchReport.isNamed_correlate _ templates ran.1 p.output hsuffix hstems)

end Pipeline

namespace FileTree

/-- No link stands among the files of the directory `p` once it has been made. -/
def Unlinked (t : FileTree) (base : Location) (p : Path) : Prop :=
  ∀ l, DirectoryAt (t.makePath base p).2 base p l →
    ∀ name target, (t.makePath base p).2.node? (name :: l) ≠ some (.link target)

theorem node?_ne_link {t : FileTree} (h : ∀ e ∈ t.entries, ∀ target, e.2 ≠ .link target)
    (l : Location) (target : Path) : t.node? l ≠ some (.link target) := by
  intro hnode
  cases l with
  | nil => cases hnode
  | cons name l =>
    obtain ⟨e, hfind, he⟩ := Option.map_eq_some_iff.mp hnode
    exact h e (List.mem_of_find?_eq_some hfind) target he

/-- The outputs are in the directory `p` of `after`, each with its text under its name. Nothing else
has changed since `before`, but that `p` and directories on the way to it are there now. -/
structure Delivered (base : Location) (p : Path) (outputs : List RenderedOutput)
    (before after : FileTree) : Prop where
  held : ∀ o ∈ outputs, ∃ l mode, DirectoryAt after base p l ∧
    after.find base (p.join o.name) = .ok (o.name :: l, .file (Text.Utf8.encode o.text) mode)
  kept : ∀ l, after.node? l ≠ before.node? l →
    (∃ o ∈ outputs, ∃ directory, DirectoryAt after base p directory ∧ l = o.name :: directory) ∨
    (before.node? l = none ∧ (∃ mode, after.node? l = some (.directory mode)) ∧
      ∃ q ∈ ancestors p.chars.length p, DirectoryAt after base q l)

end FileTree

section Writing
variable {m : Machine} {p : Path} {l : Location} {w w' : World} {outputs : List RenderedOutput}

theorem gives_writeOutput {o : RenderedOutput} :
    (writeOutput m p o).Gives w () w' ↔
      ∃ t, w.tree.write m.directory (p.join o.name) (Text.Utf8.encode o.text) = .ok t ∧
        w' = { w with tree := t } := by
  rw [writeOutput]
  exact Work.gives_changing

/-- The entry of an output in the directory `l`. -/
def RenderedOutput.StandsIn (o : RenderedOutput) (t : FileTree) (l : Location) : Prop :=
  ∃ mode, t.node? (o.name :: l) = some (.file (Text.Utf8.encode o.text) mode)

/-- A file that is written in a directory changes its own place and no other, and no way is lost
there. -/
theorem FileTree.write_stands {t t' : FileTree} {base : Location} {name : String} {content : Bytes}
    (hat : t.DirectoryAt base p l)
    (hlinks : ∀ name target, t.node? (name :: l) ≠ some (.link target)) (hname : Path.IsName name)
    (h : t.write base (p.join name) content = .ok t') :
    Fits p name ∧ t.KeepsWays t' ∧ (∃ mode, t'.node? (name :: l) = some (.file content mode)) ∧
      ∀ l', l' ≠ name :: l → t'.node? l' = t.node? l' := by
  obtain ⟨hfits, hfree, mode, rfl⟩ := write_join hat hname (hlinks name) h
  have hplace : name :: l ≠ [] := List.cons_ne_nil _ _
  refine ⟨hfits, keepsWays_put _ _ _ hplace hfree, ⟨mode, ?_⟩, ?_⟩
  · rw [node?_put _ _ _ _ hplace, if_pos rfl]
  · intro l' hl'
    rw [node?_put _ _ _ _ hplace, if_neg hl']

/-- Files that are written one after the other are all there in the end, and no other place has
changed. -/
theorem Work.writes_stand {α ε : Type} (name : α → String) (content : α → Bytes)
    {write : α → Work ε Unit} {xs : List α}
    (hwrite : ∀ x w w', (write x).Gives w () w' →
      ∃ t, w.tree.write m.directory (p.join (name x)) (content x) = .ok t ∧
        w' = { w with tree := t })
    (hat : w.tree.DirectoryAt m.directory p l)
    (hlinks : ∀ name target, w.tree.node? (name :: l) ≠ some (.link target))
    (hnames : ∀ x ∈ xs, Path.IsName (name x)) (hnodup : (xs.map name).Nodup)
    (h : (xs.forM write).Gives w () w') :
    w.tree.KeepsWays w'.tree ∧
      (∀ x ∈ xs, FileTree.Fits p (name x) ∧
        ∃ mode, w'.tree.node? (name x :: l) = some (.file (content x) mode)) ∧
      ∀ l', (∀ x ∈ xs, l' ≠ name x :: l) → w'.tree.node? l' = w.tree.node? l' := by
  induction xs generalizing w with
  | nil =>
    obtain ⟨_, rfl⟩ := Work.gives_pure.mp h
    exact ⟨FileTree.KeepsWays.refl _, fun x hx => absurd hx List.not_mem_nil, fun _ _ => rfl⟩
  | cons x xs ih =>
    rw [List.forall_mem_cons] at hnames
    rw [List.map_cons, List.nodup_cons] at hnodup
    obtain ⟨_, w₁, hfirst, hrest⟩ := Work.gives_bind.mp h
    obtain ⟨t, ht, rfl⟩ := hwrite x w w₁ hfirst
    obtain ⟨hfits, hways, ⟨mode, hstands⟩, hothers⟩ :=
      FileTree.write_stands hat hlinks hnames.1 ht
    have hlinks₁ : ∀ name target, t.node? (name :: l) ≠ some (.link target) := by
      intro other target hlink
      by_cases hplace : other :: l = name x :: l
      · rw [hplace, hstands] at hlink
        cases hlink
      · exact hlinks other target (hothers _ hplace ▸ hlink)
    obtain ⟨hways', hheld, hkept⟩ :=
      ih (hat.of_keepsWays hways) hlinks₁ hnames.2 hnodup.2 hrest
    -- The later files have other names, so the first one is not written over.
    have hlater : ∀ y ∈ xs, name x :: l ≠ name y :: l := by
      intro y hy heq
      rw [(List.cons.inj heq).1] at hnodup
      exact hnodup.1 (List.mem_map_of_mem hy)
    refine ⟨hways.trans hways', List.forall_mem_cons.mpr ⟨⟨hfits, mode, ?_⟩, hheld⟩, ?_⟩
    · rw [hkept _ hlater, hstands]
    · intro l' hl'
      rw [List.forall_mem_cons] at hl'
      rw [hkept l' hl'.2, hothers l' hl'.1]

theorem writes_outputs (hat : w.tree.DirectoryAt m.directory p l)
    (hlinks : ∀ name target, w.tree.node? (name :: l) ≠ some (.link target))
    (hnames : ∀ name ∈ outputs.map RenderedOutput.name, Path.IsName name)
    (hnodup : (outputs.map RenderedOutput.name).Nodup)
    (h : (outputs.forM (writeOutput m p)).Gives w () w') :
    w.tree.KeepsWays w'.tree ∧
      (∀ o ∈ outputs, FileTree.Fits p o.name ∧ o.StandsIn w'.tree l) ∧
      ∀ l', (∀ o ∈ outputs, l' ≠ o.name :: l) → w'.tree.node? l' = w.tree.node? l' :=
  Work.writes_stand RenderedOutput.name (fun o => Text.Utf8.encode o.text)
    (fun _ _ _ => gives_writeOutput.mp) hat hlinks
    (fun _ ho => hnames _ (List.mem_map_of_mem ho)) hnodup h

/-- Outputs with names of their own are delivered when writing them succeeds. -/
theorem writeOutputs_delivers (hunlinked : w.tree.Unlinked m.directory p)
    (hnames : ∀ name ∈ outputs.map RenderedOutput.name, Path.IsName name)
    (hnodup : (outputs.map RenderedOutput.name).Nodup)
    (h : (writeOutputs m p outputs).Gives w () w') :
    FileTree.Delivered m.directory p outputs w.tree w'.tree := by
  rw [writeOutputs] at h
  split at h
  case isTrue hnone =>
    obtain ⟨_, rfl⟩ := Work.gives_pure.mp h
    subst hnone
    exact ⟨fun o ho => absurd ho List.not_mem_nil, fun l hl => absurd rfl hl⟩
  case isFalse =>
    obtain ⟨_, w₁, hdirectory, hwrites⟩ := Work.gives_bind.mp h
    obtain ⟨t, hmake, rfl⟩ := Work.gives_altering.mp hdirectory
    obtain ⟨⟨l, hat⟩, hmade⟩ := FileTree.makePath_made hmake
    have hlinks := hunlinked l
    rw [hmake] at hlinks
    obtain ⟨hways, hheld, hkept⟩ := writes_outputs hat (hlinks hat) hnames hnodup hwrites
    have hat' := hat.of_keepsWays hways
    constructor
    · intro o ho
      obtain ⟨hfits, mode, hstands⟩ := hheld o ho
      have hname := hnames o.name (List.mem_map_of_mem ho)
      exact ⟨l, mode, hat', FileTree.find_join hat' hname hfits hstands⟩
    · intro l' hchanged
      by_cases hplace : ∃ o ∈ outputs, l' = o.name :: l
      · obtain ⟨o, ho, hl'⟩ := hplace
        exact Or.inl ⟨o, ho, l, hat', hl'⟩
      · have hsame := hkept l' fun o ho hl' => hplace ⟨o, ho, hl'⟩
        rcases hmade l' with hold | ⟨hnone, ⟨mode, hmode⟩, q, hq, hatq⟩
        · exact absurd (hsame.trans hold) hchanged
        · exact Or.inr ⟨hnone, ⟨mode, hsame.trans hmode⟩, q, hq, hatq.of_keepsWays hways⟩

end Writing

end TemplateBatch
