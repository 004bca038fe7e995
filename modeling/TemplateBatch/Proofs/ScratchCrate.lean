import TemplateBatch.Proofs.BatchRuns
import TemplateBatch.Proofs.NameMatching

/-!
The scratch crate that a module is built in. Its directory is made where nothing was, everything
that building writes is a file right in it, and at the end it is removed with all that it holds. The
tree is then as it was before.
-/
namespace TemplateBatch

open FileTree (Agrees)

namespace FileTree

/-- Every entry stands in a directory. -/
def Connected (t : FileTree) : Prop :=
  ∀ name l, t.node? (name :: l) ≠ none → ∃ mode, t.node? l = some (.directory mode)

/-- Nothing stands at `l` or below. -/
def Bare (t : FileTree) (l : Location) : Prop := ∀ l', l <:+ l' → t.node? l' = none

section Subtrees
variable {t t' : FileTree} {l : Location}

theorem connected_of_entries
    (h : ∀ e ∈ t.entries, (t.node? e.1.tail).any Node.isDirectory = true) : t.Connected := by
  intro name l hnode
  obtain ⟨n, hn⟩ := Option.ne_none_iff_exists'.mp hnode
  obtain ⟨e, he, _⟩ := Option.map_eq_some_iff.mp hn
  have hlocation : e.1 = name :: l := by simpa using List.find?_some he
  have hparent := h e (List.mem_of_find?_eq_some he)
  rw [hlocation, List.tail_cons] at hparent
  cases hl : t.node? l with
  | none => simp [hl] at hparent
  | some n =>
    cases n with
    | directory mode => exact ⟨mode, rfl⟩
    | file content mode => simp [hl, Node.isDirectory] at hparent
    | link target => simp [hl, Node.isDirectory] at hparent

theorem Connected.bare (h : t.Connected) (hfree : t.node? l = none) : t.Bare l := by
  intro l' hbelow
  induction l' with
  | nil => rwa [← List.suffix_nil.mp hbelow]
  | cons name l' ih =>
    rcases List.suffix_cons_iff.mp hbelow with rfl | hparent
    · exact hfree
    · by_contra hnode
      obtain ⟨mode, hmode⟩ := h name l' hnode
      rw [ih hparent] at hmode
      cases hmode

theorem node?_eraseBelow (hl : l ≠ []) (l' : Location) :
    (t.eraseBelow l).node? l' = if l' ≠ l ∧ l <:+ l' then none else t.node? l' := by
  cases l' with
  | nil => rw [if_neg fun h => hl (List.suffix_nil.mp h.2)]; rfl
  | cons name l' =>
    simp only [node?, eraseBelow, List.find?_filter]
    split
    case isTrue h =>
      rw [List.find?_eq_none.mpr, Option.map_none]
      intro e _ he
      simp only [Bool.or_eq_true, Bool.not_eq_true', beq_iff_eq, decide_eq_true_eq] at he
      obtain ⟨hkept, hlocation⟩ := he
      rw [hlocation, List.isSuffixOf_iff_suffix.mpr h.2] at hkept
      exact hkept.elim h.1 Bool.noConfusion
    case isFalse h =>
      congr 2
      funext e
      by_cases he : e.1 = name :: l'
      · rw [not_and_or, not_not, ← List.isSuffixOf_iff_suffix, Bool.not_eq_true] at h
        simpa [he] using h
      · simp [he]

theorem children_eraseBelow (t : FileTree) (l : Location) : (t.eraseBelow l).children l = [] := by
  rw [children, List.filterMap_eq_nil_iff]
  rintro ⟨l', n⟩ he
  obtain ⟨_, hkept⟩ := List.mem_filter.mp he
  cases l' with
  | nil => rfl
  | cons name l' =>
    refine if_neg fun hl => ?_
    subst hl
    have hbelow : l'.isSuffixOf (name :: l') = true :=
      List.isSuffixOf_iff_suffix.mpr (List.suffix_cons name l')
    simp [hbelow] at hkept

end Subtrees

/-- The tree `t` is `t₀` with a directory more, which the path names and which holds nothing but
files right in it. -/
structure Scratch (base : Location) (p : Path) (l : Location) (t₀ t : FileTree) : Prop where
  names : t₀.Names base p l
  bare : t₀.Bare l
  outside : ∀ l', ¬ l <:+ l' → t.node? l' = t₀.node? l'
  isDirectory : ∃ mode, t.node? l = some (.directory mode)
  noLink : ∀ name target, t.node? (name :: l) ≠ some (.link target)

section Lifetime
variable {base : Location} {p d : Path} {l : Location} {t₀ t t' : FileTree}

theorem Bare.keepsWays (h : t₀.Bare l) (hsame : ∀ l', ¬ l <:+ l' → t.node? l' = t₀.node? l') :
    KeepsWays t₀ t := by
  intro l' n hn _
  rw [hsame, hn]
  intro hbelow
  rw [h l' hbelow] at hn
  cases hn

theorem Scratch.names_of_tree (h : Scratch base p l t₀ t) : t.Names base p l :=
  h.names.of_keepsWays (h.bare.keepsWays h.outside)

theorem Scratch.ne_nil (h : Scratch base p l t₀ t) : l ≠ [] :=
  ne_nil_of_free (h.bare l List.suffix_rfl)

theorem Scratch.directoryAt (h : Scratch base p l t₀ t) : DirectoryAt t base p l := by
  obtain ⟨mode, hmode⟩ := h.isDirectory
  refine Or.inr ⟨mode, ?_⟩
  rw [find, h.names_of_tree.locate_target (by simp [hmode]), hmode]

theorem scratch_of_makeDirectory {mode : ℕ} (hconnected : t₀.Connected)
    (hend : endsInSeparator p = false) (h : t₀.makeDirectory base p mode = .ok t) :
    ∃ l, Scratch base p l t₀ t := by
  rw [makeDirectory, locateLast, withoutEnd_of_not_endsInSeparator hend] at h
  cases hrefusal : refusal? p with
  | some e => simp [hrefusal] at h
  | none =>
    rw [hrefusal] at h
    rcases hlocate : t₀.locate base .entry p with e | ⟨l, _ | n⟩
    · simp [hlocate] at h
    · obtain ⟨hnames, hfree⟩ := names_of_locate hlocate
      rw [hlocate] at h
      obtain rfl := Except.ok.inj h
      have hbare := hconnected.bare hfree.symm
      have hl := ne_nil_of_free hfree.symm
      refine ⟨l, hnames, hbare, fun l' hl' => ?_, ⟨mode, ?_⟩, fun name target => ?_⟩
      · rw [node?_put _ _ _ _ hl, if_neg]
        rintro rfl
        exact hl' List.suffix_rfl
      · rw [node?_put _ _ _ _ hl, if_pos rfl]
      · rw [node?_put _ _ _ _ hl, if_neg (List.cons_ne_self name l),
          hbare _ (List.suffix_cons name l)]
        simp
    · simp [hlocate] at h

/-- Files may come and change in the directory. -/
theorem Scratch.of_files (h : Scratch base p l t₀ t)
    (hfiles : ∀ l', t'.node? l' = t.node? l' ∨
      ∃ name content mode, l' = name :: l ∧ t'.node? l' = some (.file content mode)) :
    Scratch base p l t₀ t' := by
  refine ⟨h.names, h.bare, fun l' hl' => ?_, ?_, fun name target => ?_⟩
  · rcases hfiles l' with hsame | ⟨name, _, _, rfl, _⟩
    · rw [hsame, h.outside l' hl']
    · exact absurd (List.suffix_cons name l) hl'
  · rcases hfiles l with hsame | ⟨name, _, _, hl, _⟩
    · rw [hsame]
      exact h.isDirectory
    · exact absurd hl.symm (List.cons_ne_self name l)
  · rcases hfiles (name :: l) with hsame | ⟨_, _, _, _, hfile⟩
    · rw [hsame]
      exact h.noLink name target
    · simp [hfile]

theorem Scratch.write {name : String} {content : Bytes} (h : Scratch base p l t₀ t)
    (hname : Path.IsName name) (hwrite : t.write base (p.join name) content = .ok t') :
    Scratch base p l t₀ t' := by
  obtain ⟨_, _, mode, rfl⟩ := write_join h.directoryAt hname (h.noLink name) hwrite
  refine h.of_files fun l' => ?_
  rw [node?_put _ _ _ _ (List.cons_ne_nil name l)]
  split_ifs with hl'
  · exact Or.inr ⟨name, content, mode, hl', rfl⟩
  · exact Or.inl rfl

theorem Scratch.removeTree {name : String} (hname : Path.IsName name)
    (h : Scratch base (d.join name) l t₀ t) :
    Agrees t₀ (t.removeTree base (d.join name)).2 := by
  obtain ⟨mode, hmode⟩ := h.isDirectory
  have hl := h.ne_nil
  have hemptied : ∀ l', ¬ l <:+ l' → (t.eraseBelow l).node? l' = t₀.node? l' := by
    intro l' hl'
    rw [node?_eraseBelow hl, if_neg fun h => hl' h.2, h.outside l' hl']
  have hlast : (t.eraseBelow l).locateLast base (d.join name) =
      .ok ⟨l, some (.directory mode)⟩ := by
    rw [locateLast_of_names (h.names.of_keepsWays (h.bare.keepsWays hemptied))
      (Path.not_endsInSeparator_join d hname), node?_eraseBelow hl, if_neg fun h => h.1 rfl, hmode]
  have hmoves : ((moves (d.join name)).filter fun m => m != .within).getLast? =
      some (.down name) := by
    rw [moves_join d hname, List.filter_append]
    simp
  have hremoved : (t.eraseBelow l).removeDirectory base (d.join name) =
      .ok ((t.eraseBelow l).erase l) := by
    rw [removeDirectory, hlast]
    simp only [hmoves, children_eraseBelow, if_true]
  have htree : (t.removeTree base (d.join name)).2 = (t.eraseBelow l).erase l := by
    rw [FileTree.removeTree, h.names_of_tree, hmode]
    simp only [hremoved]
  rw [htree]
  intro l'
  rw [node?_erase _ _ _ hl]
  split_ifs with hl'
  · rw [hl', h.bare l List.suffix_rfl]
  · by_cases hbelow : l <:+ l'
    · rw [node?_eraseBelow hl, if_pos ⟨hl', hbelow⟩, h.bare l' hbelow]
    · exact hemptied l' hbelow

end Lifetime
end FileTree

namespace Crate

theorem isName_outputFile : Path.IsName outputFile := by
  refine ⟨by decide, 'l', by decide, by decide⟩

theorem isName_source {stem : String} (h : '/' ∉ stem.toList) : Path.IsName (stem ++ ".rs") :=
  Path.IsName.append h ⟨by decide, 'r', by decide, by decide⟩

theorem isName_files {sources : List Source} {references : List Reference}
    (h : validate sources references = []) : ∀ f ∈ files sources references, Path.IsName f.1 := by
  obtain ⟨hnames, _⟩ := accepted_of_problems _ _ _ [] _ (List.append_eq_nil_iff.mp h).1
  intro f hf
  simp only [files, List.mem_append, List.mem_cons, List.not_mem_nil, or_false, List.mem_flatMap,
    List.mem_map] at hf
  obtain ((hf | ⟨r, hr, hf⟩) | ⟨s, _, rfl⟩) | rfl := hf
  · obtain rfl | rfl := hf
    · exact isName_source (show '/' ∉ "rendergen_runtime".toList by decide)
    · exact isName_source (show '/' ∉ "rendergen_ambient".toList by decide)
  · cases r with
    | external name path => exact absurd hf List.not_mem_nil
    | source name text =>
      obtain rfl := List.mem_singleton.mp hf
      have hname : '/' ∉ name.toList :=
        Identifier.not_mem_of_isIdentifier (hnames _ hr).1 (by decide)
      refine isName_source ?_
      rw [String.toList_append, List.mem_append, not_or]
      exact ⟨by decide, hname⟩
  · refine isName_source ?_
    rw [String.toList_append, List.mem_append, not_or]
    exact ⟨by decide, Path.noSeparator_number s.2⟩
  · exact isName_source (show '/' ∉ "lib".toList by decide)

end Crate

/-- The run left the files as they were, except that the compiler may have written the one that it
was asked for. -/
def Run.Discreet (c : ModuleCompiler) (r : Run) : Prop :=
  ∀ l, r.outcome.tree.node? l = r.before.node? l ∨
    ∃ output references n content mode, r.invocation.arguments = c.arguments output references ∧
      r.before.locate r.invocation.directory .creation output = .ok ⟨l, n⟩ ∧
      r.outcome.tree.node? l = some (.file content mode)

section Discretion
variable {c : ModuleCompiler} {r : Run}

theorem ModuleCompiler.output_eq {output output' : Path} {references references' : List Reference}
    (h : c.arguments output references = c.arguments output' references') : output = output' := by
  simp only [arguments, List.cons_append, List.nil_append, List.cons.injEq] at h
  obtain ⟨_, _, _, _, _, _, _, _, _, _, _, htext, _⟩ := h
  cases output
  cases output'
  exact congrArg Path.mk htext

/-- Only the compiler changes anything. -/
theorem Run.Discreet.agrees (h : r.Discreet c)
    (harguments : ∀ output references, r.invocation.arguments ≠ c.arguments output references) :
    Agrees r.before r.outcome.tree :=
  fun l => (h l).resolve_right fun ⟨output, references, _, _, _, heq, _⟩ =>
    harguments output references heq

end Discretion

theorem FileTree.locate_of_isRooted {t : FileTree} {p : Path} (h : p.isRooted = true)
    (base base' : Location) (aim : Aim) : t.locate base aim p = t.locate base' aim p := by
  rw [locate, locate, if_pos h, if_pos h]

namespace ModuleCompiler

section Scratch
variable {m : Machine} {c : ModuleCompiler} {w₀ : World} {d : Path} {l : Location}
  {name : String} {sources : List Source} {references : List Reference}

/-- A compiler that is run in a scratch directory for a module in it. -/
theorem scratch_of_compiler {t : FileTree} {r : Run} (hrooted : d.isRooted = true)
    (hname : Path.IsName name) (h : FileTree.Scratch m.directory (d.join name) l t r.before)
    (hdiscreet : r.Discreet c)
    (harguments : r.invocation.arguments =
      c.arguments ((d.join name).join Crate.outputFile) references) :
    FileTree.Scratch m.directory (d.join name) l t r.outcome.tree := by
  refine h.of_files fun l' => ?_
  rcases hdiscreet l' with hsame | ⟨output, _, n, content, mode, heq, hlocate, hfile⟩
  · exact Or.inl hsame
  · obtain rfl := output_eq (heq.symm.trans harguments)
    have hroot : ((d.join name).join Crate.outputFile).isRooted = true := by
      rw [Path.isRooted_join _ Crate.isName_outputFile, Path.isRooted_join _ hname, hrooted]
    rw [FileTree.locate_of_isRooted hroot _ m.directory] at hlocate
    obtain ⟨_, hspot⟩ := FileTree.locate_join h.directoryAt Crate.isName_outputFile
      (h.noLink Crate.outputFile) .creation _ hlocate
    exact Or.inr ⟨_, content, mode, congrArg FileTree.Spot.location hspot, hfile⟩

theorem holds_build (hrooted : d.isRooted = true) (hname : Path.IsName name)
    (hvalid : Crate.validate sources references = []) {t : FileTree} :
    (c.build m sources references (d.join name)).Preserves
      (World.Holds (Run.Discreet c) (FileTree.Scratch m.directory (d.join name) l t) w₀) := by
  refine preserves_build m c sources references _ (fun w t' hw f hf hwrite => ?_) fun w hw => ?_
  · exact hw.of_tree rfl fun hscratch => hscratch.write (Crate.isName_files hvalid f hf) hwrite
  · refine hw.command fun program invocation hstarts hdiscreet hscratch => ?_
    exact scratch_of_compiler (r := ⟨invocation, w.tree, program invocation w.tree⟩) hrooted hname
      hscratch hdiscreet hstarts.arguments

end Scratch

theorem isName_scratch (k : ℕ) : Path.IsName (scratchName k) := by
  refine ⟨?_, 'r', ?_, by decide⟩
  · simp only [scratchName, String.toList_append, List.mem_append, not_or]
    exact ⟨by decide, Staging.noSeparator_serial k⟩
  · simp [scratchName]

section Compiling
variable {m : Machine} {w : World} (hconnected : w.tree.Connected)
  (hrooted : m.temporary.isRooted = true) (c : ModuleCompiler) (sources : List Source)
include hconnected hrooted

/-- The scratch directory comes and goes, whatever building in it comes to. -/
theorem holds_buildInScratch (references : List Reference)
    (hvalid : Crate.validate sources references = []) :
    World.Holds (Run.Discreet c) (Agrees w.tree) w
      (ExceptT.run (c.buildInScratch m sources references) w).2 := by
  obtain ⟨k, hpath⟩ := Staging.exists_freshPath m w m.temporary scratchName
  have hname := isName_scratch k
  rw [buildInScratch, Work.run_world_bind]
  simp only [hpath, Work.run_bind, Work.run_changing, Work.run_ensuring]
  cases hmake : w.tree.makeDirectory m.directory (m.temporary.join (scratchName k)) 0o700 with
  | error e => exact World.holds_refl (Agrees.refl _)
  | ok t =>
    obtain ⟨l, hscratch⟩ := FileTree.scratch_of_makeDirectory hconnected
      (Path.not_endsInSeparator_join m.temporary hname) hmake
    have hmade : World.Holds (Run.Discreet c)
        (FileTree.Scratch m.directory (m.temporary.join (scratchName k)) l w.tree) w
        { w with tree := t } :=
      ⟨[], (List.append_nil _).symm, fun _ => hscratch⟩
    have hbuilt := holds_build hrooted hname hvalid _ hmade
    dsimp only
    generalize ExceptT.run (c.build m sources references _) _ = ended at hbuilt ⊢
    refine hbuilt.of_tree rfl fun hended => ?_
    have hback := hended.removeTree hname
    dsimp only
    exact hback

theorem holds_compile (extra : List Reference) :
    World.Holds (Run.Discreet c) (Agrees w.tree) w (c.compile m sources extra w).2 := by
  rw [compile]
  split
  case h_1 => exact World.holds_refl (Agrees.refl _)
  case h_2 =>
    split
    case h_1 hvalid =>
      have hbuilt := holds_buildInScratch hconnected hrooted c sources (c.baseline ++ extra) hvalid
      rcases hrun : (c.buildInScratch m sources (c.baseline ++ extra)).run w with ⟨_ | _, w'⟩
      all_goals rwa [hrun] at hbuilt
    case h_2 => exact World.holds_refl (Agrees.refl _)

end Compiling
end ModuleCompiler
end TemplateBatch
