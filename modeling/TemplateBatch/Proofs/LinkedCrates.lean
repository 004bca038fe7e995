import TemplateBatch.Proofs.BuildOutcomes
import TemplateBatch.Proofs.ParentPaths

/-!
Which prebuilt crates a module is linked with. A path is checked from the directory of the host and
handed as it is to the compiler, which reads it from the scratch directory. A rooted path leads both
to the same file. A path that goes down from the directory it is read from never does, since the
scratch directory is new and holds nothing but the files of the crate.
-/
namespace TemplateBatch

namespace FileTree

section Kept
variable {t t' : FileTree} {base l : Location} {p : Path}

theorem HasDirectory.of_keepsWays (hkeeps : KeepsWays t t') (h : t.HasDirectory l) :
    t'.HasDirectory l := by
  obtain ⟨mode, hmode⟩ := h
  exact ⟨mode, hkeeps l _ hmode trivial⟩

/-- An entry comes to a directory, in the place of a file or of nothing. -/
theorem Connected.put {n : Node} (h : t.Connected) (hl : l ≠ []) (hparent : t.HasDirectory l.tail)
    (hfree : ∀ old, t.node? l = some old → ¬ old.IsWay) : (t.put l n).Connected := by
  have hkeeps := keepsWays_put t l n hl hfree
  intro name l' hnode
  rw [node?_put _ _ _ _ hl] at hnode
  split_ifs at hnode with hplace
  · subst hplace
    exact hparent.of_keepsWays hkeeps
  · exact HasDirectory.of_keepsWays hkeeps (h name l' hnode)

variable {links : ℕ} {here : Location} {ms : List Move} {s : Spot}

theorem Walked.of_keepsWays (hkeeps : KeepsWays t t')
    (hsame : t'.node? s.location = t.node? s.location) (h : Walked t s links here ms) :
    Walked t' s links here ms := by
  induction h with
  | arrived hs =>
    subst hs
    exact Walked.arrived (congrArg _ hsame.symm)
  | ended hshort hs =>
    subst hs
    exact Walked.ended hshort (congrArg _ hsame.symm)
  | stay _ ih => exact Walked.stay ih
  | within _ ih => exact Walked.within ih
  | up _ ih => exact Walked.up ih
  | down hshort hnode _ ih => exact Walked.down hshort (hkeeps _ _ hnode trivial) ih
  | link hshort hnode _ ih => exact Walked.link hshort (hkeeps _ _ hnode trivial) ih

/-- Links are followed to whatever is none. -/
theorem Walked.walk_target (hlink : ∀ target, s.node ≠ some (.link target))
    (h : Walked t s links here ms) : walk t .target links here ms = .ok s := by
  induction h with
  | arrived hs => rw [walk_nil, ← hs]
  | ended hshort hs =>
    subst hs
    exact walk_down_last hshort (Or.inr hlink)
  | stay _ ih => rw [walk_stay, ih]
  | within _ ih => rw [walk_within, ih]
  | up _ ih => rw [walk_up, ih]
  | down hshort hnode _ ih => rw [walk_down_directory hshort (by simp) hnode, ih]
  | link hshort hnode _ ih => rw [walk_down_link hshort (by simp) hnode (by simp)]; exact ih

theorem find_of_keepsWays {n : Node} (hkeeps : KeepsWays t t') (hnode : t'.node? l = some n)
    (hlink : ∀ target, n ≠ .link target) (h : t.find base p = .ok (l, n)) :
    t'.find base p = .ok (l, n) := by
  obtain ⟨hrefusal, hwalked⟩ := walked_of_find h
  have hsame : t'.node? l = t.node? l := hnode.trans hwalked.node_eq
  have hkept := hwalked.of_keepsWays hkeeps hsame
  exact (find_ok_iff ..).mpr ((locate_ok_iff ..).mpr ⟨hrefusal, hkept.walk_target (by simpa)⟩)

theorem exists_find_of_isFile (h : t.isFile base p = true) :
    ∃ l content mode, t.find base p = .ok (l, .file content mode) := by
  rw [isFile] at h
  split at h
  case h_1 l content mode hfind => exact ⟨l, content, mode, hfind⟩
  case h_2 => cases h

theorem find_of_isRooted (h : p.isRooted = true) (t : FileTree) (base base' : Location) :
    t.find base p = t.find base' p := by
  rw [find, find, locate_of_isRooted h base base']

end Kept

/-- A scratch directory with files only, in a tree where every entry stands in a directory. -/
structure Flat (base : Location) (p : Path) (l : Location) (t₀ t : FileTree) : Prop where
  scratch : Scratch base p l t₀ t
  files : ∀ name n, t.node? (name :: l) = some n → ¬ n.IsWay
  connected : t.Connected

section Flat
variable {base : Location} {p : Path} {l : Location} {t₀ t t' : FileTree}

/-- The directory is all that came when it was made. -/
theorem Scratch.eq_put {mode : ℕ} (hscratch : Scratch base p l t₀ t)
    (h : t₀.makeDirectory base p mode = .ok t) : t = t₀.put l (.directory mode) := by
  obtain ⟨l', hfree, rfl, _⟩ := makeDirectory_made h
  obtain rfl : l = l' := by
    obtain ⟨mode', hmode⟩ := hscratch.isDirectory
    rw [node?_put _ _ _ _ (ne_nil_of_free hfree), hscratch.bare l List.suffix_rfl] at hmode
    by_contra hne
    simp [hne] at hmode
  rfl

theorem Scratch.node?_eq_none {mode : ℕ} (hscratch : Scratch base p l t₀ t)
    (h : t₀.makeDirectory base p mode = .ok t) (name : String) : t.node? (name :: l) = none := by
  rw [hscratch.eq_put h, node?_put _ _ _ _ hscratch.ne_nil, if_neg (List.cons_ne_self name l),
    hscratch.bare _ (List.suffix_cons name l)]

theorem flat_of_makeDirectory {mode : ℕ} (hconnected : t₀.Connected) (hrooted : p.isRooted = true)
    (hend : endsInSeparator p = false) (h : t₀.makeDirectory base p mode = .ok t) :
    ∃ l, Flat base p l t₀ t := by
  obtain ⟨l, hscratch⟩ := scratch_of_makeDirectory hconnected hend h
  refine ⟨l, hscratch, fun name n hnode => ?_, ?_⟩
  · rw [hscratch.node?_eq_none h] at hnode
    cases hnode
  · have hfree := hscratch.bare l List.suffix_rfl
    have hwalked := walked_of_walk ((locate_ok_iff ..).mp hscratch.names).2
    rw [start, if_pos hrooted] at hwalked
    have hparent : t₀.HasDirectory l.tail :=
      hwalked.hasDirectory_tail hconnected t₀.hasDirectory_root
    rw [hscratch.eq_put h]
    exact hconnected.put hscratch.ne_nil hparent (by simp [hfree])

theorem Flat.write {name : String} {content : Bytes} (h : Flat base p l t₀ t)
    (hname : Path.IsName name) (hwrite : t.write base (p.join name) content = .ok t') :
    Flat base p l t₀ t' := by
  obtain ⟨_, hfree, mode, rfl⟩ :=
    write_join h.scratch.directoryAt hname (h.scratch.noLink name) hwrite
  have hplace : name :: l ≠ [] := List.cons_ne_nil name l
  refine ⟨h.scratch.write hname hwrite, fun name' n hnode => ?_, ?_⟩
  · rw [node?_put _ _ _ _ hplace] at hnode
    split_ifs at hnode
    · obtain rfl := Option.some.inj hnode
      exact not_false
    · exact h.files name' n hnode
  · exact h.connected.put hplace h.scratch.isDirectory hfree

theorem Flat.keepsWays (h : Flat base p l t₀ t) : KeepsWays t₀ t :=
  h.scratch.bare.keepsWays h.scratch.outside

theorem Flat.node?_eq (h : Flat base p l t₀ t) {l' : Location} {n : Node}
    (hnode : t₀.node? l' = some n) : t.node? l' = some n := by
  rw [h.scratch.outside, hnode]
  intro hbelow
  rw [h.scratch.bare l' hbelow] at hnode
  cases hnode

theorem Flat.ne_of_node? (h : Flat base p l t₀ t) {l' : Location} {n : Node}
    (hnode : t₀.node? l' = some n) (name : String) : l' ≠ name :: l := by
  rintro rfl
  rw [h.scratch.bare _ (List.suffix_cons name l)] at hnode
  cases hnode

end Flat

/-- The path goes down from the directory that it is read from. -/
def GoesDown (p : Path) : Prop :=
  p.isRooted = false ∧ ∃ stays name rest, moves p = stays ++ .down name :: rest ∧
    ∀ m ∈ stays, m = .stay

/-- A path that goes down from a scratch directory leads to nothing that was there. -/
theorem Flat.not_find_of_goesDown {base l l' : Location} {p q : Path} {t₀ t : FileTree}
    {n n' : Node} (h : Flat base p l t₀ t) (hdown : GoesDown q) (hnode : t₀.node? l' = some n) :
    t.find l q ≠ .ok (l', n') := by
  intro hfind
  obtain ⟨hrooted, stays, name, rest, hmoves, hstays⟩ := hdown
  obtain ⟨_, hwalk⟩ := (locate_ok_iff ..).mp ((find_ok_iff ..).mp hfind)
  have hstart : start l q = l := by rw [start, hrooted]; rfl
  have hlast : walk t .target 40 l (.down name :: rest) = .ok ⟨l', some n'⟩ := by
    rw [hstart, hmoves] at hwalk
    clear hmoves
    induction stays with
    | nil => exact hwalk
    | cons m stays ih =>
      rw [List.forall_mem_cons] at hstays
      rw [hstays.1, List.cons_append, walk_stay] at hwalk
      exact ih hstays.2 hwalk
  obtain ⟨_, ⟨_, hspot⟩ | ⟨mode, hdirectory, _⟩ | ⟨target, hlink, _⟩⟩ := walk_down_cases hlast
  · exact h.ne_of_node? hnode name (congrArg Spot.location hspot)
  · exact h.files name _ hdirectory trivial
  · exact h.files name _ hlink trivial

end FileTree

namespace ModuleCompiler

open FileTree (Flat GoesDown)

/-- The compiler is given the crate `name` in the file `n` at `l`, and is to look for what the crate
depends on in the directory of the entry that the path names. That is the directory of the file
itself, unless the entry is a link. -/
structure Linked (r : Run) (name : String) (path : Path) (l : Location) (n : Node) : Prop where
  external : ["--extern", name ++ "=" ++ path.text] <:+: r.invocation.arguments
  found : r.before.find r.invocation.directory path = .ok (l, n)
  dependencies : ∃ parent d mode last, path.parent? = some parent ∧
    ["-L", "dependency=" ++ parent.text] <:+: r.invocation.arguments ∧
    r.before.find r.invocation.directory parent = .ok (d, .directory mode) ∧
    r.before.Names r.invocation.directory path (last :: d) ∧
    ((∀ target, r.before.node? (last :: d) ≠ some (.link target)) → l = last :: d)

theorem externalArguments_infix (c : ModuleCompiler) (output : Path) {references : List Reference}
    {r : Reference} (h : r ∈ references) :
    externalArguments r <:+: c.arguments output references := by
  have hinfix : externalArguments r <:+: references.flatMap externalArguments :=
    List.infix_of_mem_flatten (List.mem_map_of_mem h)
  exact hinfix.trans (List.suffix_append _ _).isInfix

section Runs
variable {m : Machine} {c : ModuleCompiler} {sources : List Source} {references : List Reference}
  {w w' w₁ : World} {directory : Path} {r : Run}

/-- What was prepared is a new directory with the files written to it. -/
theorem exists_of_prepare (h : (prepare m sources references).Gives w directory w₁) :
    ∃ k t, directory = m.temporary.join (scratchName k) ∧
      w.tree.makeDirectory m.directory directory 0o700 = .ok t ∧
      (writeFiles m directory (Crate.files sources references)).Gives
        { w with tree := t } () w₁ := by
  obtain ⟨k, hpath⟩ := Staging.exists_freshPath m w m.temporary scratchName
  rw [Work.Gives, run_prepare sources references hpath] at h
  cases hmake : w.tree.makeDirectory m.directory (m.temporary.join (scratchName k)) 0o700 with
  | error e =>
    rw [hmake] at h
    cases (Prod.mk.inj h).1
  | ok t =>
    rw [hmake] at h
    dsimp only at h
    rcases hrun : ExceptT.run (writeFiles m (m.temporary.join (scratchName k))
      (Crate.files sources references)) { w with tree := t } with ⟨e | u, w₂⟩
    all_goals
      rw [hrun] at h
      obtain ⟨hresult, hworld⟩ := Prod.mk.inj h
    · cases hresult
    · obtain rfl := Except.ok.inj hresult
      subst hworld
      exact ⟨k, t, rfl, hmake, hrun⟩

/-- The scratch crate is written to a directory of its own. -/
theorem flat_of_prepare (hconnected : w.tree.Connected) (hrooted : m.temporary.isRooted = true)
    (hvalid : Crate.validate sources references = [])
    (h : (prepare m sources references).Gives w directory w₁) :
    ∃ l, Flat m.directory directory l w.tree w₁.tree := by
  obtain ⟨k, t, hdirectory, hmake, hwrite⟩ := exists_of_prepare h
  have hname := isName_scratch k
  have hroot : directory.isRooted = true := by
    rw [hdirectory, Path.isRooted_join _ hname, hrooted]
  have hend : FileTree.endsInSeparator directory = false := by
    rw [hdirectory, Path.not_endsInSeparator_join m.temporary hname]
  obtain ⟨l, hflat⟩ := FileTree.flat_of_makeDirectory hconnected hroot hend hmake
  have hwritten := preserves_writeFiles m directory (Crate.files sources references)
    (P := fun w' => Flat m.directory directory l w.tree w'.tree)
    (fun w' t hw f hf hwrite => hw.write (Crate.isName_files hvalid f hf) hwrite)
    { w with tree := t } hflat
  have hrun : ExceptT.run (writeFiles m directory (Crate.files sources references))
    { w with tree := t } = (.ok (), w₁) := hwrite
  rw [hrun] at hwritten
  exact ⟨l, hwritten⟩

theorem RanIn.directory_eq {l : Location}
    (hscratch : FileTree.Scratch m.directory directory l w.tree r.before)
    (h : RanIn m c sources references w directory r w') : r.invocation.directory = l := by
  obtain ⟨program, hstarts, _⟩ := h.started
  obtain ⟨mode, hmode⟩ := hscratch.isDirectory
  have hbase : r.before.find m.directory directory = .ok (l, .directory mode) := by
    rw [FileTree.find, hscratch.names_of_tree.locate_target (by simp [hmode]), hmode]
  have hdirectory := hstarts.directory
  rw [Command.base, command] at hdirectory
  simp only [hbase] at hdirectory
  exact (Except.ok.inj hdirectory).symm

theorem RanIn.flat (hconnected : w.tree.Connected)
    (hrooted : m.temporary.isRooted = true)
    (hvalid : Crate.validate sources references = [])
    (h : RanIn m c sources references w directory r w') :
    Flat m.directory directory r.invocation.directory w.tree r.before := by
  obtain ⟨w₁, hprepare, hbefore⟩ := h.prepared
  obtain ⟨l, hflat⟩ := flat_of_prepare hconnected hrooted hvalid hprepare
  rw [← hbefore] at hflat
  rwa [h.directory_eq hflat.scratch]

variable {t₀ : FileTree} {name : String} {path : Path} {l : Location} {content : Bytes} {mode : ℕ}

theorem linked_of_find (hflat : Flat m.directory directory r.invocation.directory t₀ r.before)
    (harguments : externalArguments (.external name path) <:+: r.invocation.arguments)
    (hthere : t₀.node? l = some (.file content mode))
    (hfound : r.before.find r.invocation.directory path = .ok (l, .file content mode)) :
    Linked r name path l (.file content mode) := by
  obtain ⟨parent, d, last, hparent, hat, hnames⟩ :=
    FileTree.exists_parent_of_find hflat.connected hflat.scratch.isDirectory hfound
  have hown (hlink : ∀ target, r.before.node? (last :: d) ≠ some (.link target)) :
      l = last :: d := by
    have hlocate := (FileTree.find_ok_iff ..).mp hfound
    exact congrArg FileTree.Spot.location
      (Except.ok.inj (hlocate.symm.trans (hnames.locate_target hlink)))
  rcases hat with ⟨_, rfl⟩ | ⟨mode', hfind⟩
  · -- The path is a name alone, so the file would be one of the scratch crate.
    refine absurd (hown fun target hlink => ?_) (hflat.ne_of_node? hthere last)
    exact hflat.files last _ hlink trivial
  · obtain ⟨hgiven, _⟩ := FileTree.walked_of_find hfind
    have hpresent : parent.text ≠ "" := by
      intro hempty
      obtain rfl : parent = ⟨""⟩ := by rw [← hempty]
      cases hgiven
    simp only [externalArguments, hparent, if_neg hpresent] at harguments
    refine ⟨?_, hfound, parent, d, mode', last, hparent, ?_, hfind, hnames, hown⟩
    · exact (List.prefix_append _ _).isInfix.trans harguments
    · exact (List.suffix_append _ _).isInfix.trans harguments

end Runs

/-- What the compiler links is what was checked whenever the path leads to it from the scratch
directory as well, which a rooted path always does and one that goes down never does. -/
theorem checked_crates_linked {m : Machine} {w : World} (c : ModuleCompiler)
    (sources : List Source) (extra : List Reference) (hconnected : w.tree.Connected)
    (hrooted : m.temporary.isRooted = true) :
    World.Ran (fun r => ∀ name path, Reference.external name path ∈ c.baseline ++ extra →
      ∃ l content mode, w.tree.find m.directory path = .ok (l, .file content mode) ∧
        (Linked r name path l (.file content mode) ↔
          r.before.find r.invocation.directory path = .ok (l, .file content mode)) ∧
        (path.isRooted = true → Linked r name path l (.file content mode)) ∧
        (GoesDown path → ¬ Linked r name path l (.file content mode)))
      w (c.compile m sources extra w).2 := by
  refine ran_of_ranIn fun hall hvalid directory r w' hran name path hmem => ?_
  have hflat := hran.flat hconnected hrooted hvalid
  obtain ⟨l, content, mode, hfind⟩ := FileTree.exists_find_of_isFile (hall name path hmem)
  have hthere : w.tree.node? l = some (.file content mode) :=
    (FileTree.walked_of_find hfind).2.node_eq.symm
  have hlinked : r.before.find r.invocation.directory path = .ok (l, .file content mode) →
      Linked r name path l (.file content mode) := by
    obtain ⟨program, hstarts, _⟩ := hran.started
    refine linked_of_find hflat ?_ hthere
    rw [hstarts.arguments]
    exact externalArguments_infix c _ hmem
  refine ⟨l, content, mode, hfind, ⟨Linked.found, hlinked⟩, fun hpath => hlinked ?_,
    fun hdown h => hflat.not_find_of_goesDown hdown hthere h.found⟩
  rw [FileTree.find_of_isRooted hpath r.before r.invocation.directory m.directory]
  exact FileTree.find_of_keepsWays hflat.keepsWays (hflat.node?_eq hthere) (by simp) hfind

namespace CrateSample

/-- Where the crate stands. -/
def place : Location := ["libhelpers.so", "target", "home"]

def file : Node := .file [1] 0o644

/-- The path of the crate from the directory of the host. -/
def relative : Path := ⟨"target/libhelpers.so"⟩

def rooted : Path := ⟨"/home/target/libhelpers.so"⟩

/-- The host runs in `/home`, and every program ends without doing anything. -/
def machine : Machine where
  directory := ["home"]
  executable := ⟨"/rendergen"⟩
  environment := []
  temporary := ⟨"/tmp"⟩
  program := fun _ => .ok fun _ t => ⟨.exited 1, [], [], t⟩

def world : World where
  tree := ⟨[(["tmp"], .directory 0o755), (["rustc"], .file [] 0o755), (["home"], .directory 0o755),
    (["target", "home"], .directory 0o755), (place, file)]⟩

def compiler : ModuleCompiler := ⟨⟨⟨"/rustc"⟩, "", ⟨""⟩, ""⟩, {}, []⟩

/-- One file under two paths. -/
def references : List Reference := [.external "helpers" relative, .external "again" rooted]

def compiled : World := (compiler.compile machine [] references world).2

theorem connected_world : world.tree.Connected :=
  FileTree.connected_of_entries (by decide)

theorem find_relative : world.tree.find machine.directory relative = .ok (place, file) := by
  rfl

theorem find_rooted : world.tree.find machine.directory rooted = .ok (place, file) := by
  rfl

/-- The compiler is run once, and the relative path and its parent lead to nothing for it. -/
theorem history_compiled :
    compiled.history.length = 1 ∧
    ∀ r ∈ compiled.history,
      ["--extern", "helpers=target/libhelpers.so", "-L", "dependency=target"] <:+:
          r.invocation.arguments ∧
        r.before.find r.invocation.directory relative = .error .notFound ∧
        r.before.find r.invocation.directory ⟨"target"⟩ = .error .notFound := by
  decide +kernel

end CrateSample

open CrateSample in
theorem checked_crates_linked_sample :
    world.tree.Connected ∧ machine.temporary.isRooted = true ∧ compiled.history.length = 1 ∧
    World.Ran
      (fun r => Linked r "again" rooted place file ∧ ¬ Linked r "helpers" relative place file)
      world compiled := by
  have htemporary : machine.temporary.isRooted = true := by decide
  have hran := checked_crates_linked compiler [] references connected_world htemporary
  refine ⟨connected_world, htemporary, history_compiled.1, hran.mono fun r h => ⟨?_, ?_⟩⟩
  · obtain ⟨l, content, mode, hfind, _, hlinked, _⟩ := h "again" rooted (by decide)
    cases hfind.symm.trans find_rooted
    exact hlinked (by decide)
  · obtain ⟨l, content, mode, hfind, _, _, hmissed⟩ := h "helpers" relative (by decide)
    cases hfind.symm.trans find_relative
    exact hmissed ⟨by decide, [], "target", [.down "libhelpers.so"], by decide +kernel, by simp⟩

open CrateSample in
/-- A crate that was checked is not there for the compiler, under the path that it is given. -/
theorem relative_crate_not_linked :
    world.tree.find machine.directory relative = .ok (place, file) ∧
    compiled.history.length = 1 ∧
    ∀ r ∈ compiled.history,
      ["--extern", "helpers=target/libhelpers.so", "-L", "dependency=target"] <:+:
          r.invocation.arguments ∧
        r.before.find r.invocation.directory relative = .error .notFound ∧
        r.before.find r.invocation.directory ⟨"target"⟩ = .error .notFound :=
  ⟨find_relative, history_compiled⟩

end ModuleCompiler
end TemplateBatch
