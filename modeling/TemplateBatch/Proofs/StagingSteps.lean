import TemplateBatch.Proofs.Entries
import TemplateBatch.Staging.Stager

/-!
What a single step of staging does to the files. The staged files have two fixed places, and every
pass over them works at a place of its own, under a temporary name, until the file is complete and
gets its own name or is given up. A step touches no more than that place and the two fixed ones.
-/
namespace TemplateBatch.Staging

open FileTree (Names DirectoryAt KeepsWays)

namespace Artifact

def name : Artifact → String
  | .executable => Bundle.workerFileName
  | .configuration => Bundle.configurationFileName

/-- The mode that a staged file has. -/
def mode : Artifact → Nat
  | .executable => executableMode
  | .configuration => temporaryMode

theorem isName (a : Artifact) : Path.IsName a.name := by
  cases a <;> exact ⟨by decide, 'r', by decide, by decide⟩

theorem name_injective {a b : Artifact} (h : a.name = b.name) : a = b := by
  cases a <;> cases b <;> first | rfl | exact absurd h (by decide)

theorem head?_name (a : Artifact) : a.name.toList.head? = some 'r' := by
  cases a <;> rfl

end Artifact

theorem Layout.path_eq_join (layout : Layout) (a : Artifact) :
    layout.path a = layout.directory.join a.name := by
  cases a <;> rfl

/-- A staged file as it is to be. -/
def Stock.file (stock : Stock) (a : Artifact) : Node := .file (stock.content a) a.mode

theorem noSeparator_serial (k : ℕ) : '/' ∉ (Machine.serial k).toList := by
  have hnumber := Path.noSeparator_number k
  simp only [Machine.serial, String.toList_append, String.toList_ofList, List.mem_append, not_or]
  exact ⟨by simp, hnumber⟩

theorem isName_temporary (k : ℕ) : Path.IsName (temporaryName k) := by
  refine ⟨?_, 't', ?_, by decide⟩
  · simp only [temporaryName, String.toList_append, List.mem_append, not_or]
    exact ⟨by decide, noSeparator_serial k⟩
  · simp [temporaryName]

theorem temporaryName_ne (k : ℕ) (a : Artifact) : temporaryName k ≠ a.name := by
  intro h
  have hhead : (temporaryName k).toList.head? = some '.' := by simp [temporaryName]
  rw [h, a.head?_name] at hhead
  exact absurd hhead (by decide)

theorem exists_freshPath (m : Machine) (w : World) (d : Path) (name : ℕ → String) :
    ∃ k, m.freshPath w d name = d.join (name k) := by
  have hname : ∀ t l fuel k, ∃ k', Machine.freshName t l name fuel k = name k' := by
    intro t l fuel
    induction fuel with
    | zero => exact fun k => ⟨k, rfl⟩
    | succ fuel ih =>
      intro k
      rw [Machine.freshName]
      split
      · exact ⟨k, rfl⟩
      · exact ih (k + 1)
  rw [Machine.freshPath]
  cases w.tree.find m.directory d with
  | error e => exact ⟨w.clock, rfl⟩
  | ok found =>
    obtain ⟨k, hk⟩ := hname w.tree found.1 w.tree.entries.length w.clock
    exact ⟨k, congrArg d.join hk⟩

theorem Phase.rank_pos {p : Phase} (hp : p.isFinal = false) : 0 < p.rank := by
  cases p with
  | done | failed e => cases hp
  | opening | permitting path => simp [Phase.rank]
  | _ a => cases a <;> simp [Phase.rank]

theorem Phase.isFinal_of_rank_le {p : Phase} (hp : p.rank ≤ 0) : p.isFinal = true := by
  by_contra hgoes
  have hrank := Phase.rank_pos (Bool.not_eq_true _ ▸ hgoes)
  omega

theorem rank_afterArtifact (a : Artifact) (path : Path) :
    (Phase.afterArtifact a).rank < (Phase.publishing a path).rank := by
  cases a <;> simp [Phase.afterArtifact, Phase.rank]

/-- Every step brings staging nearer to its end, whether it succeeds or not. -/
theorem rank_step (m : Machine) (layout : Layout) (stock : Stock) (obstacle : Option SystemError)
    (w : World) {p : Phase} (hp : p.isFinal = false) :
    (step m layout stock obstacle w p).1.rank < p.rank := by
  have hrefused : ∀ a path e,
      (step.afterRefusal m layout w a path e).1.rank < (Phase.publishing a path).rank := by
    intro a path e
    unfold step.afterRefusal
    split
    · exact rank_afterArtifact a path
    · cases a <;> simp [Phase.rank]
  unfold step
  cases p with
  | opening =>
    simp only
    split <;> try split
    all_goals simp [Phase.rank]
  | checking a => cases a <;> simp only <;> split <;> simp [Phase.rank, Phase.afterArtifact]
  | creating a => cases a <;> simp only <;> split <;> (try split) <;> simp [Phase.rank]
  | writing a path => cases a <;> simp only <;> split <;> simp [Phase.rank, Phase.afterWriting]
  | permitting path =>
    simp only
    split <;> try split
    all_goals simp [Phase.rank]
  | publishing a path =>
    cases obstacle with
    | some e => exact hrefused a path e
    | none =>
      cases hpublish : w.tree.publish m.directory path (layout.path a) with
      | error e => simpa only [hpublish] using hrefused a path e
      | ok t => simpa only [hpublish] using rank_afterArtifact a path
  | done => cases hp
  | failed e => cases hp

theorem steps_of_isFinal {m : Machine} {layout : Layout} {stock : Stock} {p : Phase}
    (hp : p.isFinal = true) (fuel : ℕ) (w : World) : steps m layout stock fuel p w = (p, w) := by
  cases fuel with
  | zero => rfl
  | succ fuel => rw [steps, if_pos hp]

theorem step_opening (m : Machine) (layout : Layout) (stock : Stock) (w : World) :
    step m layout stock none w .opening =
      match w.tree.makePath m.directory layout.directory with
      | (.ok (), t) => (.checking .executable, t)
      | (.error e, t) => (.failed (.system layout.directory e), t) := by
  unfold step
  rfl

/-- The files around a staging directory before anything is staged, with the places for what is to
be staged. -/
structure Ground (m : Machine) (layout : Layout) where
  tree : FileTree
  place : Artifact → Location
  names : ∀ a, tree.Names m.directory (layout.path a) (place a)
  free : ∀ a, tree.node? (place a) = none
  reached : ∃ l, DirectoryAt tree m.directory layout.directory l

/-- The temporary file can be created where that is the next thing to do. -/
def Phase.Creates (m : Machine) (layout : Layout) (w : World) : Phase → Prop
  | .creating a =>
    (w.tree.createNew m.directory (m.freshPath w (workshop layout a) temporaryName)
      temporaryMode).isOk = true
  | _ => True

instance (m : Machine) (layout : Layout) (w : World) :
    (p : Phase) → Decidable (p.Creates m layout w)
  | .creating _ => inferInstanceAs (Decidable (_ = true))
  | .opening | .checking _ | .writing .. | .permitting _ | .publishing .. | .done | .failed _ =>
    .isTrue trivial

/-- The file that a phase has in hand under a temporary name. -/
def Phase.draft? (stock : Stock) : Phase → Option (Path × Node)
  | .writing _ temporary => some (temporary, .file [] temporaryMode)
  | .permitting temporary => some (temporary, .file stock.executable temporaryMode)
  | .publishing a temporary => some (temporary, stock.file a)
  | _ => none

namespace Ground

variable {m : Machine} {layout : Layout} (g : Ground m layout) (stock : Stock)

/-- The temporary path names the place `l`, where nothing was before. -/
structure Draft (path : Path) (l : Location) : Prop where
  names : g.tree.Names m.directory path l
  free : g.tree.node? l = none
  apart : ∀ a, l ≠ g.place a
  isFile : FileTree.endsInSeparator path = false

/-- The draft that is in hand, if any, is `n` and stands at `l`. -/
def Desk (d : Option (Path × Node)) (l : Location) (n : Node) : Prop :=
  ∃ path, d = some (path, n) ∧ g.Draft path l

/-- A tree in which things have been staged: what was there before is there as it was, no ways have
been added, and both staged files are missing or complete. -/
structure Supports (t : FileTree) : Prop where
  kept : ∀ l n, g.tree.node? l = some n → t.node? l = some n
  ways : KeepsWays t g.tree
  staged : ∀ a, t.node? (g.place a) = none ∨ t.node? (g.place a) = some (stock.file a)

variable {g stock}

theorem exists_place (a : Artifact) : ∃ l, g.place a = a.name :: l :=
  (layout.path_eq_join a ▸ g.names a).of_join a.isName

theorem place_ne_nil (a : Artifact) : g.place a ≠ [] := FileTree.ne_nil_of_free (g.free a)

theorem place_injective {a b : Artifact} (h : g.place a = g.place b) : a = b := by
  obtain ⟨l, hl⟩ := g.exists_place a
  obtain ⟨l', hl'⟩ := g.exists_place b
  rw [hl, hl'] at h
  exact Artifact.name_injective (List.cons.inj h).1

theorem isFile_path (layout : Layout) (a : Artifact) :
    FileTree.endsInSeparator (layout.path a) = false := by
  rw [layout.path_eq_join]
  exact Path.not_endsInSeparator_join _ a.isName

theorem Draft.unique {path : Path} {l l' : Location} (h : g.Draft path l) (h' : g.Draft path l') :
    l = l' :=
  h.names.unique h'.names

theorem Draft.ne_nil {path : Path} {l : Location} (h : g.Draft path l) : l ≠ [] :=
  FileTree.ne_nil_of_free h.free

section Trees
variable {t : FileTree}

theorem Supports.names {path : Path} {l : Location} (h : g.Supports stock t)
    (hnames : g.tree.Names m.directory path l) : t.Names m.directory path l :=
  hnames.of_keepsWays fun l n hn _ => h.kept l n hn

theorem Supports.directoryAt (h : g.Supports stock t) :
    ∃ l, DirectoryAt t m.directory layout.directory l :=
  g.reached.imp fun _ hl => hl.of_keepsWays fun l n hn _ => h.kept l n hn

theorem Supports.draft_of_createNew {w : World} {t' : FileTree} {d : Path}
    (h : g.Supports stock w.tree)
    (hcreate : w.tree.createNew m.directory (m.freshPath w d temporaryName) temporaryMode =
      .ok t') :
    ∃ l, g.Draft (m.freshPath w d temporaryName) l ∧ w.tree.node? l = none ∧
      t' = w.tree.put l (.file [] temporaryMode) := by
  obtain ⟨l, hnames, hfree, rfl⟩ := FileTree.exists_of_createNew hcreate
  refine ⟨l, ⟨hnames.of_keepsWays h.ways, ?_, ?_, ?_⟩, hfree, rfl⟩
  · cases hnode : g.tree.node? l with
    | none => rfl
    | some n => exact absurd ((h.kept l n hnode).symm.trans hfree) (by simp)
  · intro a hplace
    obtain ⟨k, hk⟩ := exists_freshPath m w d temporaryName
    obtain ⟨l', rfl⟩ := (hk ▸ hnames).of_join (isName_temporary k)
    obtain ⟨l'', hl''⟩ := g.exists_place a
    exact temporaryName_ne k a (List.cons.inj (hplace.trans hl'')).1
  · obtain ⟨k, hk⟩ := exists_freshPath m w d temporaryName
    rw [hk]
    exact Path.not_endsInSeparator_join _ (isName_temporary k)

variable (g stock t) in
/-- A step of staging without obstacles, from a phase to the next and the tree that it leaves. -/
inductive Moves : Phase → Phase → FileTree → Prop
  | opened : Moves .opening (.checking .executable) t
  | found {a} (h : t.node? (g.place a) = some (stock.file a)) :
      Moves (.checking a) (Phase.afterArtifact a) t
  | missing {a} (h : t.node? (g.place a) = none) : Moves (.checking a) (.creating a) t
  | created {a path l} (hdraft : g.Draft path l) (hfree : t.node? l = none) :
      Moves (.creating a) (.writing a path) (t.put l (.file [] temporaryMode))
  | written {a path l} (hdraft : g.Draft path l) :
      Moves (.writing a path) (Phase.afterWriting a path)
        (t.put l (.file (stock.content a) temporaryMode))
  | permitted {path l} (hdraft : g.Draft path l) :
      Moves (.permitting path) (.publishing .executable path) (t.put l (stock.file .executable))
  | published {a path l} (hdraft : g.Draft path l) (h : t.node? (g.place a) = none) :
      Moves (.publishing a path) (Phase.afterArtifact a)
        ((t.erase l).put (g.place a) (stock.file a))
  /-- Another pass was faster. -/
  | beaten {a path l} (hdraft : g.Draft path l)
      (h : t.node? (g.place a) = some (stock.file a)) :
      Moves (.publishing a path) (Phase.afterArtifact a) (t.erase l)

/-- The draft of a phase stands in the tree. -/
def Drafted (g : Ground m layout) (stock : Stock) (p : Phase) (t : FileTree) : Prop :=
  ∀ path n, p.draft? stock = some (path, n) → ∃ l, g.Draft path l ∧ t.node? l = some n

theorem step_moves {w : World} {p : Phase} (h : g.Supports stock w.tree)
    (hdrafted : Drafted g stock p w.tree) (hcreates : p.Creates m layout w)
    (hp : p.isFinal = false) :
    Moves g stock w.tree p (step m layout stock none w p).1 (step m layout stock none w p).2 := by
  unfold step
  cases p with
  | opening =>
    obtain ⟨l, hl⟩ := h.directoryAt
    simp only [FileTree.makePath_of_directoryAt hl]
    exact Moves.opened
  | checking a =>
    have hnames := h.names (g.names a)
    rcases h.staged a with hnone | hsome
    · have hexists : w.tree.exists? m.directory (layout.path a) = false := by
        rw [FileTree.exists?, FileTree.find_free hnames hnone]
      simp only [hexists]
      exact Moves.missing hnone
    · have hexists : w.tree.exists? m.directory (layout.path a) = true := by
        rw [FileTree.exists?, FileTree.find_file hnames hsome]
      simp only [hexists]
      exact Moves.found hsome
  | creating a =>
    cases hcreate : w.tree.createNew m.directory (m.freshPath w (workshop layout a) temporaryName)
        temporaryMode with
    | error e => simp [Phase.Creates, hcreate, Except.isOk, Except.toBool] at hcreates
    | ok t' =>
      obtain ⟨l, hdraft, hfree, rfl⟩ := h.draft_of_createNew hcreate
      simp only [hcreate]
      exact Moves.created hdraft hfree
  | writing a path =>
    obtain ⟨l, hdraft, hnode⟩ := hdrafted path _ rfl
    simp only [FileTree.fill_file (h.names hdraft.names) hnode]
    exact Moves.written hdraft
  | permitting path =>
    obtain ⟨l, hdraft, hnode⟩ := hdrafted path _ rfl
    simp only [FileTree.setMode_file (h.names hdraft.names) hnode]
    exact Moves.permitted hdraft
  | publishing a path =>
    obtain ⟨l, hdraft, hnode⟩ := hdrafted path _ rfl
    have hnames := h.names hdraft.names
    rcases h.staged a with hnone | hsome
    · simp only [FileTree.publish_free hnames hnode (h.names (g.names a)) hnone]
      exact Moves.published hdraft hnone
    · have hdiscard : discard w.tree m.directory path = w.tree.erase l := by
        rw [discard, FileTree.removeFile_file hnames hdraft.isFile hnode]
      simp only [FileTree.publish_taken hnames hnode (h.names (g.names a)) hsome,
        step.afterRefusal, hdiscard]
      exact Moves.beaten hdraft hsome
  | done => cases hp
  | failed e => cases hp

theorem Moves.not_failed {p p' : Phase} {t' : FileTree} (h : Moves g stock t p p' t')
    (e : StageError) : p' ≠ .failed e := by
  cases h with
  | @found a _ => cases a <;> exact Phase.noConfusion
  | @written a _ _ _ => cases a <;> exact Phase.noConfusion
  | @published a _ _ _ _ => cases a <;> exact Phase.noConfusion
  | @beaten a _ _ _ _ => cases a <;> exact Phase.noConfusion
  | _ => exact Phase.noConfusion

/-- The place of a staged file is left alone, unless the file is published there. -/
theorem Moves.place {p p' : Phase} {t' : FileTree} (h : Moves g stock t p p' t') (a : Artifact) :
    t'.node? (g.place a) = t.node? (g.place a) ∨
      t.node? (g.place a) = none ∧ t'.node? (g.place a) = some (stock.file a) ∧
        (∃ path, p = .publishing a path) ∧ p' = Phase.afterArtifact a := by
  have hput : ∀ {path l n}, g.Draft path l →
      (t.put l n).node? (g.place a) = t.node? (g.place a) := by
    intro path l n hdraft
    rw [FileTree.node?_put _ _ _ _ hdraft.ne_nil, if_neg (hdraft.apart a).symm]
  have herase : ∀ {path l}, g.Draft path l →
      (t.erase l).node? (g.place a) = t.node? (g.place a) := by
    intro path l hdraft
    rw [FileTree.node?_erase _ _ _ hdraft.ne_nil, if_neg (hdraft.apart a).symm]
  cases h with
  | created hdraft _ => exact Or.inl (hput hdraft)
  | written hdraft => exact Or.inl (hput hdraft)
  | permitted hdraft => exact Or.inl (hput hdraft)
  | beaten hdraft _ => exact Or.inl (herase hdraft)
  | @published b path _ hdraft hfree =>
    rw [FileTree.node?_put _ _ _ _ (place_ne_nil b)]
    by_cases hb : a = b
    · subst hb
      exact Or.inr ⟨hfree, if_pos rfl, ⟨path, rfl⟩, rfl⟩
    · rw [if_neg fun hplace => hb (place_injective hplace)]
      exact Or.inl (herase hdraft)
  | _ => exact Or.inl rfl

theorem Moves.kept {p p' : Phase} {t' : FileTree} {a : Artifact} {n : Node}
    (h : Moves g stock t p p' t') (hn : t.node? (g.place a) = some n) :
    t'.node? (g.place a) = some n := by
  rcases h.place a with hsame | ⟨hnone, _⟩
  · rw [hsame, hn]
  · rw [hn] at hnone
    cases hnone

variable (g stock t) in
/-- A change of the tree that comes with a change of the draft in hand, from `d` to `d'`: away from
the draft and the two staged files nothing happens, a new draft takes a free place, and one that is
no longer in hand leaves nothing behind. -/
structure Change (d d' : Option (Path × Node)) (t' : FileTree) : Prop where
  frame : ∀ l, (∀ a, l ≠ g.place a) → (∀ n, ¬ g.Desk d l n) → (∀ n, ¬ g.Desk d' l n) →
    t'.node? l = t.node? l
  present : ∀ l n, g.Desk d' l n → t'.node? l = some n
  fresh : ∀ l n, g.Desk d' l n → (∃ old, g.Desk d l old) ∨ t.node? l = none
  left : ∀ l n, g.Desk d l n → (∃ new, g.Desk d' l new) ∨ t'.node? l = none
  staged : ∀ a, t'.node? (g.place a) = none ∨ t'.node? (g.place a) = some (stock.file a)
  drafts : ∀ path n, d' = some (path, n) → ∃ l, g.Draft path l

theorem not_desk_none {l : Location} {n : Node} : ¬ g.Desk none l n := by
  rintro ⟨path, h, _⟩
  cases h

theorem desk_some {path : Path} {l l' : Location} {n n' : Node} (hdraft : g.Draft path l)
    (h : g.Desk (some (path, n)) l' n') : l' = l ∧ n' = n := by
  obtain ⟨_, heq, hdraft'⟩ := h
  obtain ⟨rfl, rfl⟩ := Prod.mk.inj (Option.some.inj heq)
  exact ⟨hdraft'.unique hdraft, rfl⟩

section Changes
variable {t' : FileTree} {path : Path} {l : Location} {n : Node} {a : Artifact}

theorem Change.idle (h : g.Supports stock t) : Change g stock t none none t where
  frame _ _ _ _ := rfl
  present _ _ hdesk := absurd hdesk not_desk_none
  fresh _ _ hdesk := absurd hdesk not_desk_none
  left _ _ hdesk := absurd hdesk not_desk_none
  staged := h.staged
  drafts _ _ hnone := by cases hnone

/-- A draft is begun at a free place, or replaced by what is next. -/
theorem Change.put {d : Option (Path × Node)} (h : g.Supports stock t) (hdraft : g.Draft path l)
    (hd : (d = none ∧ t.node? l = none) ∨ ∃ old, d = some (path, old)) :
    Change g stock t d (some (path, n)) (t.put l n) where
  frame l' _ _ hdesk := by
    have hl' : l' ≠ l := by
      rintro rfl
      exact hdesk n ⟨path, rfl, hdraft⟩
    rw [FileTree.node?_put t l l' n hdraft.ne_nil, if_neg hl']
  present l' n' hdesk := by
    obtain ⟨rfl, rfl⟩ := desk_some hdraft hdesk
    rw [FileTree.node?_put t l' l' n' hdraft.ne_nil, if_pos rfl]
  fresh l' n' hdesk := by
    obtain ⟨rfl, rfl⟩ := desk_some hdraft hdesk
    rcases hd with ⟨_, hfree⟩ | ⟨old, rfl⟩
    · exact Or.inr hfree
    · exact Or.inl ⟨old, path, rfl, hdraft⟩
  left l' n' hdesk := by
    rcases hd with ⟨rfl, _⟩ | ⟨old, rfl⟩
    · exact absurd hdesk not_desk_none
    · obtain ⟨rfl, rfl⟩ := desk_some hdraft hdesk
      exact Or.inl ⟨n, path, rfl, hdraft⟩
  staged b := by
    rw [FileTree.node?_put t l _ n hdraft.ne_nil, if_neg (hdraft.apart b).symm]
    exact h.staged b
  drafts path' n' hd' := by
    obtain ⟨rfl, _⟩ := Prod.mk.inj (Option.some.inj hd')
    exact ⟨l, hdraft⟩

/-- The draft is gone and the artifact in place, whoever put it there. -/
theorem Change.finish (h : g.Supports stock t) (hdraft : g.Draft path l)
    (ht' : ∀ l', t'.node? l' =
      if l' = g.place a then some (stock.file a) else if l' = l then none else t.node? l') :
    Change g stock t (some (path, n)) none t' where
  frame l' hplaces hdesk _ := by
    have hl' : l' ≠ l := by
      rintro rfl
      exact hdesk n ⟨path, rfl, hdraft⟩
    rw [ht', if_neg (hplaces a), if_neg hl']
  present _ _ hdesk := absurd hdesk not_desk_none
  fresh _ _ hdesk := absurd hdesk not_desk_none
  left l' n' hdesk := by
    obtain ⟨rfl, rfl⟩ := desk_some hdraft hdesk
    right
    rw [ht', if_neg (hdraft.apart a), if_pos rfl]
  staged b := by
    by_cases hb : b = a
    · exact Or.inr (by rw [ht', hb, if_pos rfl])
    · rw [ht', if_neg fun hplace => hb (place_injective hplace), if_neg (hdraft.apart b).symm]
      exact h.staged b
  drafts _ _ hnone := by cases hnone

theorem Change.clear (h : g.Supports stock t)
    (ht' : ∀ l', t'.node? l' = if l' = g.place a then none else t.node? l') :
    Change g stock t none none t' where
  frame l' hplaces _ _ := by rw [ht', if_neg (hplaces a)]
  present _ _ hdesk := absurd hdesk not_desk_none
  fresh _ _ hdesk := absurd hdesk not_desk_none
  left _ _ hdesk := absurd hdesk not_desk_none
  staged b := by
    rw [ht']
    split
    · exact Or.inl rfl
    · exact h.staged b
  drafts _ _ hnone := by cases hnone

end Changes

theorem draft?_afterArtifact (a : Artifact) : (Phase.afterArtifact a).draft? stock = none := by
  cases a <;> rfl

theorem draft?_afterWriting (a : Artifact) (path : Path) :
    (Phase.afterWriting a path).draft? stock =
      some (path, .file (stock.content a) temporaryMode) := by
  cases a <;> rfl

theorem Moves.change {p p' : Phase} {t' : FileTree} (h : g.Supports stock t)
    (hmoves : Moves g stock t p p' t') :
    Change g stock t (p.draft? stock) (p'.draft? stock) t' := by
  cases hmoves with
  | opened => exact Change.idle h
  | found _ =>
    rw [draft?_afterArtifact]
    exact Change.idle h
  | missing _ => exact Change.idle h
  | created hdraft hfree => exact Change.put h hdraft (Or.inl ⟨rfl, hfree⟩)
  | written hdraft =>
    rw [draft?_afterWriting]
    exact Change.put h hdraft (Or.inr ⟨_, rfl⟩)
  | permitted hdraft => exact Change.put h hdraft (Or.inr ⟨_, rfl⟩)
  | @published a path l hdraft hfree =>
    rw [draft?_afterArtifact]
    refine Change.finish (a := a) h hdraft fun l' => ?_
    rw [FileTree.node?_put _ _ _ _ (place_ne_nil a), FileTree.node?_erase _ _ _ hdraft.ne_nil]
  | @beaten a path l hdraft htaken =>
    rw [draft?_afterArtifact]
    refine Change.finish (a := a) h hdraft fun l' => ?_
    rw [FileTree.node?_erase _ _ _ hdraft.ne_nil]
    by_cases hplace : l' = g.place a
    · rw [if_pos hplace, hplace, if_neg (hdraft.apart a).symm, htaken]
    · rw [if_neg hplace]

end Trees
end Ground
end TemplateBatch.Staging
