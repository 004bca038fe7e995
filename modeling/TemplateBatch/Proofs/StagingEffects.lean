import TemplateBatch.Proofs.AddedFiles
import TemplateBatch.Proofs.StagingSteps
import TemplateBatch.Proofs.WorkResults

/-!
What staging leaves behind, whatever the files were before and whichever step fails. A step is told
by the tree without the file that staging has in hand: that tree changes when directories are made
and when a complete file gets its own name, and never in what was there before.
-/
namespace TemplateBatch

namespace FileTree

theorem walk_ne_of_follow_ne {t : FileTree} {aim : Aim} {links : ℕ}
    (hfollow : ∀ here ms, follow t aim links here ms ≠ .error .alreadyExists) (here : Location)
    (ms : List Move) : walk t aim links here ms ≠ .error .alreadyExists := by
  induction ms generalizing here with
  | nil => simp [walk_nil]
  | cons m ms ih =>
    cases m with
    | stay => exact walk_stay t aim links here ms ▸ ih here
    | within => exact walk_within t aim links here ms ▸ ih here
    | up => exact walk_up t aim links here ms ▸ ih here.tail
    | down name =>
      rw [walk_eq, walkWith, ← walk_eq]
      cases t.node? (name :: here) with
      | none => split_ifs <;> simp
      | some n =>
        cases n with
        | file content mode => split_ifs <;> simp
        | directory mode => split_ifs <;> simp [ih]
        | link target => split_ifs <;> simp [hfollow]

theorem locate_ne_alreadyExists (t : FileTree) (base : Location) (aim : Aim) (p : Path) :
    t.locate base aim p ≠ .error .alreadyExists := by
  have hwalk : ∀ links here ms, walk t aim links here ms ≠ .error .alreadyExists := by
    intro links
    induction links with
    | zero => exact walk_ne_of_follow_ne (by simp [follow])
    | succ links ih => exact walk_ne_of_follow_ne ih
  rw [locate]
  cases hrefusal : refusal? p with
  | none => exact hwalk _ _ _
  | some e =>
    rw [refusal?] at hrefusal
    rintro ⟨⟩
    split_ifs at hrefusal <;> cases hrefusal

/-- The nodes of `t'` are those of `t`. -/
def Agrees (t t' : FileTree) : Prop := ∀ l, t'.node? l = t.node? l

section Trees
variable {t t' t'' : FileTree} {base l : Location} {p : Path}

theorem Agrees.refl (t : FileTree) : Agrees t t := fun _ => rfl

theorem Agrees.symm (h : Agrees t t') : Agrees t' t := fun l => (h l).symm

theorem Agrees.trans (h : Agrees t t') (h' : Agrees t' t'') : Agrees t t'' :=
  fun l => (h' l).trans (h l)

theorem Agrees.keepsWays (h : Agrees t t') : KeepsWays t t' := fun l _ hn _ => (h l).trans hn

theorem Agrees.under?_eq (h : Agrees t t') (base : Location) (p : Path) :
    t'.under? base p = t.under? base p :=
  under?_congr h.keepsWays h.symm.keepsWays fun l _ => h l

/-- Where a file was added, taking it away again is going back. -/
theorem Adds.erase {n : Node} (h : Adds l n t t') : Agrees t (t'.erase l) := by
  intro l'
  rw [node?_erase _ _ _ (ne_nil_of_free h.free), h.nodes]
  split_ifs with hl'
  · rw [hl', h.free]
  · rfl

theorem DirectoryAt.eq_of_names {name : String} {l' : Location} (hat : DirectoryAt t base p l)
    (hname : Path.IsName name) (h : t.Names base (p.join name) l') : l' = name :: l := by
  have hwalk := ((locate_ok_iff ..).mp h).2
  obtain ⟨left, hjoin⟩ := walk_join hat hname .entry
  rw [hjoin] at hwalk
  obtain ⟨_, ⟨_, hs⟩ | ⟨_, _, hrest⟩ | ⟨_, _, hgoes, _⟩⟩ := walk_down_cases hwalk
  · exact congrArg Spot.location hs
  · rw [walk_nil] at hrest
    exact congrArg Spot.location (Except.ok.inj hrest).symm
  · exact absurd ⟨rfl, rfl⟩ hgoes

end Trees
end FileTree

namespace Staging

open FileTree (Names DirectoryAt KeepsWays Adds Agrees MadeFor)

/-- The tree `t` is `s` with a file `n` more, which stands at `l` under a temporary name. -/
structure InHand (m : Machine) (path : Path) (l : Location) (n : Node) (s t : FileTree) :
    Prop where
  names : s.Names m.directory path l
  temporary : ∃ d k, path = Path.join d (temporaryName k)
  adds : Adds l n s t

/-- The tree `t` is `s` with the file that the phase has in hand. -/
def Phase.Extends (m : Machine) (stock : Stock) (p : Phase) (s t : FileTree) : Prop :=
  match p.draft? stock with
  | none => t = s
  | some (path, n) => ∃ l, InHand m path l n s t

/-- A step from a phase to the next and what it makes of the tree without the file in hand. -/
inductive Advances (m : Machine) (layout : Layout) (stock : Stock) (obstacle : Option SystemError)
    (s : FileTree) : Phase → Phase → FileTree → Prop
  | opened {s'} (h : s.makePath m.directory layout.directory = (.ok (), s')) :
      Advances m layout stock obstacle s .opening (.checking .executable) s'
  | unopened {e s'} (h : MadeFor m.directory
      (FileTree.ancestors layout.directory.chars.length layout.directory) s s') :
      Advances m layout stock obstacle s .opening (.failed e) s'
  | found {a} (h : s.exists? m.directory (layout.path a) = true) :
      Advances m layout stock obstacle s (.checking a) (Phase.afterArtifact a) s
  | missing {a} : Advances m layout stock obstacle s (.checking a) (.creating a) s
  | created {a path} : Advances m layout stock obstacle s (.creating a) (.writing a path) s
  | written {a path} :
      Advances m layout stock obstacle s (.writing a path) (Phase.afterWriting a path) s
  | permitted {path} :
      Advances m layout stock obstacle s (.permitting path) (.publishing .executable path) s
  | published {a path l s'} (hnames : s.Names m.directory (layout.path a) l)
      (hadds : Adds l (stock.file a) s s') :
      Advances m layout stock obstacle s (.publishing a path) (Phase.afterArtifact a) s'
  /-- Another pass was faster, or is said to have been. -/
  | beaten {a path s'}
      (h : obstacle = some .alreadyExists ∨ s.under? m.directory (layout.path a) ≠ none)
      (hagrees : Agrees s s') :
      Advances m layout stock obstacle s (.publishing a path) (Phase.afterArtifact a) s'
  | failed {p e s'} (hp : p ≠ .opening) (hagrees : Agrees s s') :
      Advances m layout stock obstacle s p (.failed e) s'

theorem artifact_unique {layout : Layout} {t : FileTree} {base l : Location} {a b : Artifact}
    (h : t.Names base (layout.path a) l) (h' : t.Names base (layout.path b) l) : a = b := by
  obtain ⟨d, rfl⟩ := (layout.path_eq_join a ▸ h).of_join a.isName
  obtain ⟨d', hd'⟩ := (layout.path_eq_join b ▸ h').of_join b.isName
  exact Artifact.name_injective (List.cons.inj hd').1

section Hand
variable {m : Machine} {path : Path} {l : Location} {n : Node} {s t : FileTree}

theorem InHand.node (h : InHand m path l n s t) : t.node? l = some n := by
  rw [h.adds.nodes, if_pos rfl]

theorem InHand.names_of_tree (h : InHand m path l n s t) : t.Names m.directory path l :=
  h.names.of_keepsWays h.adds.keepsWays

theorem InHand.isFile (h : InHand m path l n s t) : FileTree.endsInSeparator path = false := by
  obtain ⟨d, k, hpath⟩ := h.temporary
  rw [hpath]
  exact Path.not_endsInSeparator_join d (isName_temporary k)

theorem InHand.put (h : InHand m path l n s t) {new : Node} (hnew : ¬ new.IsWay) :
    InHand m path l new s (t.put l new) := by
  refine ⟨h.names, h.temporary, h.adds.free, hnew, fun l' => ?_⟩
  rw [FileTree.node?_put _ _ _ _ (FileTree.ne_nil_of_free h.adds.free), h.adds.nodes]
  split_ifs <;> rfl

theorem InHand.agrees_discard {content : Bytes} {mode : ℕ}
    (h : InHand m path l (.file content mode) s t) : Agrees s (discard t m.directory path) := by
  rw [discard, FileTree.removeFile_file h.names_of_tree h.isFile h.node]
  exact h.adds.erase

/-- The place of a staged file is none under a temporary name. -/
theorem InHand.apart (h : InHand m path l n s t) {layout : Layout} {a : Artifact} {l' : Location}
    (hnames : t.Names m.directory (layout.path a) l') : l' ≠ l := by
  obtain ⟨d, k, hpath⟩ := h.temporary
  obtain ⟨l₁, hl₁⟩ := (hpath ▸ h.names).of_join (isName_temporary k)
  obtain ⟨l₂, hl₂⟩ := (layout.path_eq_join a ▸ hnames).of_join a.isName
  rw [hl₁, hl₂]
  exact fun heq => temporaryName_ne k a (List.cons.inj heq).1.symm

end Hand

section Steps
variable {m : Machine} {layout : Layout} {stock : Stock} {s : FileTree} {w : World} {p : Phase}

theorem Phase.extends_of_draft {t : FileTree} (h : p.draft? stock = none) :
    p.Extends m stock t t := by
  rw [Extends, h]

theorem Phase.extends_afterArtifact (a : Artifact) (t : FileTree) :
    (Phase.afterArtifact a).Extends m stock t t :=
  Phase.extends_of_draft (Ground.draft?_afterArtifact a)

/-- What is created under a temporary name is in hand from then on. -/
theorem inHand_of_createNew {d : Path} {t : FileTree}
    (h : w.tree.createNew m.directory (m.freshPath w d temporaryName) temporaryMode = .ok t) :
    ∃ l, InHand m (m.freshPath w d temporaryName) l (.file [] temporaryMode) w.tree t := by
  obtain ⟨l, hnames, hfree, rfl⟩ := FileTree.exists_of_createNew h
  obtain ⟨k, hk⟩ := exists_freshPath m w d temporaryName
  refine ⟨l, hnames, ⟨d, k, hk⟩, hfree, id, fun l' => ?_⟩
  exact FileTree.node?_put _ _ _ _ (FileTree.ne_nil_of_free hfree)

variable (layout) in
/-- A file in hand is published where nothing is, unless something is there. -/
theorem InHand.publish {a : Artifact} {path : Path} {l : Location} {t : FileTree}
    (h : InHand m path l (stock.file a) s t) :
    (∃ t' l', t.publish m.directory path (layout.path a) = .ok t' ∧
        s.Names m.directory (layout.path a) l' ∧ Adds l' (stock.file a) s t') ∨
      ∃ e, t.publish m.directory path (layout.path a) = .error e ∧
        (e = .alreadyExists → s.under? m.directory (layout.path a) ≠ none) := by
  rcases hlocate : t.locate m.directory .entry (layout.path a) with e | ⟨l', _ | n⟩
  · refine Or.inr ⟨e, by rw [FileTree.publish, h.names_of_tree, h.node, hlocate], ?_⟩
    rintro rfl
    exact absurd hlocate (FileTree.locate_ne_alreadyExists _ _ _ _)
  · obtain ⟨hnames, hfree⟩ := FileTree.names_of_locate hlocate
    have hne : l' ≠ l := h.apart hnames
    have hfree' : s.node? l' = none := by
      have hnode := h.adds.nodes l'
      rw [← hfree, if_neg hne] at hnode
      exact hnode.symm
    refine Or.inl ⟨_, l', FileTree.publish_free h.names_of_tree h.node hnames hfree.symm,
      hnames.of_keepsWays h.adds.keepsWays_back, hfree', h.adds.isFile, fun l'' => ?_⟩
    rw [FileTree.node?_put _ _ _ _ (FileTree.ne_nil_of_free hfree'), h.adds.erase]
  · obtain ⟨hnames, htaken⟩ := FileTree.names_of_locate hlocate
    refine Or.inr ⟨_, FileTree.publish_taken h.names_of_tree h.node hnames htaken.symm, ?_⟩
    intro _
    have hne : l' ≠ l := h.apart hnames
    rw [(hnames.of_keepsWays h.adds.keepsWays_back).under?_eq]
    have hnode := h.adds.nodes l'
    rw [← htaken, if_neg hne] at hnode
    simp [← hnode]

/-- What a step from `p` came to, told by the tree without the file in hand. -/
def Came (m : Machine) (layout : Layout) (stock : Stock) (obstacle : Option SystemError)
    (s : FileTree) (p : Phase) (r : Phase × FileTree) : Prop :=
  ∃ s', Advances m layout stock obstacle s p r.1 s' ∧ r.1.Extends m stock s' r.2

section Phases
variable (m layout stock w) (obstacle : Option SystemError)

theorem came_opening :
    Came m layout stock obstacle w.tree .opening (step m layout stock obstacle w .opening) := by
  cases obstacle with
  | some e => exact ⟨w.tree, .unopened (MadeFor.refl _ _ _), Phase.extends_of_draft rfl⟩
  | none =>
    rw [step_opening]
    have hmade := FileTree.makePath_madeFor w.tree m.directory layout.directory
    rcases hmake : w.tree.makePath m.directory layout.directory with ⟨e | _, t⟩
    · rw [hmake] at hmade
      exact ⟨t, .unopened hmade, Phase.extends_of_draft rfl⟩
    · exact ⟨t, .opened hmake, Phase.extends_of_draft rfl⟩

theorem came_checking (a : Artifact) :
    Came m layout stock obstacle w.tree (.checking a)
      (step m layout stock obstacle w (.checking a)) := by
  unfold step
  cases hexists : w.tree.exists? m.directory (layout.path a) with
  | true =>
    simp only [hexists, if_true]
    exact ⟨w.tree, .found hexists, Phase.extends_afterArtifact a w.tree⟩
  | false =>
    simp only [hexists, Bool.false_eq_true, if_false]
    exact ⟨w.tree, .missing, Phase.extends_of_draft rfl⟩

theorem came_creating (a : Artifact) :
    Came m layout stock obstacle w.tree (.creating a)
      (step m layout stock obstacle w (.creating a)) := by
  unfold step
  cases obstacle with
  | some e => exact ⟨w.tree, .failed (by simp) (Agrees.refl _), Phase.extends_of_draft rfl⟩
  | none =>
    cases hcreate : w.tree.createNew m.directory
        (m.freshPath w (workshop layout a) temporaryName) temporaryMode with
    | error e =>
      simp only [hcreate]
      exact ⟨w.tree, .failed (by simp) (Agrees.refl _), Phase.extends_of_draft rfl⟩
    | ok t =>
      simp only [hcreate]
      exact ⟨w.tree, .created, inHand_of_createNew hcreate⟩

variable {w} {path : Path} {l : Location}

theorem InHand.came_writing (a : Artifact)
    (h : InHand m path l (.file [] temporaryMode) s w.tree) :
    Came m layout stock obstacle s (.writing a path)
      (step m layout stock obstacle w (.writing a path)) := by
  unfold step
  cases obstacle with
  | some e => exact ⟨_, .failed (by simp) h.agrees_discard, Phase.extends_of_draft rfl⟩
  | none =>
    refine ⟨s, .written, ?_⟩
    simp only [Phase.Extends, Ground.draft?_afterWriting]
    rw [FileTree.fill_file h.names_of_tree h.node]
    exact ⟨l, h.put id⟩

theorem InHand.came_permitting
    (h : InHand m path l (.file stock.executable temporaryMode) s w.tree) :
    Came m layout stock obstacle s (.permitting path)
      (step m layout stock obstacle w (.permitting path)) := by
  unfold step
  cases obstacle with
  | some e => exact ⟨_, .failed (by simp) h.agrees_discard, Phase.extends_of_draft rfl⟩
  | none =>
    simp only [FileTree.setMode_file h.names_of_tree h.node]
    exact ⟨s, .permitted, l, h.put id⟩

variable {obstacle} in
/-- A file in hand whose publication is refused is taken away, and the pass goes on where another
one stands in its place. -/
theorem InHand.came_afterRefusal {a : Artifact} {e : SystemError}
    (h : InHand m path l (stock.file a) s w.tree)
    (he : e = .alreadyExists →
      obstacle = some .alreadyExists ∨ s.under? m.directory (layout.path a) ≠ none) :
    Came m layout stock obstacle s (.publishing a path)
      (step.afterRefusal m layout w a path e) := by
  unfold step.afterRefusal
  split_ifs with hexists
  · exact ⟨_, .beaten (he hexists) h.agrees_discard, Phase.extends_afterArtifact a _⟩
  · exact ⟨_, .failed (by simp) h.agrees_discard, Phase.extends_of_draft rfl⟩

theorem InHand.came_publishing (a : Artifact) (h : InHand m path l (stock.file a) s w.tree) :
    Came m layout stock obstacle s (.publishing a path)
      (step m layout stock obstacle w (.publishing a path)) := by
  cases obstacle with
  | some e => exact h.came_afterRefusal m layout stock fun he => Or.inl (congrArg some he)
  | none =>
    unfold step
    rcases h.publish layout with ⟨t', l', hpublish, hnames, hadds⟩ | ⟨e, hpublish, he⟩
    · simp only [hpublish]
      exact ⟨t', .published hnames hadds, Phase.extends_afterArtifact a t'⟩
    · simp only [hpublish]
      exact h.came_afterRefusal m layout stock fun heq => Or.inr (he heq)

/-- What a step does to the tree without the file in hand, obstacles included. -/
theorem came_step (h : p.Extends m stock s w.tree) (hp : p.isFinal = false) :
    Came m layout stock obstacle s p (step m layout stock obstacle w p) := by
  cases p with
  | opening =>
    obtain rfl : w.tree = s := h
    exact came_opening m layout stock w obstacle
  | checking a =>
    obtain rfl : w.tree = s := h
    exact came_checking m layout stock w obstacle a
  | creating a =>
    obtain rfl : w.tree = s := h
    exact came_creating m layout stock w obstacle a
  | writing a path =>
    obtain ⟨l, hhand⟩ : ∃ l, InHand m path l (.file [] temporaryMode) s w.tree := h
    exact hhand.came_writing m layout stock obstacle a
  | permitting path =>
    obtain ⟨l, hhand⟩ : ∃ l, InHand m path l (.file stock.executable temporaryMode) s w.tree := h
    exact hhand.came_permitting m layout stock obstacle
  | publishing a path =>
    obtain ⟨l, hhand⟩ : ∃ l, InHand m path l (stock.file a) s w.tree := h
    exact hhand.came_publishing m layout stock obstacle a
  | done => cases hp
  | failed e => cases hp

end Phases

theorem Phase.draft?_of_isFinal (hp : p.isFinal = true) : p.draft? stock = none := by
  cases p with
  | done => rfl
  | failed e => rfl
  | _ => cases hp

/-- What every step keeps, told by the tree without the file in hand, is true of the tree when the
pass is over. -/
theorem steps_induction {P : Phase → FileTree → Prop}
    (hstep : ∀ k p p' s s', P p s → Advances m layout stock (m.obstacle k) s p p' s' → P p' s')
    {fuel : ℕ} (h : P p s) (hextends : p.Extends m stock s w.tree) (hfuel : p.rank ≤ fuel) :
    let r := steps m layout stock fuel p w
    r.1.isFinal = true ∧ P r.1 r.2.tree ∧ r.2.history = w.history := by
  induction fuel generalizing p w s with
  | zero =>
    have hfinal : p.isFinal = true := Phase.isFinal_of_rank_le hfuel
    rw [Phase.Extends, Phase.draft?_of_isFinal hfinal] at hextends
    exact ⟨hfinal, hextends ▸ h, rfl⟩
  | succ fuel ih =>
    cases hfinal : p.isFinal with
    | true =>
      rw [Phase.Extends, Phase.draft?_of_isFinal hfinal] at hextends
      rw [steps_of_isFinal hfinal]
      exact ⟨hfinal, hextends ▸ h, rfl⟩
    | false =>
      obtain ⟨s', hadvances, hextends'⟩ :=
        came_step m layout stock (m.obstacle w.clock) hextends hfinal
      have hrank := rank_step m layout stock (m.obstacle w.clock) w hfinal
      rw [steps, hfinal, if_neg Bool.false_ne_true]
      rcases hnext : step m layout stock (m.obstacle w.clock) w p with ⟨p', t⟩
      rw [hnext] at hadvances hextends' hrank
      exact ih (w := { w with tree := t, clock := w.clock + 1 }) (hstep _ _ _ _ _ h hadvances)
        hextends' (Nat.le_of_lt_succ (hrank.trans_le hfuel))

variable (m layout stock w) in
theorem complete_induction {P : Phase → FileTree → Prop} (hopening : P .opening w.tree)
    (hstep : ∀ k p p' s s', P p s → Advances m layout stock (m.obstacle k) s p p' s' → P p' s') :
    let r := ExceptT.run (complete m layout stock) w
    r.2.history = w.history ∧
      ((r.1 = .ok () ∧ P .done r.2.tree) ∨ ∃ e, r.1 = .error e ∧ P (.failed e) r.2.tree) := by
  intro r
  obtain ⟨hfinal, hend, hhistory⟩ :=
    steps_induction hstep hopening (Phase.extends_of_draft rfl) (le_refl Phase.opening.rank)
  rcases hsteps : steps m layout stock Phase.opening.rank .opening w with ⟨p, w'⟩
  rw [hsteps] at hfinal hend hhistory
  dsimp only [r]
  rw [complete, ExceptT.run_mk, hsteps]
  cases p with
  | done => exact ⟨hhistory, Or.inl ⟨rfl, hend⟩⟩
  | failed e => exact ⟨hhistory, Or.inr ⟨e, rfl, hend⟩⟩
  | _ => cases hfinal

end Steps

/-- Something that staging puts at `l`: a directory on the way to the staging directory, that one
included, or a complete file in it. -/
inductive Placed (m : Machine) (layout : Layout) (bundle : Bundle) (t : FileTree) (l : Location) :
    Prop
  | directory {mode q}
      (hq : q ∈ FileTree.ancestors layout.directory.chars.length layout.directory)
      (hat : DirectoryAt t m.directory q l) (hnode : t.node? l = some (.directory mode)) :
      Placed m layout bundle t l
  | file {stock a d} (hstock : Stock.ofBundle bundle = .ok stock)
      (hat : DirectoryAt t m.directory layout.directory d) (hl : l = Artifact.name a :: d)
      (hnode : t.node? l = some (stock.file a)) : Placed m layout bundle t l

/-- All that `t'` has more than `t` was put there by staging, and `t` has nothing more than `t'`. -/
def AddsStaged (m : Machine) (layout : Layout) (bundle : Bundle) (t t' : FileTree) : Prop :=
  ∀ l, t'.node? l = t.node? l ∨ t.node? l = none ∧ Placed m layout bundle t' l

section Effects
variable {m : Machine} {layout : Layout} {bundle : Bundle} {t t' t'' : FileTree} {l : Location}

theorem Placed.of_keepsWays (hkeeps : KeepsWays t t') (hnode : t'.node? l = t.node? l)
    (h : Placed m layout bundle t l) : Placed m layout bundle t' l := by
  cases h with
  | directory hq hat hl => exact .directory hq (hat.of_keepsWays hkeeps) (hnode.trans hl)
  | file hstock hat hname hl =>
    exact .file hstock (hat.of_keepsWays hkeeps) hname (hnode.trans hl)

theorem AddsStaged.of_agrees (h : Agrees t t') : AddsStaged m layout bundle t t' :=
  fun l => Or.inl (h l)

theorem AddsStaged.grows (h : AddsStaged m layout bundle t t') :
    FileTree.Grows (Placed m layout bundle t') t t' := h

theorem AddsStaged.kept (h : AddsStaged m layout bundle t t') {n : Node}
    (hn : t.node? l = some n) : t'.node? l = some n := h.grows.kept hn

theorem AddsStaged.keepsWays (h : AddsStaged m layout bundle t t') : KeepsWays t t' :=
  h.grows.keepsWays

theorem AddsStaged.trans (h : AddsStaged m layout bundle t t')
    (h' : AddsStaged m layout bundle t' t'') : AddsStaged m layout bundle t t'' :=
  h.grows.trans h'.grows fun _ hsame hplaced => hplaced.of_keepsWays h'.keepsWays hsame

theorem AddsStaged.of_madeFor (h : MadeFor m.directory
    (FileTree.ancestors layout.directory.chars.length layout.directory) t t') :
    AddsStaged m layout bundle t t' := by
  intro l
  refine (h l).imp id ?_
  rintro ⟨hnone, ⟨mode, hmode⟩, q, hq, hat⟩
  exact ⟨hnone, .directory hq hat hmode⟩

/-- The staging directory is there from the second phase on. -/
def Reaches (m : Machine) (layout : Layout) (p : Phase) (t : FileTree) : Prop :=
  p = .opening ∨ p.isFinal = true ∨ ∃ d, DirectoryAt t m.directory layout.directory d

theorem Advances.addsStaged {stock : Stock} {obstacle : Option SystemError} {p p' : Phase}
    (hstock : Stock.ofBundle bundle = .ok stock)
    (h : Advances m layout stock obstacle t p p' t') (hreaches : Reaches m layout p t) :
    AddsStaged m layout bundle t t' ∧ Reaches m layout p' t' := by
  have hgoes : p ≠ .opening → p.isFinal = false →
      ∃ d, DirectoryAt t m.directory layout.directory d := by
    intro hp hfinal
    exact (hreaches.resolve_left hp).resolve_left (by simp [hfinal])
  cases h with
  | opened hmake =>
    have hmade := FileTree.makePath_made hmake
    exact ⟨.of_madeFor hmade.2, Or.inr (Or.inr hmade.1)⟩
  | unopened hmade => exact ⟨.of_madeFor hmade, Or.inr (Or.inl rfl)⟩
  | failed _ hagrees => exact ⟨.of_agrees hagrees, Or.inr (Or.inl rfl)⟩
  | @published a path l s' hnames hadds =>
    obtain ⟨d, hat⟩ := hgoes (by simp) rfl
    have hat' : DirectoryAt t' m.directory layout.directory d := hat.of_keepsWays hadds.keepsWays
    refine ⟨fun l' => ?_, Or.inr (Or.inr ⟨d, hat'⟩)⟩
    rw [hadds.nodes]
    split_ifs with hl'
    · rw [layout.path_eq_join] at hnames
      have hplace := hat.eq_of_names a.isName hnames
      refine Or.inr ⟨hl' ▸ hadds.free, .file hstock hat' (hl'.trans hplace) ?_⟩
      rw [hadds.nodes, if_pos hl']
    · exact Or.inl rfl
  | @beaten a path s' _ hagrees =>
    obtain ⟨d, hat⟩ := hgoes (by simp) rfl
    exact ⟨.of_agrees hagrees, Or.inr (Or.inr ⟨d, hat.of_keepsWays hagrees.keepsWays⟩)⟩
  | _ =>
    obtain hat := hgoes (by simp) rfl
    exact ⟨.of_agrees (Agrees.refl t), Or.inr (Or.inr hat)⟩

/-- Staging adds what is missing and leaves everything else, also when it fails; it starts no
program. -/
theorem Stager.preserves_writeMissing (s : Stager) (w₀ : World) :
    (s.writeMissing m).Preserves fun w =>
      AddsStaged m s.layout s.bundle w₀.tree w.tree ∧ w.history = w₀.history := by
  intro w ⟨htree, hhistory⟩
  rw [writeMissing]
  cases hstock : Stock.ofBundle s.bundle with
  | error e => exact ⟨htree, hhistory⟩
  | ok stock =>
    have hcomplete := complete_induction m s.layout stock w
      (P := fun p t => AddsStaged m s.layout s.bundle w.tree t ∧ Reaches m s.layout p t)
      ⟨.of_agrees (Agrees.refl _), Or.inl rfl⟩ fun _ _ _ _ _ h hadvances =>
        let hnext := hadvances.addsStaged hstock h.2
        ⟨h.1.trans hnext.1, hnext.2⟩
    obtain ⟨hsame, ⟨_, hend⟩ | ⟨_, _, hend⟩⟩ := hcomplete
    · exact ⟨htree.trans hend.1, hsame.trans hhistory⟩
    · exact ⟨htree.trans hend.1, hsame.trans hhistory⟩

theorem Stager.preserves_stage (s : Stager) (w₀ : World) :
    (s.stage m).Preserves fun w =>
      AddsStaged m s.layout s.bundle w₀.tree w.tree ∧ w.history = w₀.history := by
  rw [stage]
  split
  case isTrue => exact Work.preserves_pure s
  case isFalse =>
    exact Work.preserves_bind (s.preserves_writeMissing w₀) fun _ => Work.preserves_pure _

theorem Stager.yields_stage (s : Stager) :
    (s.stage m).Yields fun s' => s'.layout = s.layout ∧ s'.bundle = s.bundle := by
  rw [stage]
  split
  case isTrue => exact Work.yields_pure _ _ ⟨rfl, rfl⟩
  case isFalse => exact Work.yields_after _ _ _ fun _ => Work.yields_pure _ _ ⟨rfl, rfl⟩

theorem Stager.preserves_restage (s : Stager) (w₀ : World) :
    (s.restage m).Preserves fun w =>
      AddsStaged m s.layout s.bundle w₀.tree w.tree ∧ w.history = w₀.history := by
  refine Work.preserves_bind_of_yields (s.preserves_stage w₀) s.yields_stage ?_
  rintro s' ⟨hlayout, hbundle⟩
  rw [← hlayout, ← hbundle]
  exact Work.preserves_bind (s'.preserves_writeMissing w₀) fun _ => Work.preserves_pure _

end Effects
end Staging
end TemplateBatch
