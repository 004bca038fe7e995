import TemplateBatch.Proofs.RestoredFiles
import TemplateBatch.Proofs.StagingEffects

/-!
A pass over the staged files, whatever stands in their places and whichever step fails. It makes the
staging directory and then adds the files that are missing, each complete and under its own name. A
pass that succeeds leaves something in both places, and one that nothing gets in the way of does
succeed.
-/
namespace TemplateBatch.Staging

open FileTree (Adds Agrees DirectoryAt KeepsWays MadeFor Names)

/-- All that `t'` has more than `t` are staged files, each complete and in its own place. -/
def Fills (m : Machine) (layout : Layout) (stock : Stock) (t t' : FileTree) : Prop :=
  FileTree.Grows (fun l => ∃ a, t'.Names m.directory (layout.path a) l ∧
    t'.node? l = some (stock.file a)) t t'

section Filling
variable {m : Machine} {layout : Layout} {stock : Stock} {t t' t'' : FileTree} {l : Location}

theorem Fills.of_agrees (h : Agrees t t') : Fills m layout stock t t' := fun l => Or.inl (h l)

theorem Fills.keepsWays_back (h : Fills m layout stock t t') : KeepsWays t' t := by
  intro l n hn hway
  rcases h l with hsame | ⟨_, a, _, hfile⟩
  · rw [← hsame, hn]
  · rw [hn] at hfile
    obtain rfl := Option.some.inj hfile
    exact hway.elim

theorem Fills.trans (h : Fills m layout stock t t') (h' : Fills m layout stock t' t'') :
    Fills m layout stock t t'' := by
  refine FileTree.Grows.trans h h' fun l hsame => ?_
  rintro ⟨a, hnames, hfile⟩
  exact ⟨a, hnames.of_keepsWays h'.keepsWays, hsame.trans hfile⟩

theorem Fills.of_adds {a : Artifact} (hnames : t.Names m.directory (layout.path a) l)
    (hadds : Adds l (stock.file a) t t') : Fills m layout stock t t' := by
  intro l'
  by_cases hl' : l' = l
  · subst hl'
    exact Or.inr ⟨hadds.free, a, hnames.of_keepsWays hadds.keepsWays,
      (hadds.nodes l').trans (if_pos rfl)⟩
  · exact Or.inl ((hadds.nodes l').trans (if_neg hl'))

theorem Fills.under?_ne {p : Path} (h : Fills m layout stock t t')
    (hp : t.under? m.directory p ≠ none) : t'.under? m.directory p ≠ none := by
  obtain ⟨l, n, hnames, hnode⟩ := FileTree.exists_names_of_under?_ne hp
  rw [(hnames.of_keepsWays h.keepsWays).under?_eq, h.kept hnode]
  simp

end Filling

section Passes
variable {m : Machine} {layout : Layout} {stock : Stock} {t₀ t t' : FileTree} {p p' : Phase}

/-- A pass that began with the tree `t₀` is at a phase, with the tree `t` apart from the file in
hand. From its second phase on it goes by the tree `t₁` in which the directory has been made. -/
inductive Progress (m : Machine) (layout : Layout) (stock : Stock) (t₀ : FileTree) :
    Phase → FileTree → Prop
  | opening : Progress m layout stock t₀ .opening t₀
  | unopened {e t} (h : MadeFor m.directory
      (FileTree.ancestors layout.directory.chars.length layout.directory) t₀ t) :
      Progress m layout stock t₀ (.failed e) t
  | opened {p t t₁} (hp : p ≠ .opening)
      (hmake : t₀.makePath m.directory layout.directory = (.ok (), t₁))
      (hfills : Fills m layout stock t₁ t)
      (hpassed : ∀ a, p.hasPassed a = true → t.under? m.directory (layout.path a) ≠ none) :
      Progress m layout stock t₀ p t

theorem afterArtifact_ne_opening (a : Artifact) : Phase.afterArtifact a ≠ .opening := by
  cases a <;> simp [Phase.afterArtifact]

theorem afterWriting_ne_opening (a : Artifact) (path : Path) :
    Phase.afterWriting a path ≠ .opening := by
  cases a <;> simp [Phase.afterWriting]

theorem under?_ne_of_exists {base : Location} {path : Path} (h : t.exists? base path = true) :
    t.under? base path ≠ none := by
  rw [FileTree.exists?] at h
  split at h
  · next found hfind => exact FileTree.under?_of_find hfind
  · cases h

/-- A step takes a pass further as long as no obstacle says that a file is there which is not. -/
theorem Advances.progress {obstacle : Option SystemError}
    (hobstacle : obstacle ≠ some .alreadyExists)
    (h : Advances m layout stock obstacle t p p' t') (hprogress : Progress m layout stock t₀ p t) :
    Progress m layout stock t₀ p' t' := by
  cases hprogress with
  | opening =>
    cases h with
    | opened hmake =>
      exact .opened (by simp) hmake (.of_agrees (Agrees.refl _)) fun a ha => by cases ha
    | unopened hmade => exact .unopened hmade
    | failed hp _ => exact absurd rfl hp
  | unopened hmade =>
    cases h with
    | failed _ hagrees => exact .unopened (hmade.trans fun l => Or.inl (hagrees l))
  | @opened _ _ t₁ hp hmake hfills hpassed =>
    cases h with
    | opened _ => exact absurd rfl hp
    | unopened _ => exact absurd rfl hp
    | failed _ hagrees =>
      exact .opened (by simp) hmake (hfills.trans (.of_agrees hagrees)) fun a ha => by cases ha
    | @found a hexists =>
      refine .opened (afterArtifact_ne_opening a) hmake hfills fun b hb => ?_
      rcases Phase.hasPassed_afterArtifact ⟨""⟩ hb with rfl | ⟨hbefore, _⟩
      · exact under?_ne_of_exists hexists
      · exact hpassed b hbefore
    | @missing a =>
      refine .opened (by simp) hmake hfills fun b hb => hpassed b ?_
      cases a <;> exact hb
    | @created a path =>
      refine .opened (by simp) hmake hfills fun b hb => hpassed b ?_
      cases a <;> exact hb
    | @written a path =>
      refine .opened (afterWriting_ne_opening a path) hmake hfills fun b hb => hpassed b ?_
      cases a <;> exact hb
    | permitted => exact .opened (by simp) hmake hfills hpassed
    | @published a path l _ hnames hadds =>
      have hfile : Fills m layout stock t t' := .of_adds hnames hadds
      refine .opened (afterArtifact_ne_opening a) hmake (hfills.trans hfile) fun b hb => ?_
      rcases Phase.hasPassed_afterArtifact path hb with rfl | ⟨_, hbefore⟩
      · rw [(hnames.of_keepsWays hadds.keepsWays).under?_eq, hadds.nodes, if_pos rfl]
        simp
      · exact hfile.under?_ne (hpassed b hbefore)
    | @beaten a path _ hbeaten hagrees =>
      have hsame : Fills m layout stock t t' := .of_agrees hagrees
      refine .opened (afterArtifact_ne_opening a) hmake (hfills.trans hsame) fun b hb => ?_
      rcases Phase.hasPassed_afterArtifact path hb with rfl | ⟨_, hbefore⟩
      · exact hsame.under?_ne (hbeaten.resolve_left hobstacle)
      · exact hsame.under?_ne (hpassed b hbefore)

/-- What a pass that succeeds has done to the tree `t₀`. -/
structure Completes (m : Machine) (layout : Layout) (stock : Stock) (t₀ t₁ t : FileTree) :
    Prop where
  make : t₀.makePath m.directory layout.directory = (.ok (), t₁)
  fills : Fills m layout stock t₁ t
  present : ∀ a, t.under? m.directory (layout.path a) ≠ none

/-- A stager that has written what was missing has made the directory and has put both files in
place. -/
theorem Stager.completes_writeMissing {s : Stager} {w w' : World}
    (hobstacle : ∀ k, m.obstacle k ≠ some .alreadyExists) (h : (s.writeMissing m).Gives w () w') :
    ∃ stock t₁, Stock.ofBundle s.bundle = .ok stock ∧
      Completes m s.layout stock w.tree t₁ w'.tree := by
  rw [writeMissing] at h
  split at h
  · exact absurd h Work.not_gives_throw
  · next stock hstock =>
    obtain ⟨_, ⟨_, hdone⟩ | ⟨e, herror, _⟩⟩ := complete_induction m s.layout stock w
      (P := Progress m s.layout stock w.tree) .opening
      fun k _ _ _ _ hprogress hadvances => hadvances.progress (hobstacle k) hprogress
    · rw [show ExceptT.run (complete m s.layout stock) w = _ from h] at hdone
      cases hdone with
      | opened _ hmake hfills hpassed =>
        exact ⟨stock, _, hstock, hmake, hfills, fun a => hpassed a rfl⟩
    · rw [show ExceptT.run (complete m s.layout stock) w = _ from h] at herror
      cases herror

/-- A pass over what another has left has the directory already. -/
theorem Completes.trans {t₁ t₂ t'' : FileTree} (h : Completes m layout stock t₀ t₁ t)
    (h' : Completes m layout stock t t₂ t'') : Completes m layout stock t₀ t₁ t'' := by
  obtain ⟨⟨d, hat⟩, _⟩ := FileTree.makePath_made h.make
  have hmake := FileTree.makePath_of_directoryAt (hat.of_keepsWays h.fills.keepsWays)
  obtain rfl : t₂ = t := (Prod.mk.inj (h'.make.symm.trans hmake)).2
  exact ⟨h.make, h.fills.trans h'.fills, h'.present⟩

/-- The tree `t'` is `t` with those of the staged files that were missing. -/
def Restores (m : Machine) (layout : Layout) (stock : Stock) (t t' : FileTree) : Prop :=
  ∃ place : Artifact → Location, (∀ a, t.Names m.directory (layout.path a) (place a)) ∧
    (∀ a, t'.node? (place a) = some ((t.node? (place a)).getD (stock.file a))) ∧
    ∀ l, (∀ a, l ≠ place a) → t'.node? l = t.node? l

theorem Completes.restores {t₁ : FileTree} (h : Completes m layout stock t₀ t₁ t) :
    Restores m layout stock t₁ t := by
  have hplaces := fun a => FileTree.exists_names_of_under?_ne (h.present a)
  choose place present hnames hpresent using hplaces
  refine ⟨place, fun a => (hnames a).of_keepsWays h.fills.keepsWays_back, fun a => ?_,
    fun l hl => ?_⟩
  · rcases h.fills (place a) with hsame | ⟨hnone, b, hb, hfile⟩
    · rw [← hsame, hpresent, Option.getD_some]
    · obtain rfl : a = b := artifact_unique (hnames a) hb
      rw [hnone, hfile, Option.getD_none]
  · refine (h.fills l).resolve_right ?_
    rintro ⟨_, a, ha, _⟩
    exact hl a (ha.unique (hnames a))

/-- The staging directory can be made where it is missing, and both files can be named in it. -/
def Accessible (m : Machine) (layout : Layout) (t : FileTree) : Prop :=
  ∃ t₁, t.makePath m.directory layout.directory = (.ok (), t₁) ∧
    ∀ a, ∃ l, t₁.Names m.directory (layout.path a) l

/-- From a phase on there are no obstacles, and temporary files can be created where they are
needed. -/
structure Unhindered (m : Machine) (layout : Layout) (stock : Stock) (p : Phase) (w : World) :
    Prop where
  free : ∀ k, w.clock ≤ k → m.obstacle k = none
  creates : ∀ n ≤ p.rank,
    (steps m layout stock n p w).1.Creates m layout (steps m layout stock n p w).2

/-- A pass has not failed, and what it needs for its next phases is there in the tree without the
file in hand. -/
def Prepared (m : Machine) (layout : Layout) (t : FileTree) : Phase → Prop
  | .opening => Accessible m layout t
  | .failed _ => False
  | _ => ∀ a, ∃ l, t.Names m.directory (layout.path a) l

theorem prepared_of_names (hp : p ≠ .opening) (hok : ∀ e, p ≠ .failed e)
    (h : ∀ a, ∃ l, t.Names m.directory (layout.path a) l) : Prepared m layout t p := by
  cases p with
  | opening => exact absurd rfl hp
  | failed e => exact absurd rfl (hok e)
  | _ => exact h

theorem Advances.keepsWays {obstacle : Option SystemError}
    (h : Advances m layout stock obstacle t p p' t') : KeepsWays t t' := by
  cases h with
  | opened hmake => exact (FileTree.makePath_made hmake).2.keepsWays
  | unopened hmade => exact hmade.keepsWays
  | published _ hadds => exact hadds.keepsWays
  | beaten _ hagrees => exact hagrees.keepsWays
  | failed _ hagrees => exact hagrees.keepsWays
  | _ => exact KeepsWays.refl t

theorem afterArtifact_ne_failed (a : Artifact) (e : StageError) :
    Phase.afterArtifact a ≠ .failed e := by
  cases a <;> simp [Phase.afterArtifact]

/-- A step without an obstacle does not fail. -/
theorem Prepared.step_ne_failed {s : FileTree} {w : World} (h : Prepared m layout s p)
    (hextends : p.Extends m stock s w.tree) (hcreates : p.Creates m layout w) (e : StageError) :
    (step m layout stock none w p).1 ≠ .failed e := by
  cases p with
  | opening =>
    obtain rfl : w.tree = s := hextends
    obtain ⟨t₁, hmake, _⟩ := h
    rw [step_opening, hmake]
    simp
  | checking a =>
    unfold step
    cases hexists : w.tree.exists? m.directory (layout.path a) with
    | true => simpa only [hexists, if_true] using afterArtifact_ne_failed a e
    | false => simp [hexists]
  | creating a =>
    unfold step
    cases hcreate : w.tree.createNew m.directory
        (m.freshPath w (workshop layout a) temporaryName) temporaryMode with
    | error _ => simp [Phase.Creates, hcreate, Except.isOk, Except.toBool] at hcreates
    | ok t => simp [hcreate]
  | writing a path =>
    unfold step
    cases a <;> simp [Phase.afterWriting]
  | permitting path =>
    obtain ⟨l, hhand⟩ : ∃ l, InHand m path l (.file stock.executable temporaryMode) s w.tree :=
      hextends
    unfold step
    simp [FileTree.setMode_file hhand.names_of_tree hhand.node]
  | publishing a path =>
    obtain ⟨l, hhand⟩ : ∃ l, InHand m path l (stock.file a) s w.tree := hextends
    obtain ⟨l', hnames⟩ : ∃ l, s.Names m.directory (layout.path a) l := h a
    have hnames' := hnames.of_keepsWays hhand.adds.keepsWays
    unfold step
    cases hnode : w.tree.node? l' with
    | none =>
      simp only [FileTree.publish_free hhand.names_of_tree hhand.node hnames' hnode]
      exact afterArtifact_ne_failed a e
    | some n =>
      simp only [FileTree.publish_taken hhand.names_of_tree hhand.node hnames' hnode,
        step.afterRefusal, if_true]
      exact afterArtifact_ne_failed a e
  | done =>
    unfold step
    simp
  | failed _ => exact h.elim

theorem Prepared.step {s : FileTree} {w : World} (h : Prepared m layout s p)
    (hextends : p.Extends m stock s w.tree) (hcreates : p.Creates m layout w)
    (hp : p.isFinal = false) :
    ∃ s', Prepared m layout s' (step m layout stock none w p).1 ∧
      (step m layout stock none w p).1.Extends m stock s' (step m layout stock none w p).2 := by
  have hok := h.step_ne_failed hextends hcreates
  obtain ⟨s', hadvances, hextends'⟩ := came_step m layout stock none hextends hp
  refine ⟨s', ?_, hextends'⟩
  have hkept : (∀ a, ∃ l, s.Names m.directory (layout.path a) l) →
      ∀ a, ∃ l, s'.Names m.directory (layout.path a) l :=
    fun hnames a => (hnames a).imp fun _ hl => hl.of_keepsWays hadvances.keepsWays
  generalize (Staging.step m layout stock none w p).1 = p' at hok hadvances
  cases hadvances with
  | opened hmake =>
    obtain ⟨t₁, hmake', hnames⟩ := h
    obtain ⟨_, rfl⟩ := Prod.mk.inj (hmake.symm.trans hmake')
    exact hnames
  | unopened _ => exact absurd rfl (hok _)
  | failed _ _ => exact absurd rfl (hok _)
  | found _ => exact prepared_of_names (afterArtifact_ne_opening _) hok (hkept h)
  | missing => exact hkept h
  | created => exact hkept h
  | written => exact prepared_of_names (afterWriting_ne_opening _ _) hok (hkept h)
  | permitted => exact hkept h
  | published _ _ => exact prepared_of_names (afterArtifact_ne_opening _) hok (hkept h)
  | beaten _ _ => exact prepared_of_names (afterArtifact_ne_opening _) hok (hkept h)

theorem Unhindered.step {w : World} {t : FileTree} (h : Unhindered m layout stock p w)
    (hp : p.isFinal = false) (hstep : step m layout stock none w p = (p', t)) :
    Unhindered m layout stock p' { w with tree := t, clock := w.clock + 1 } where
  free k hk := h.free k (Nat.le_of_succ_le hk)
  creates n hn := by
    have hrank := rank_step m layout stock none w hp
    rw [hstep] at hrank
    have hcreates := h.creates (n + 1) (Nat.succ_le_of_lt (hn.trans_lt hrank))
    rwa [steps, hp, if_neg Bool.false_ne_true, h.free _ le_rfl, hstep] at hcreates

theorem Prepared.done (h : Prepared m layout t p) (hp : p.isFinal = true) : p = .done := by
  cases p with
  | done => rfl
  | failed e => exact h.elim
  | _ => cases hp

theorem steps_done {s : FileTree} {w : World} {fuel : ℕ} (h : Unhindered m layout stock p w)
    (hprepared : Prepared m layout s p) (hextends : p.Extends m stock s w.tree)
    (hfuel : p.rank ≤ fuel) :
    ∃ w', steps m layout stock fuel p w = (.done, w') ∧
      ∀ k, w'.clock ≤ k → m.obstacle k = none := by
  induction fuel generalizing p w s with
  | zero =>
    have hfinal : p.isFinal = true := Phase.isFinal_of_rank_le hfuel
    exact ⟨w, by rw [hprepared.done hfinal, steps], h.free⟩
  | succ fuel ih =>
    cases hfinal : p.isFinal with
    | true => exact ⟨w, by rw [steps_of_isFinal hfinal, hprepared.done hfinal], h.free⟩
    | false =>
      obtain ⟨s', hprepared', hextends'⟩ :=
        hprepared.step hextends (h.creates 0 (Nat.zero_le _)) hfinal
      have hrank := rank_step m layout stock none w hfinal
      rcases hnext : step m layout stock none w p with ⟨p', t⟩
      rw [hnext] at hprepared' hextends' hrank
      rw [steps, hfinal, if_neg Bool.false_ne_true, h.free _ le_rfl, hnext]
      exact ih (h.step hfinal hnext) hprepared' hextends'
        (Nat.le_of_lt_succ (hrank.trans_le hfuel))

theorem Stager.writeMissing_gives {s : Stager} {w : World}
    (hstock : Stock.ofBundle s.bundle = .ok stock) (h : Unhindered m s.layout stock .opening w)
    (haccessible : Accessible m s.layout w.tree) :
    ∃ w', (s.writeMissing m).Gives w () w' ∧ ∀ k, w'.clock ≤ k → m.obstacle k = none := by
  obtain ⟨w', hsteps, hfree⟩ :=
    steps_done h haccessible (Phase.extends_of_draft rfl) (le_refl Phase.opening.rank)
  refine ⟨w', ?_, hfree⟩
  simp only [writeMissing, hstock, Work.Gives, complete, ExceptT.run_mk, hsteps]

theorem steps_found {a : Artifact} {w : World} (fuel : ℕ)
    (h : w.tree.exists? m.directory (layout.path a) = true) :
    steps m layout stock (fuel + 1) (.checking a) w =
      steps m layout stock fuel (Phase.afterArtifact a) { w with clock := w.clock + 1 } := by
  rw [steps, if_neg (by simp [Phase.isFinal])]
  unfold step
  simp only [h, if_true]

/-- Where everything is in place already a pass only looks. -/
theorem Stager.writeMissing_present {s : Stager} {w : World} {d : Location}
    (hstock : Stock.ofBundle s.bundle = .ok stock) (hfree : m.obstacle w.clock = none)
    (hat : DirectoryAt w.tree m.directory s.layout.directory d)
    (hpresent : ∀ a, w.tree.exists? m.directory (s.layout.path a) = true) :
    (s.writeMissing m).Gives w () { w with clock := w.clock + 3 } := by
  have hsteps : steps m s.layout stock Phase.opening.rank .opening w =
      (.done, { w with clock := w.clock + 3 }) := by
    rw [Phase.rank, steps, if_neg (by simp [Phase.isFinal]), hfree, step_opening,
      FileTree.makePath_of_directoryAt hat]
    have hexecutable : steps m s.layout stock 9 (.checking .executable)
          { w with clock := w.clock + 1 } =
        steps m s.layout stock 8 (.checking .configuration) { w with clock := w.clock + 2 } :=
      steps_found 8 (hpresent .executable)
    have hconfiguration : steps m s.layout stock 8 (.checking .configuration)
          { w with clock := w.clock + 2 } =
        steps m s.layout stock 7 .done { w with clock := w.clock + 3 } :=
      steps_found 7 (hpresent .configuration)
    exact hexecutable.trans (hconfiguration.trans (steps_of_isFinal rfl 7 _))
  simp only [writeMissing, hstock, Work.Gives, complete, ExceptT.run_mk, hsteps]

end Passes
end TemplateBatch.Staging
