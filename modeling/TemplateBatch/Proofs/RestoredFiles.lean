import TemplateBatch.Proofs.AddedFiles
import TemplateBatch.Proofs.SharedStaging

/-!
A host that nobody comes in between. When it has staged, both staged files are there, whatever was
missing before; when a layout has been cleared, both are gone. In between the files around them are
what they were, and a file that was put beside them does no harm.
-/
namespace TemplateBatch.Staging

open FileTree (Adds KeepsWays)

/-- Staging has been at the artifact and left it in place. -/
def Phase.hasPassed (p : Phase) (a : Artifact) : Bool :=
  match p with
  | .checking .configuration | .creating .configuration | .writing .configuration _
  | .publishing .configuration _ => a == .executable
  | .done => true
  | _ => false

theorem Phase.hasPassed_afterArtifact {a b : Artifact} (path : Path)
    (h : (Phase.afterArtifact b).hasPassed a = true) :
    a = b ∨
      (Phase.checking b).hasPassed a = true ∧ (Phase.publishing b path).hasPassed a = true := by
  cases b with
  | executable => exact Or.inl (beq_iff_eq.mp h)
  | configuration =>
    cases a with
    | executable => exact Or.inr ⟨rfl, rfl⟩
    | configuration => exact Or.inl rfl

namespace Ground

variable {m : Machine} {layout : Layout} (g : Ground m layout) (stock : Stock)

/-- Nobody has a draft in hand, and there is no executable without its configuration. -/
structure Rests (t : FileTree) : Prop where
  sound : g.Sound stock t fun _ : Unit => none
  paired : t.node? (g.place .executable) ≠ none → t.node? (g.place .configuration) ≠ none

/-- Both staged files are in place. -/
structure Secured (t : FileTree) : Prop where
  sound : g.Sound stock t fun _ : Unit => none
  present : ∀ a, t.node? (g.place a) = some (stock.file a)

variable {g stock} {t t' : FileTree}

theorem sound_iff : (g.Sound stock t fun _ : Unit => none) ↔
    (∀ a, t.node? (g.place a) = none ∨ t.node? (g.place a) = some (stock.file a)) ∧
      ∀ l, (∀ a, l ≠ g.place a) → t.node? l = g.tree.node? l := by
  constructor
  · exact fun h => ⟨h.staged, fun l hl => h.elsewhere l hl fun _ _ => not_desk_none⟩
  · rintro ⟨hstaged, helsewhere⟩
    exact ⟨hstaged, fun _ _ _ h => (by cases h), fun _ _ _ h => absurd h not_desk_none,
      fun _ _ _ _ _ h => absurd h not_desk_none, fun l hl _ => helsewhere l hl,
      fun _ _ _ h => (by cases h)⟩

theorem Secured.rests (h : g.Secured stock t) : g.Rests stock t where
  sound := h.sound
  paired _ := by simp [h.present]

theorem Rests.secured (h : g.Rests stock t) (hexe : t.node? (g.place .executable) ≠ none) :
    g.Secured stock t where
  sound := h.sound
  present
    | .executable => (h.sound.staged _).resolve_left hexe
    | .configuration => (h.sound.staged _).resolve_left (h.paired hexe)

theorem Moves.passed {p p' : Phase} (h : g.Moves stock t p p' t')
    (hp : ∀ a, p.hasPassed a = true → t.node? (g.place a) ≠ none) (a : Artifact)
    (ha : p'.hasPassed a = true) : t'.node? (g.place a) ≠ none := by
  have hkept : p.hasPassed a = true → t'.node? (g.place a) ≠ none := by
    intro hbefore
    obtain ⟨n, hn⟩ := Option.ne_none_iff_exists'.mp (hp a hbefore)
    simp [h.kept hn]
  cases h with
  | opened => cases ha
  | @found b hfound =>
    rcases Phase.hasPassed_afterArtifact ⟨""⟩ ha with rfl | ⟨hbefore, _⟩
    · simp [hfound]
    · exact hkept hbefore
  | @missing b _ => cases b <;> exact hkept ha
  | @created b path l _ _ => cases b <;> exact hkept ha
  | @written b path l _ => cases b <;> exact hkept ha
  | permitted _ => exact hkept ha
  | @published b path l hdraft _ =>
    rcases Phase.hasPassed_afterArtifact path ha with rfl | ⟨_, hbefore⟩
    · rw [FileTree.node?_put _ _ _ _ (place_ne_nil _), if_pos rfl]
      simp
    · exact hkept hbefore
  | @beaten b path l hdraft htaken =>
    rcases Phase.hasPassed_afterArtifact path ha with rfl | ⟨_, hbefore⟩
    · rw [FileTree.node?_erase _ _ _ hdraft.ne_nil, if_neg (hdraft.apart _).symm, htaken]
      simp
    · exact hkept hbefore

end Ground

theorem creates_of_step {m : Machine} {layout : Layout} {stock : Stock} {w : World} {p : Phase}
    (h : ∀ e, (step m layout stock none w p).1 ≠ .failed e) : p.Creates m layout w := by
  cases p with
  | creating a =>
    rw [Phase.Creates]
    unfold step at h
    cases hcreate : w.tree.createNew m.directory (m.freshPath w (workshop layout a) temporaryName)
        temporaryMode with
    | ok t => rfl
    | error e => simp [hcreate] at h
  | _ => trivial

section Alone
variable {c : Crew} {g : Ground c.machine c.layout} {w w' : World} {p p' : Phase} {a : Artifact}
  {ready : Bool}

/-- What a host that nobody comes in between knows of the files in a phase of its pass. -/
structure Knows (g : Ground c.machine c.layout) (p : Phase) (t : FileTree) : Prop where
  sound : g.Sound c.stock t fun _ : Unit => p.draft? c.stock
  passed : ∀ a, p.hasPassed a = true → t.node? (g.place a) ≠ none

theorem Knows.step {t : FileTree} (h : Knows g p w.tree) (hp : p.isFinal = false)
    (hstep : step c.machine c.layout c.stock none w p = (p', t)) (hok : ∀ e, p' ≠ .failed e) :
    Knows g p' t := by
  have hmoves : g.Moves c.stock w.tree p p' t := by
    have hcreates : p.Creates c.machine c.layout w := creates_of_step (by rwa [hstep])
    have hmoves := Ground.step_moves h.sound.supports (h.sound.drafted (i := ()) rfl) hcreates hp
    rwa [hstep] at hmoves
  refine ⟨?_, hmoves.passed h.passed⟩
  have hsound := h.sound.change (i := ()) (hmoves.change h.sound.supports)
    fun _ _ => Ground.isFile_draft?
  have hdraft : Function.update (fun _ : Unit => p.draft? c.stock) () (p'.draft? c.stock) =
      fun _ => p'.draft? c.stock := funext fun _ => Function.update_self ..
  rwa [hdraft] at hsound

theorem Knows.secured {t : FileTree} (h : Knows g p t) (hp : p.isFinal = true)
    (hok : ∀ e, p ≠ .failed e) : g.Secured c.stock t := by
  cases p with
  | done => exact ⟨h.sound, fun a => (h.sound.staged a).resolve_left (h.passed a rfl)⟩
  | failed e => exact absurd rfl (hok e)
  | _ => cases hp

variable (hobstacle : ∀ k, c.machine.obstacle k = none)
include hobstacle

/-- Steps that do not fail end with both files in place. -/
theorem steps_secured {fuel : ℕ} (h : Knows g p w.tree) (hfuel : p.rank ≤ fuel)
    (hsteps : steps c.machine c.layout c.stock fuel p w = (p', w')) (hok : ∀ e, p' ≠ .failed e) :
    g.Secured c.stock w'.tree := by
  induction fuel generalizing p w with
  | zero =>
    obtain ⟨rfl, rfl⟩ := Prod.mk.inj hsteps
    exact h.secured (Phase.isFinal_of_rank_le hfuel) hok
  | succ fuel ih =>
    cases hfinal : p.isFinal with
    | true =>
      rw [steps_of_isFinal hfinal] at hsteps
      obtain ⟨rfl, rfl⟩ := Prod.mk.inj hsteps
      exact h.secured hfinal hok
    | false =>
      rcases hstep : step c.machine c.layout c.stock none w p with ⟨p₁, t⟩
      have hrank : p₁.rank < p.rank := by
        have hless := rank_step c.machine c.layout c.stock none w hfinal
        rwa [hstep] at hless
      rw [steps, hfinal, if_neg Bool.false_ne_true, hobstacle, hstep] at hsteps
      have hok₁ : ∀ e, p₁ ≠ .failed e := by
        rintro e rfl
        exact hok e (Prod.mk.inj ((steps_of_isFinal rfl ..).symm.trans hsteps)).1.symm
      exact ih (h.step hfinal hstep hok₁) (by omega) hsteps

/-- Whoever has written what was missing has made the directory first, and has put both files in
place from there on. -/
theorem writeMissing_secured
    (h : (Stager.writeMissing c.machine ⟨c.layout, c.bundle, ready⟩).Gives w () w') :
    ∃ t, w.tree.makePath c.machine.directory c.layout.directory = (.ok (), t) ∧
      ∀ g : Ground c.machine c.layout, (g.Sound c.stock t fun _ : Unit => none) →
        g.Secured c.stock w'.tree := by
  simp only [Stager.writeMissing, c.complete] at h
  obtain ⟨p, hsteps, hp⟩ := Site.complete_run h
  have hok : ∀ e, p ≠ .failed e := by
    rintro e rfl
    cases hp rfl
  obtain ⟨fuel, hfuel, hrank⟩ :
      ∃ fuel, Phase.opening.rank = fuel + 1 ∧ (Phase.checking .executable).rank ≤ fuel :=
    ⟨9, rfl, le_rfl⟩
  rw [hfuel, steps, if_neg (by simp [Phase.isFinal]), hobstacle, step_opening] at hsteps
  rcases hmake : w.tree.makePath c.machine.directory c.layout.directory with ⟨e | _, t⟩
  · simp only [hmake, steps_of_isFinal (show (Phase.failed _).isFinal = true from rfl)] at hsteps
    exact absurd (Prod.mk.inj hsteps).1.symm (hok _)
  · simp only [hmake] at hsteps
    refine ⟨t, rfl, fun g hsound => ?_⟩
    exact steps_secured hobstacle ⟨hsound, fun a ha => by cases ha⟩ hrank hsteps hok

omit hobstacle in
theorem stage_gives {stager : Stager}
    (h : (Stager.stage c.machine ⟨c.layout, c.bundle, ready⟩).Gives w stager w') :
    stager = ⟨c.layout, c.bundle, true⟩ ∧ (ready = true ∧ w' = w ∨ ready = false ∧
      (Stager.writeMissing c.machine ⟨c.layout, c.bundle, ready⟩).Gives w () w') := by
  cases ready with
  | true =>
    obtain ⟨rfl, rfl⟩ := Work.gives_pure.mp h
    exact ⟨rfl, Or.inl ⟨rfl, rfl⟩⟩
  | false =>
    obtain ⟨_, _, hwrite, hreturn⟩ := Work.gives_bind.mp h
    obtain ⟨rfl, rfl⟩ := Work.gives_pure.mp hreturn
    exact ⟨rfl, Or.inr ⟨rfl, hwrite⟩⟩

omit hobstacle in
theorem restage_gives {stager : Stager}
    (h : (Stager.restage c.machine ⟨c.layout, c.bundle, true⟩).Gives w stager w') :
    (Stager.writeMissing c.machine ⟨c.layout, c.bundle, true⟩).Gives w () w' := by
  obtain ⟨_, _, hstage, hrest⟩ := Work.gives_bind.mp h
  obtain ⟨rfl, rfl⟩ := Work.gives_pure.mp hstage
  obtain ⟨_, _, hwrite, hreturn⟩ := Work.gives_bind.mp hrest
  obtain ⟨_, rfl⟩ := Work.gives_pure.mp hreturn
  exact hwrite

/-- Where nobody has a draft in hand, writing what is missing puts both files in place. -/
theorem writeMissing_sound (hsound : g.Sound c.stock w.tree fun _ : Unit => none)
    (h : (Stager.writeMissing c.machine ⟨c.layout, c.bundle, ready⟩).Gives w () w') :
    g.Secured c.stock w'.tree := by
  obtain ⟨t, hmake, hsecured⟩ := writeMissing_secured hobstacle h
  obtain ⟨l, hat⟩ := hsound.supports.directoryAt
  rw [FileTree.makePath_of_directoryAt hat] at hmake
  obtain ⟨_, rfl⟩ := Prod.mk.inj hmake
  exact hsecured g hsound

theorem clear_sound (h : g.Sound c.stock w.tree fun _ : Unit => none) (a : Artifact) :
    (g.Sound c.stock (Stager.clear c.machine (c.layout.path a) w).tree fun _ : Unit => none) ∧
      ∀ l, (Stager.clear c.machine (c.layout.path a) w).tree.node? l =
        if l = g.place a then none else w.tree.node? l := by
  have htree : ∀ l, (Stager.clear c.machine (c.layout.path a) w).tree.node? l =
      if l = g.place a then none else w.tree.node? l := by
    intro l
    rw [← (Site.clear_world c.machine (c.layout.path a) w).1]
    exact Site.clear_tree (s := (⟨w.tree, fun _ => {}⟩ : Site Unit)) h.supports a
      (hobstacle w.clock) l
  refine ⟨Ground.sound_iff.mpr ⟨fun b => ?_, fun l hl => ?_⟩, htree⟩
  · rw [htree]
    split_ifs
    · exact Or.inl rfl
    · exact h.staged b
  · rw [htree, if_neg (hl a)]
    exact (Ground.sound_iff.mp h).2 l hl

theorem Ground.Rests.create (h : g.Rests c.stock w.tree) :
    g.Rests c.stock (Stager.create c.machine c.layout c.bundle w).2.tree := by
  obtain ⟨hsound, htree⟩ := clear_sound hobstacle h.sound .executable
  obtain ⟨hsound', htree'⟩ := clear_sound hobstacle hsound .configuration
  refine ⟨hsound', fun hexe => absurd ?_ hexe⟩
  refine (htree' _).trans ?_
  rw [htree, if_pos rfl, ite_self]

omit hobstacle in
theorem clear_absent (h : w.tree.under? c.machine.directory (c.layout.path a) = none) :
    (Stager.clear c.machine (c.layout.path a) w).tree = w.tree := by
  obtain ⟨e, he⟩ := FileTree.removeFile_absent h (Ground.isFile_path c.layout a)
  rw [Stager.clear]
  cases c.machine.obstacle w.clock with
  | some _ => rfl
  | none => simp [World.trying, he]

omit hobstacle in
/-- Where nothing is staged a new stager has nothing to do. -/
theorem create_absent (h : ∀ a, w.tree.under? c.machine.directory (c.layout.path a) = none) :
    (Stager.create c.machine c.layout c.bundle w).2.tree = w.tree := by
  have hexe := clear_absent (h .executable)
  have hconf := clear_absent (a := .configuration)
    (w := Stager.clear c.machine (c.layout.path .executable) w) (by rw [hexe]; exact h _)
  rw [hexe] at hconf
  exact hconf

end Alone

namespace Ground

variable {m : Machine} {layout : Layout} {g g' : Ground m layout} {stock : Stock} {l : Location}
  {n : Node} {t t' : FileTree}

/-- The ground `g'` is like `g` with a file more, apart from the staged ones. -/
structure Holds (g g' : Ground m layout) (l : Location) (n : Node) : Prop where
  place : g'.place = g.place
  apart : ∀ a, l ≠ g.place a
  adds : Adds l n g.tree g'.tree

/-- A file that was added where things have been staged could have been there before. -/
theorem exists_holds (hadds : Adds l n t t') (hsound : g.Sound stock t fun _ : Unit => none)
    (hapart : ∀ a, l ≠ g.place a) :
    ∃ g' : Ground m layout, Holds g g' l n ∧ g'.Sound stock t' fun _ : Unit => none := by
  obtain ⟨hstaged, helsewhere⟩ := sound_iff.mp hsound
  have hl := FileTree.ne_nil_of_free hadds.free
  have hnodes : ∀ l', (g.tree.put l n).node? l' = if l' = l then some n else g.tree.node? l' :=
    fun l' => FileTree.node?_put _ _ _ _ hl
  have hfree : g.tree.node? l = none := by rw [← helsewhere l hapart, hadds.free]
  have hadds' : Adds l n g.tree (g.tree.put l n) := ⟨hfree, hadds.isFile, hnodes⟩
  let g' : Ground m layout :=
    { tree := g.tree.put l n
      place := g.place
      names := fun a => (g.names a).of_keepsWays hadds'.keepsWays
      free := fun a => by rw [hnodes, if_neg (hapart a).symm, g.free a]
      reached := g.reached.imp fun _ hat => hat.of_keepsWays hadds'.keepsWays }
  refine ⟨g', ⟨rfl, hapart, hadds'⟩, sound_iff.mpr ⟨fun a => ?_, fun l' hl' => ?_⟩⟩
  · rw [hadds.nodes, if_neg (hapart a).symm]
    exact hstaged a
  · rw [hadds.nodes, hadds'.nodes, helsewhere l' hl']

theorem Holds.rests (h : Holds g g' l n) (hadds : Adds l n t t') (hrests : g.Rests stock t)
    (hsound : g'.Sound stock t' fun _ : Unit => none) : g'.Rests stock t' := by
  refine ⟨hsound, ?_⟩
  rw [h.place, hadds.nodes, if_neg (h.apart _).symm, hadds.nodes, if_neg (h.apart _).symm]
  exact hrests.paired

theorem Holds.secured_erase (h : Holds g g' l n) (hsecured : g'.Secured stock t') :
    g.Secured stock (t'.erase l) := by
  have hl := FileTree.ne_nil_of_free h.adds.free
  have hpresent : ∀ a, (t'.erase l).node? (g.place a) = some (stock.file a) := by
    intro a
    rw [FileTree.node?_erase _ _ _ hl, if_neg (h.apart a).symm, ← h.place]
    exact hsecured.present a
  refine ⟨sound_iff.mpr ⟨fun a => Or.inr (hpresent a), fun l' hl' => ?_⟩, hpresent⟩
  rw [FileTree.node?_erase _ _ _ hl]
  split_ifs with heq
  · rw [heq, h.adds.free]
  · rw [(sound_iff.mp hsecured.sound).2 l' (by rwa [h.place]), h.adds.nodes, if_neg heq]

end Ground
end TemplateBatch.Staging
