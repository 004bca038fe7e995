import TemplateBatch.Machine
import Mathlib.Tactic.Common

/-!
What is known of the results of work that did not fail. A property of such results is shown along
the structure of the work, whatever the world was before it and whatever became of it. Where the
world matters, work that succeeded is taken apart into the parts that it was put together from.
What holds of the world however the work ends is kept by each of its parts.
-/
namespace TemplateBatch.Work

variable {α β ε δ : Type}

/-- Whatever the work comes to without a failure has `P`. -/
def Yields (x : Work ε α) (P : α → Prop) : Prop :=
  ∀ w a, (ExceptT.run x w).1 = .ok a → P a

theorem yields_true (x : Work ε α) : x.Yields fun _ => True :=
  fun _ _ _ => trivial

theorem yields_pure (a : α) (P : α → Prop) (h : P a) : (pure a : Work ε α).Yields P := by
  intro w b hb
  change Except.ok a = Except.ok b at hb
  exact Except.ok.inj hb ▸ h

theorem yields_throw (e : ε) (P : α → Prop) : (throw e : Work ε α).Yields P := by
  intro w b hb
  change Except.error e = Except.ok b at hb
  cases hb

theorem yields_bind (x : Work ε α) (f : α → Work ε β) (P : β → Prop) (Q : α → Prop)
    (hx : x.Yields Q) (hf : ∀ a, Q a → (f a).Yields P) : (x >>= f).Yields P := by
  intro w b hb
  change (ExceptT.bindCont f (ExceptT.run x w).1 (ExceptT.run x w).2).1 = .ok b at hb
  cases hr : (ExceptT.run x w).1 with
  | error e =>
    rw [hr] at hb
    change Except.error e = Except.ok b at hb
    cases hb
  | ok a =>
    rw [hr] at hb
    exact hf a (hx w a hr) _ b hb

theorem yields_after (x : Work ε α) (f : α → Work ε β) (P : β → Prop)
    (hf : ∀ a, (f a).Yields P) : (x >>= f).Yields P :=
  yields_bind x f P (fun _ => True) (yields_true x) fun a _ => hf a

theorem yields_ensuring (body : Work ε α) (cleanup : World → World) (P : α → Prop)
    (h : body.Yields P) : (ensuring body cleanup).Yields P :=
  fun w a ha => h w a ha

theorem run_pure (a : α) (w : World) : ExceptT.run (pure a : Work ε α) w = (.ok a, w) := rfl

theorem run_bind (x : Work ε α) (f : α → Work ε β) (w : World) :
    ExceptT.run (x >>= f) w =
      match ExceptT.run x w with
      | (.ok a, w') => ExceptT.run (f a) w'
      | (.error e, w') => (.error e, w') := by
  change ExceptT.bindCont f (ExceptT.run x w).1 (ExceptT.run x w).2 = _
  rcases ExceptT.run x w with ⟨_ | _, _⟩ <;> rfl

theorem run_changing (wrap : SystemError → ε) (f : FileTree → Except SystemError FileTree)
    (w : World) :
    ExceptT.run (changing wrap f) w =
      match f w.tree with
      | .ok t => (.ok (), { w with tree := t })
      | .error e => (.error (wrap e), w) := by
  rw [changing, run_bind]
  change ExceptT.run (ofExcept wrap (f w.tree) >>= _) w = _
  rw [run_bind]
  cases f w.tree <;> rfl

theorem run_reading (wrap : SystemError → ε) (f : FileTree → Except SystemError α) (w : World) :
    ExceptT.run (reading wrap f) w = ((f w.tree).mapError wrap, w) := by
  change ExceptT.run (ofExcept wrap (f w.tree)) w = _
  cases f w.tree <;> rfl

theorem run_world_bind (f : World → Work ε α) (w : World) :
    ExceptT.run (getThe World >>= f) w = ExceptT.run (f w) w := rfl

theorem run_set_bind (f : PUnit → Work ε α) (w w' : World) :
    ExceptT.run (set w' >>= f) w = ExceptT.run (f ()) w' := rfl

theorem run_mapError (f : ε → δ) (x : Work ε α) (w : World) :
    ExceptT.run (mapError f x) w =
      ((ExceptT.run x w).1.mapError f, (ExceptT.run x w).2) := rfl

theorem run_ensuring (body : Work ε α) (cleanup : World → World) (w : World) :
    ExceptT.run (ensuring body cleanup) w =
      ((ExceptT.run body w).1, cleanup (ExceptT.run body w).2) := rfl

theorem run_recovering (body : Work ε α) (cleanup : World → World) (w : World) :
    ExceptT.run (recovering body cleanup) w =
      match ExceptT.run body w with
      | (.ok a, w') => (.ok a, w')
      | (.error e, w') => (.error e, cleanup w') := by
  rw [recovering, ExceptT.run_mk]
  rcases ExceptT.run body w with ⟨_ | _, _⟩ <;> rfl

/-- Work in the world `w` comes to `a` and leaves the world `w'`. -/
def Gives (x : Work ε α) (w : World) (a : α) (w' : World) : Prop := ExceptT.run x w = (.ok a, w')

section Inversion
variable {w w' : World}

theorem Yields.of_gives {x : Work ε α} {P : α → Prop} {a : α} (h : x.Yields P)
    (hx : x.Gives w a w') : P a :=
  h w a (congrArg Prod.fst hx)

theorem gives_run {x : Work ε α} {a : α} (h : (ExceptT.run x w).1 = .ok a) :
    x.Gives w a (ExceptT.run x w).2 :=
  Prod.ext h rfl

/-- What work comes to and the tree that it leaves, where the rest of both is of no interest. -/
theorem exists_gives {x : Work ε (α × β)} {a : α} {t : FileTree}
    (h : ((ExceptT.run x w).1.toOption.map Prod.fst, (ExceptT.run x w).2.tree) = (some a, t)) :
    ∃ b w', x.Gives w (a, b) w' ∧ w'.tree = t := by
  obtain ⟨hresult, htree⟩ := Prod.mk.inj h
  cases hrun : (ExceptT.run x w).1 with
  | error e => simp [hrun, Except.toOption] at hresult
  | ok r =>
    rw [hrun] at hresult
    obtain rfl : r.1 = a := Option.some.inj hresult
    exact ⟨r.2, _, gives_run hrun, htree⟩

theorem Gives.unique {x : Work ε α} {a a' : α} {w'' : World} (h : x.Gives w a w')
    (h' : x.Gives w a' w'') : a = a' ∧ w' = w'' := by
  obtain ⟨ha, hw⟩ := Prod.mk.inj (h.symm.trans h')
  exact ⟨Except.ok.inj ha, hw⟩

theorem gives_pure {a b : α} : (pure a : Work ε α).Gives w b w' ↔ b = a ∧ w' = w := by
  change (Except.ok a, w) = (Except.ok b, w') ↔ _
  rw [Prod.mk.injEq, Except.ok.injEq]
  exact and_congr eq_comm eq_comm

theorem not_gives_throw {e : ε} {a : α} : ¬ (throw e : Work ε α).Gives w a w' := by
  change ¬ (Except.error e, w) = (Except.ok a, w')
  simp

theorem gives_bind {x : Work ε α} {f : α → Work ε β} {b : β} {w'' : World} :
    (x >>= f).Gives w b w'' ↔ ∃ a w', x.Gives w a w' ∧ (f a).Gives w' b w'' := by
  change ExceptT.bindCont f (ExceptT.run x w).1 (ExceptT.run x w).2 = (.ok b, w'') ↔ _
  constructor
  · intro h
    cases hx : ExceptT.run x w with
    | mk r w' =>
      rw [hx] at h
      cases r with
      | error e => cases (Prod.mk.inj h).1
      | ok a => exact ⟨a, w', hx, h⟩
  · rintro ⟨a, w', hx, hf⟩
    rw [hx]
    exact hf

theorem gives_world {v : World} : (get : Work ε World).Gives w v w' ↔ v = w ∧ w' = w :=
  gives_pure

theorem gives_set {v : World} {u : PUnit} : (set v : Work ε PUnit).Gives w u w' ↔ w' = v := by
  change (Except.ok PUnit.unit, v) = (Except.ok u, w') ↔ _
  rw [Prod.mk.injEq, eq_comm (a := v)]
  exact and_iff_right rfl

theorem gives_ofExcept {wrap : ε → δ} {r : Except ε α} {a : α} :
    (ofExcept wrap r).Gives w a w' ↔ r = .ok a ∧ w' = w := by
  cases r with
  | error e => simp [ofExcept, not_gives_throw]
  | ok b => rw [ofExcept, gives_pure, Except.ok.injEq, eq_comm (a := b)]

theorem gives_reading {wrap : SystemError → ε} {f : FileTree → Except SystemError α} {a : α} :
    (reading wrap f).Gives w a w' ↔ f w.tree = .ok a ∧ w' = w := by
  simp [reading, gives_bind, gives_world, gives_ofExcept, and_comm]

theorem gives_changing {wrap : SystemError → ε} {f : FileTree → Except SystemError FileTree} :
    (changing wrap f).Gives w () w' ↔ ∃ t, f w.tree = .ok t ∧ w' = { w with tree := t } := by
  simp [changing, gives_bind, gives_world, gives_ofExcept, gives_set, and_assoc]

theorem gives_altering {wrap : SystemError → ε}
    {f : FileTree → Except SystemError Unit × FileTree} :
    (altering wrap f).Gives w () w' ↔
      ∃ t, f w.tree = (.ok (), t) ∧ w' = { w with tree := t } := by
  rcases hf : f w.tree with ⟨r, t⟩
  simp [altering, gives_bind, gives_world, gives_ofExcept, gives_set, hf, and_assoc]

theorem gives_ensuring {x : Work ε α} {cleanup : World → World} {a : α} :
    (ensuring x cleanup).Gives w a w' ↔ ∃ w₁, x.Gives w a w₁ ∧ w' = cleanup w₁ := by
  change ((ExceptT.run x w).1, cleanup (ExceptT.run x w).2) = (.ok a, w') ↔ _
  constructor
  · intro h
    obtain ⟨hresult, rfl⟩ := Prod.mk.inj h
    exact ⟨_, gives_run hresult, rfl⟩
  · rintro ⟨w₁, hx, rfl⟩
    rw [show ExceptT.run x w = _ from hx]

theorem gives_mk {f : World → α × World} {a : α} (h : f w = (a, w')) :
    Gives (ε := ε) (ExceptT.mk fun w => let (a, w') := f w; (.ok a, w')) w a w' := by
  change ((match f w with | (a, w') => (Except.ok a, w')) : Except ε α × World) = _
  rw [h]

theorem gives_mapError {f : ε → δ} {x : Work ε α} {a : α} :
    (mapError f x).Gives w a w' ↔ x.Gives w a w' := by
  change ((ExceptT.run x w).1.mapError f, (ExceptT.run x w).2) = (.ok a, w') ↔ _
  rw [Gives, Prod.ext_iff, Prod.ext_iff]
  cases (ExceptT.run x w).1 <;> simp [Except.mapError]

end Inversion

/-- Whatever the work comes to, it leaves a world that has `P` if the world had it before. -/
def Preserves (x : Work ε α) (P : World → Prop) : Prop := ∀ w, P w → P (ExceptT.run x w).2

section Preservation
variable {P : World → Prop}

theorem preserves_pure (a : α) : (pure a : Work ε α).Preserves P := fun _ h => h

theorem preserves_throw (e : ε) : (throw e : Work ε α).Preserves P := fun _ h => h

/-- The work that comes next is known to start from what the work before it yields. -/
theorem preserves_bind_of_yields {x : Work ε α} {f : α → Work ε β} {Q : α → Prop}
    (hx : x.Preserves P) (hyields : x.Yields Q) (hf : ∀ a, Q a → (f a).Preserves P) :
    (x >>= f).Preserves P := by
  intro w h
  have hw := hx w h
  rw [run_bind]
  rcases hrun : ExceptT.run x w with ⟨e | a, w'⟩
  · rwa [hrun] at hw
  · rw [hrun] at hw
    exact hf a (hyields w a (by rw [hrun])) w' hw

theorem preserves_bind {x : Work ε α} {f : α → Work ε β} (hx : x.Preserves P)
    (hf : ∀ a, (f a).Preserves P) : (x >>= f).Preserves P :=
  preserves_bind_of_yields hx (yields_true x) fun a _ => hf a

theorem preserves_world {f : World → Work ε α} (h : ∀ w, P w → P (ExceptT.run (f w) w).2) :
    ((getThe World : Work ε World) >>= f).Preserves P := by
  intro w hw
  rw [run_world_bind]
  exact h w hw

theorem preserves_ofExcept (wrap : ε → δ) (r : Except ε α) : (ofExcept wrap r).Preserves P := by
  cases r with
  | ok a => exact preserves_pure a
  | error e => exact preserves_throw (wrap e)

theorem preserves_reading (wrap : SystemError → ε) (f : FileTree → Except SystemError α) :
    (reading wrap f).Preserves P :=
  preserves_world fun w hw => preserves_ofExcept wrap (f w.tree) w hw

theorem preserves_changing {wrap : SystemError → ε} {f : FileTree → Except SystemError FileTree}
    (h : ∀ w t, P w → f w.tree = .ok t → P { w with tree := t }) :
    (changing wrap f).Preserves P := by
  intro w hw
  rw [run_changing]
  cases hf : f w.tree with
  | ok t => exact h w t hw hf
  | error e => exact hw

theorem preserves_ensuring {x : Work ε α} {cleanup : World → World} (hx : x.Preserves P)
    (hcleanup : ∀ w, P w → P (cleanup w)) : (ensuring x cleanup).Preserves P :=
  fun w hw => hcleanup _ (hx w hw)

theorem preserves_recovering {x : Work ε α} {cleanup : World → World} (hx : x.Preserves P)
    (hcleanup : ∀ w, P w → P (cleanup w)) : (recovering x cleanup).Preserves P := by
  intro w hw
  have hleft := hx w hw
  rw [run_recovering]
  rcases hrun : ExceptT.run x w with ⟨_ | _, w'⟩ <;> rw [hrun] at hleft
  · exact hcleanup w' hleft
  · exact hleft

theorem preserves_running {m : Machine} {c : Command} (h : ∀ w, P w → P (c.run m w).2) :
    (running m c : Work ε _).Preserves P := h

end Preservation
end TemplateBatch.Work
