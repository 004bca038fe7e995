import TemplateBatch.FileTree.Operations
import Mathlib.Tactic.Common

/-!
Where paths lead while a tree changes. A way from one directory to another depends on the
directories and links along it only, so it stays open when files are written and when what was
missing is made. A path that goes on from a directory ends up where the rest of it leads from there.
-/
namespace TemplateBatch

/-- Something on the way to other nodes: a directory or a link. -/
def Node.IsWay : Node → Prop
  | .file .. => False
  | _ => True

namespace FileTree

theorem find?_putEntry (l l' : Location) (n : Node) (es : List (Location × Node)) :
    (putEntry l n es).find? (fun e => e.1 == l') =
      if l' = l then some (l, n) else es.find? (fun e => e.1 == l') := by
  by_cases hl : l' = l
  · subst hl
    rw [if_pos rfl]
    induction es with
    | nil => simp [putEntry]
    | cons e es ih =>
      rw [putEntry]
      by_cases he : e.1 = l'
      · simp [he]
      · simp [he, ih]
  · have hl' : l ≠ l' := Ne.symm hl
    rw [if_neg hl]
    induction es with
    | nil => simp [putEntry, hl']
    | cons e es ih =>
      rw [putEntry]
      by_cases he : e.1 = l
      · have hother : e.1 ≠ l' := he ▸ hl'
        simp [he, hl']
      · by_cases hfound : e.1 = l'
        · rw [if_neg he]
          simp [hfound]
        · simp [he, hfound, ih]

theorem ne_nil_of_free {t : FileTree} {l : Location} (h : t.node? l = none) : l ≠ [] := by
  rintro rfl
  cases h

theorem node?_put (t : FileTree) (l l' : Location) (n : Node) (hl : l ≠ []) :
    (t.put l n).node? l' = if l' = l then some n else t.node? l' := by
  cases l' with
  | nil => rw [if_neg (Ne.symm hl)]; rfl
  | cons name l' =>
    simp only [node?, put, find?_putEntry]
    split <;> rfl

theorem node?_erase (t : FileTree) (l l' : Location) (hl : l ≠ []) :
    (t.erase l).node? l' = if l' = l then none else t.node? l' := by
  cases l' with
  | nil => rw [if_neg (Ne.symm hl)]; rfl
  | cons name l' =>
    simp only [node?, erase, List.find?_filter]
    split
    case isTrue h =>
      simp [h]
    case isFalse h =>
      congr 2
      funext e
      by_cases he : e.1 = name :: l'
      · simp [he, h]
      · simp [he]

/-- All directories and links of `t` are in `t'` as they were. -/
def KeepsWays (t t' : FileTree) : Prop :=
  ∀ l n, t.node? l = some n → n.IsWay → t'.node? l = some n

theorem KeepsWays.refl (t : FileTree) : KeepsWays t t := fun _ _ h _ => h

theorem KeepsWays.trans {t t' t'' : FileTree} (h : KeepsWays t t') (h' : KeepsWays t' t'') :
    KeepsWays t t'' :=
  fun l n hn hway => h' l n (h l n hn hway) hway

/-- The tree `t'` has all that `t` has, and what it has more has the property `P`. -/
def Grows (P : Location → Prop) (t t' : FileTree) : Prop :=
  ∀ l, t'.node? l = t.node? l ∨ t.node? l = none ∧ P l

section Growth
variable {P Q : Location → Prop} {t t' t'' : FileTree}

theorem Grows.kept (h : Grows P t t') {l : Location} {n : Node} (hn : t.node? l = some n) :
    t'.node? l = some n := by
  rcases h l with hsame | ⟨hnone, _⟩
  · rw [hsame, hn]
  · rw [hn] at hnone
    cases hnone

theorem Grows.keepsWays (h : Grows P t t') : KeepsWays t t' := fun _ _ hn _ => h.kept hn

theorem Grows.trans (h : Grows P t t') (h' : Grows Q t' t'')
    (hkept : ∀ l, t''.node? l = t'.node? l → P l → Q l) : Grows Q t t'' := by
  intro l
  rcases h' l with hsame' | ⟨hnone', hq⟩
  · exact (h l).imp hsame'.trans fun ⟨hnone, hp⟩ => ⟨hnone, hkept l hsame' hp⟩
  · refine Or.inr ⟨?_, hq⟩
    rcases h l with hsame | ⟨hnone, _⟩
    · rw [← hsame, hnone']
    · exact hnone

end Growth

theorem keepsWays_put (t : FileTree) (l : Location) (n : Node) (hl : l ≠ [])
    (hfree : ∀ old, t.node? l = some old → ¬ old.IsWay) : KeepsWays t (t.put l n) := by
  intro l' old hold hway
  rw [node?_put t l l' n hl]
  have hne : l' ≠ l := by
    rintro rfl
    exact hfree old hold hway
  rw [if_neg hne, hold]

section Walks
variable (t : FileTree) (aim : Aim)

/-- Going on behind a link, as long as not too many were followed. -/
def follow : (links : ℕ) → Location → List Move → Except SystemError Spot
  | 0 => fun _ _ => .error .tooManyLinks
  | links + 1 => walk t aim links

variable (links : ℕ) (here : Location) (rest : List Move)

theorem walk_eq : walk t aim links = walkWith t aim (follow t aim links) := by
  cases links <;> rfl

theorem walk_nil : walk t aim links here [] = .ok ⟨here, t.node? here⟩ := by
  rw [walk_eq, walkWith]

theorem walk_stay : walk t aim links here (.stay :: rest) = walk t aim links here rest := by
  rw [walk_eq, walkWith]

theorem walk_within : walk t aim links here (.within :: rest) = walk t aim links here rest := by
  rw [walk_eq, walkWith]

theorem walk_up : walk t aim links here (.up :: rest) = walk t aim links here.tail rest := by
  rw [walk_eq, walkWith]

/-- Below a name a walk ends with whatever is there, or goes on through a directory or a link. -/
theorem walk_down_cases {t aim links here rest} {name : String} {s : Spot}
    (h : walk t aim links here (.down name :: rest) = .ok s) :
    isTooLong name = false ∧
      ((rest = [] ∧ s = ⟨name :: here, t.node? (name :: here)⟩) ∨
        (∃ mode, t.node? (name :: here) = some (.directory mode) ∧
          walk t aim links (name :: here) rest = .ok s) ∨
        ∃ target, t.node? (name :: here) = some (.link target) ∧ ¬ (rest = [] ∧ aim = .entry) ∧
          follow t aim links (if target.isRooted then [] else here) (moves target ++ rest) =
            .ok s) := by
  rw [walk_eq, walkWith] at h
  split at h
  case isTrue => cases h
  split at h
  case isTrue => cases h
  case isFalse hlong =>
  refine ⟨by simpa using hlong, ?_⟩
  cases hnode : t.node? (name :: here) with
  | none =>
    simp only [hnode] at h
    split at h
    case isTrue hrest => exact Or.inl ⟨hrest, (Except.ok.inj h).symm⟩
    case isFalse => cases h
  | some n =>
    cases n with
    | file content mode =>
      simp only [hnode] at h
      split at h
      case isTrue hrest => exact Or.inl ⟨hrest, (Except.ok.inj h).symm⟩
      case isFalse => cases h
    | directory mode =>
      simp only [hnode, ← walk_eq] at h
      exact Or.inr (Or.inl ⟨mode, rfl, h⟩)
    | link target =>
      simp only [hnode] at h
      split at h
      case isTrue hrest => exact Or.inl ⟨hrest.1, (Except.ok.inj h).symm⟩
      case isFalse hgoes => exact Or.inr (Or.inr ⟨target, rfl, hgoes, h⟩)

end Walks

/-- The steps of a walk that ends at the spot `s`, with the links that were left on the way. -/
inductive Walked (t : FileTree) (s : Spot) : ℕ → Location → List Move → Prop
  | arrived {links here} (h : s = ⟨here, t.node? here⟩) : Walked t s links here []
  | ended {links here name} (hshort : isTooLong name = false)
      (h : s = ⟨name :: here, t.node? (name :: here)⟩) : Walked t s links here [.down name]
  | stay {links here rest} (h : Walked t s links here rest) :
      Walked t s links here (.stay :: rest)
  | within {links here rest} (h : Walked t s links here rest) :
      Walked t s links here (.within :: rest)
  | up {links here rest} (h : Walked t s links here.tail rest) :
      Walked t s links here (.up :: rest)
  | down {links here rest name mode} (hshort : isTooLong name = false)
      (hnode : t.node? (name :: here) = some (.directory mode))
      (h : Walked t s links (name :: here) rest) : Walked t s links here (.down name :: rest)
  | link {links here rest name target} (hshort : isTooLong name = false)
      (hnode : t.node? (name :: here) = some (.link target))
      (h : Walked t s links (if target.isRooted then [] else here) (moves target ++ rest)) :
      Walked t s (links + 1) here (.down name :: rest)

theorem walked_of_follow {t : FileTree} {aim : Aim} {links : ℕ} {s : Spot}
    (hfollow : ∀ here ms, follow t aim links here ms = .ok s →
      ∃ left, links = left + 1 ∧ Walked t s left here ms)
    (here : Location) (ms : List Move) (h : walk t aim links here ms = .ok s) :
    Walked t s links here ms := by
  induction ms generalizing here with
  | nil => exact Walked.arrived (Except.ok.inj (walk_nil .. ▸ h)).symm
  | cons m ms ih =>
    cases m with
    | stay => exact Walked.stay (ih here (walk_stay .. ▸ h))
    | within => exact Walked.within (ih here (walk_within .. ▸ h))
    | up => exact Walked.up (ih here.tail (walk_up .. ▸ h))
    | down name =>
      obtain ⟨hshort, ⟨rfl, hs⟩ | ⟨_, hnode, h⟩ | ⟨target, hnode, _, h⟩⟩ := walk_down_cases h
      · exact Walked.ended hshort hs
      · exact Walked.down hshort hnode (ih _ h)
      · obtain ⟨left, rfl, hrest⟩ := hfollow _ _ h
        exact Walked.link hshort hnode hrest

theorem walked_of_walk {t : FileTree} {aim : Aim} {links : ℕ} {s : Spot} {here : Location}
    {ms : List Move} (h : walk t aim links here ms = .ok s) : Walked t s links here ms := by
  induction links generalizing here ms with
  | zero =>
    refine walked_of_follow ?_ here ms h
    intro here ms hfollow
    cases hfollow
  | succ links ih =>
    refine walked_of_follow ?_ here ms h
    intro here ms hfollow
    exact ⟨links, rfl, ih hfollow⟩

/-- A walk tells what stands where it ends. -/
theorem Walked.node_eq {t : FileTree} {s : Spot} {links : ℕ} {here : Location} {ms : List Move}
    (h : Walked t s links here ms) : s.node = t.node? s.location := by
  induction h with
  | arrived h => rw [h]
  | ended _ h => rw [h]
  | stay _ ih => exact ih
  | within _ ih => exact ih
  | up _ ih => exact ih
  | down _ _ _ ih => exact ih
  | link _ _ _ ih => exact ih

/-- The moves go from `here` to `l` through directories, and follow at most `links` links. -/
inductive Leads (t : FileTree) : ℕ → Location → List Move → Location → Prop
  | arrived (links : ℕ) (here : Location) : Leads t links here [] here
  | stay {links here rest l} (h : Leads t links here rest l) : Leads t links here (.stay :: rest) l
  | within {links here rest l} (h : Leads t links here rest l) :
      Leads t links here (.within :: rest) l
  | up {links here rest l} (h : Leads t links here.tail rest l) :
      Leads t links here (.up :: rest) l
  | down {links here rest l name mode} (hshort : isTooLong name = false)
      (hnode : t.node? (name :: here) = some (.directory mode))
      (h : Leads t links (name :: here) rest l) : Leads t links here (.down name :: rest) l
  | link {links here rest l name target} (hshort : isTooLong name = false)
      (hnode : t.node? (name :: here) = some (.link target))
      (h : Leads t links (if target.isRooted then [] else here) (moves target ++ rest) l) :
      Leads t (links + 1) here (.down name :: rest) l

theorem Leads.of_keepsWays {t t' : FileTree} (hkeeps : KeepsWays t t') {links : ℕ}
    {here l : Location} {ms : List Move} (h : Leads t links here ms l) :
    Leads t' links here ms l := by
  induction h with
  | arrived links here => exact Leads.arrived links here
  | stay _ ih => exact Leads.stay ih
  | within _ ih => exact Leads.within ih
  | up _ ih => exact Leads.up ih
  | down hshort hnode _ ih => exact Leads.down hshort (hkeeps _ _ hnode trivial) ih
  | link hshort hnode _ ih => exact Leads.link hshort (hkeeps _ _ hnode trivial) ih

/-- A separator at the end leads nowhere else. -/
theorem Leads.of_append_within {t : FileTree} {links : ℕ} {here l : Location} {ms : List Move}
    (h : Leads t links here (ms ++ [.within]) l) : Leads t links here ms l := by
  generalize hms : ms ++ [.within] = ms' at h
  induction h generalizing ms with
  | arrived => simp at hms
  | @stay links here rest l _ ih =>
    cases ms with
    | nil => simp at hms
    | cons m ms =>
      obtain ⟨rfl, rfl⟩ := List.cons.inj hms
      exact Leads.stay (ih rfl)
  | @within links here rest l hrest ih =>
    cases ms with
    | nil =>
      obtain ⟨_, rfl⟩ := List.cons.inj hms
      exact hrest
    | cons m ms =>
      obtain ⟨rfl, rfl⟩ := List.cons.inj hms
      exact Leads.within (ih rfl)
  | @up links here rest l _ ih =>
    cases ms with
    | nil => simp at hms
    | cons m ms =>
      obtain ⟨rfl, rfl⟩ := List.cons.inj hms
      exact Leads.up (ih rfl)
  | @down links here rest l name mode hshort hnode _ ih =>
    cases ms with
    | nil => simp at hms
    | cons m ms =>
      obtain ⟨rfl, rfl⟩ := List.cons.inj hms
      exact Leads.down hshort hnode (ih rfl)
  | @link links here rest l name target hshort hnode _ ih =>
    cases ms with
    | nil => simp at hms
    | cons m ms =>
      obtain ⟨rfl, rfl⟩ := List.cons.inj hms
      exact Leads.link hshort hnode (ih (List.append_assoc _ _ _))

/-- With `rest` behind them moves are walked as they are for any aim. -/
def Trailing (aim : Aim) (rest : List Move) : Prop :=
  ∀ before, ¬ (aim = .creation ∧ before ++ rest = [.within]) ∧
    ¬ (before ++ rest = [] ∧ aim = .entry)

theorem trailing_target (rest : List Move) : Trailing .target rest := by
  intro before
  exact ⟨fun h => Aim.noConfusion h.1, fun h => Aim.noConfusion h.2⟩

theorem trailing_down (aim : Aim) (name : String) : Trailing aim [.down name] := by
  intro before
  constructor
  · rintro ⟨_, h⟩
    rcases List.append_eq_singleton_iff.mp h with ⟨_, h⟩ | ⟨_, h⟩
    · exact Move.noConfusion (List.singleton_inj.mp h)
    · exact List.cons_ne_nil _ _ h
  · rintro ⟨h, _⟩
    exact List.cons_ne_nil _ _ (List.append_eq_nil_iff.mp h).2

theorem Leads.walk_append {t : FileTree} {links : ℕ} {here l : Location} {ms : List Move}
    (h : Leads t links here ms l) (aim : Aim) (rest : List Move) (htrailing : Trailing aim rest) :
    ∃ left, walk t aim links here (ms ++ rest) = walk t aim left l rest := by
  induction h with
  | arrived links here => exact ⟨links, rfl⟩
  | stay _ ih =>
    obtain ⟨left, hleft⟩ := ih
    exact ⟨left, (walk_stay ..).trans hleft⟩
  | within _ ih =>
    obtain ⟨left, hleft⟩ := ih
    exact ⟨left, (walk_within ..).trans hleft⟩
  | up _ ih =>
    obtain ⟨left, hleft⟩ := ih
    exact ⟨left, (walk_up ..).trans hleft⟩
  | @down links here ms l name mode hshort hnode _ ih =>
    obtain ⟨left, hleft⟩ := ih
    refine ⟨left, ?_⟩
    rw [List.cons_append, walk_eq, walkWith, if_neg (htrailing ms).1, hshort]
    simpa [hnode, ← walk_eq] using hleft
  | @link links here ms l name target hshort hnode _ ih =>
    obtain ⟨left, hleft⟩ := ih
    refine ⟨left, ?_⟩
    rw [List.append_assoc] at hleft
    rw [List.cons_append, walk_eq, walkWith, if_neg (htrailing ms).1, hshort]
    simp only [Bool.false_eq_true, if_false, hnode, if_neg (htrailing ms).2]
    exact hleft

/-- A walk that ends at a directory, or where a directory is made then, has taken an open way. -/
theorem Walked.leads {t t' : FileTree} (hkeeps : KeepsWays t t') {s : Spot} {mode : ℕ}
    (hend : t'.node? s.location = some (.directory mode)) {links : ℕ} {here : Location}
    {ms : List Move} (h : Walked t s links here ms) : Leads t' links here ms s.location := by
  induction h with
  | arrived h =>
    subst h
    exact Leads.arrived _ _
  | ended hshort h =>
    subst h
    exact Leads.down hshort hend (Leads.arrived _ _)
  | stay _ ih => exact Leads.stay ih
  | within _ ih => exact Leads.within ih
  | up _ ih => exact Leads.up ih
  | down hshort hnode _ ih => exact Leads.down hshort (hkeeps _ _ hnode trivial) ih
  | link hshort hnode _ ih => exact Leads.link hshort (hkeeps _ _ hnode trivial) ih

end FileTree
end TemplateBatch
