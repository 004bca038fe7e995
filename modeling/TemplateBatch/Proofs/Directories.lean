import TemplateBatch.Proofs.PathPieces
import TemplateBatch.Proofs.Resolution
import Mathlib.Data.List.TakeWhile

/-!
Directories and the files in them. A directory that was found is found again as long as its ways are
kept, and a name joined to its path is the entry of that name in it. Making a directory adds the
directories that were missing on the way to it and changes nothing else.
-/
namespace TemplateBatch.FileTree

/-- Files that are named in the directory `p` stand at `l`: where `p` leads, or where it is read
from if it is empty. -/
def DirectoryAt (t : FileTree) (base : Location) (p : Path) (l : Location) : Prop :=
  (p.text = "" ∧ l = base) ∨ ∃ mode, t.find base p = .ok (l, .directory mode)

/-- Where the moves of a path start. -/
def start (base : Location) (p : Path) : Location := if p.isRooted then [] else base

theorem locate_ok_iff (t : FileTree) (base : Location) (aim : Aim) (p : Path) (s : Spot) :
    t.locate base aim p = .ok s ↔
      refusal? p = none ∧ walk t aim 40 (start base p) (moves p) = .ok s := by
  rw [locate]
  cases refusal? p <;> simp [start]

theorem find_ok_iff (t : FileTree) (base : Location) (p : Path) (l : Location) (n : Node) :
    t.find base p = .ok (l, n) ↔ t.locate base .target p = .ok ⟨l, some n⟩ := by
  rw [find]
  rcases t.locate base .target p with e | ⟨l', _ | n'⟩ <;> simp

section Places
variable {t t' : FileTree} {base l : Location} {p : Path}

theorem leads_steps {links : ℕ} (h : Leads t links (start base p) (moves p) l) :
    Leads t links (start base p) (steps p) l := by
  rcases moves_eq p with hmoves | hmoves
  · rwa [hmoves] at h
  · rw [hmoves] at h
    exact h.of_append_within

theorem leads_of_find {mode : ℕ} (h : t.find base p = .ok (l, .directory mode)) :
    Leads t 40 (start base p) (steps p) l ∧ t.node? l = some (.directory mode) := by
  obtain ⟨_, hwalk⟩ := (locate_ok_iff ..).mp ((find_ok_iff ..).mp h)
  have hwalked := walked_of_walk hwalk
  have hnode : t.node? l = some (.directory mode) := hwalked.node_eq.symm
  exact ⟨leads_steps (hwalked.leads (KeepsWays.refl t) hnode), hnode⟩

theorem find_of_leads {n : Node} (hrefusal : refusal? p = none)
    (h : Leads t 40 (start base p) (steps p) l) (hnode : t.node? l = some n) :
    t.find base p = .ok (l, n) := by
  rw [find_ok_iff, locate_ok_iff]
  refine ⟨hrefusal, ?_⟩
  have hend : ∀ left, walk t .target left l [.within] = .ok ⟨l, some n⟩ := by
    intro left
    rw [walk_within, walk_nil, hnode]
  rcases moves_eq p with hmoves | hmoves
  · obtain ⟨left, hwalk⟩ := h.walk_append .target [] (trailing_target _)
    rw [hmoves, ← List.append_nil (steps p), hwalk, walk_nil, hnode]
  · obtain ⟨left, hwalk⟩ := h.walk_append .target [.within] (trailing_target _)
    rw [hmoves, hwalk, hend]

theorem leads_empty (hp : p.text = "") : Leads t 40 (start base p) (steps p) base := by
  obtain rfl : p = ⟨""⟩ := by rw [← hp]
  exact Leads.arrived 40 base

theorem DirectoryAt.leads (h : DirectoryAt t base p l) :
    Leads t 40 (start base p) (steps p) l := by
  rcases h with ⟨hp, rfl⟩ | ⟨mode, hfind⟩
  · exact leads_empty hp
  · exact (leads_of_find hfind).1

theorem DirectoryAt.of_keepsWays (hkeeps : KeepsWays t t') (h : DirectoryAt t base p l) :
    DirectoryAt t' base p l := by
  rcases h with hempty | ⟨mode, hfind⟩
  · exact Or.inl hempty
  · obtain ⟨hleads, hnode⟩ := leads_of_find hfind
    have hrefusal := ((locate_ok_iff ..).mp ((find_ok_iff ..).mp hfind)).1
    exact Or.inr ⟨mode, find_of_leads hrefusal (hleads.of_keepsWays hkeeps)
      (hkeeps _ _ hnode trivial)⟩

end Places

section Children
variable {t : FileTree} {base l : Location} {p : Path} {name : String}

/-- The name is short enough, and the path that it is joined to as well. -/
def Fits (p : Path) (name : String) : Prop :=
  refusal? (p.join name) = none ∧ isTooLong name = false

variable (hat : DirectoryAt t base p l) (hname : Path.IsName name)
include hat hname

theorem walk_join (aim : Aim) :
    ∃ left, walk t aim 40 (start base (p.join name)) (moves (p.join name)) =
      walk t aim left l [.down name] := by
  have hstart : start base (p.join name) = start base p := by
    rw [start, start, Path.isRooted_join p hname]
  rw [hstart, moves_join p hname]
  exact hat.leads.walk_append aim [.down name] (trailing_down aim name)

/-- A name in a directory is the entry of that name there, unless it is a link. -/
theorem locate_join (hlink : ∀ target, t.node? (name :: l) ≠ some (.link target)) (aim : Aim)
    (s : Spot) (h : t.locate base aim (p.join name) = .ok s) :
    Fits p name ∧ s = ⟨name :: l, t.node? (name :: l)⟩ := by
  obtain ⟨hrefusal, hwalk⟩ := (locate_ok_iff ..).mp h
  obtain ⟨left, hjoin⟩ := walk_join hat hname aim
  rw [hjoin] at hwalk
  obtain ⟨hshort, ⟨_, hs⟩ | ⟨_, _, hrest⟩ | ⟨target, hnode, _⟩⟩ := walk_down_cases hwalk
  · exact ⟨⟨hrefusal, hshort⟩, hs⟩
  · rw [walk_nil] at hrest
    exact ⟨⟨hrefusal, hshort⟩, (Except.ok.inj hrest).symm⟩
  · exact absurd hnode (hlink target)

theorem find_join (hfits : Fits p name) {content : Bytes} {mode : ℕ}
    (hnode : t.node? (name :: l) = some (.file content mode)) :
    t.find base (p.join name) = .ok (name :: l, .file content mode) := by
  obtain ⟨hrefusal, hshort⟩ := hfits
  obtain ⟨left, hjoin⟩ := walk_join hat hname .target
  rw [find_ok_iff, locate_ok_iff, hjoin, walk_eq, walkWith]
  simp [hrefusal, hshort, hnode]

/-- A written file stands in its directory, in the place of a file or of nothing. -/
theorem write_join (hlink : ∀ target, t.node? (name :: l) ≠ some (.link target)) {content : Bytes}
    {t' : FileTree} (h : t.write base (p.join name) content = .ok t') :
    Fits p name ∧ (∀ old, t.node? (name :: l) = some old → ¬ old.IsWay) ∧
      ∃ mode, t' = t.put (name :: l) (.file content mode) := by
  rw [write] at h
  cases hlocate : t.locate base .creation (p.join name) with
  | error e => simp [hlocate] at h
  | ok s =>
    obtain ⟨hfits, rfl⟩ := locate_join hat hname hlink .creation s hlocate
    refine ⟨hfits, ?_⟩
    rw [hlocate] at h
    cases hnode : t.node? (name :: l) with
    | none =>
      simp only [hnode] at h
      exact ⟨by simp, fileMode, (Except.ok.inj h).symm⟩
    | some n =>
      cases n with
      | file old mode =>
        simp only [hnode] at h
        exact ⟨by simp [Node.IsWay], mode, (Except.ok.inj h).symm⟩
      | directory mode => simp [hnode] at h
      | link target => exact absurd hnode (hlink target)

end Children

open makeDirectories (unlessThere)

/-- All that `t'` has more than `t` are directories to which some of the paths lead. -/
def MadeFor (base : Location) (paths : List Path) (t t' : FileTree) : Prop :=
  ∀ l, t'.node? l = t.node? l ∨
    (t.node? l = none ∧ (∃ mode, t'.node? l = some (.directory mode)) ∧
      ∃ q ∈ paths, DirectoryAt t' base q l)

section Making
variable {base : Location} {paths : List Path} {t t' t'' : FileTree}

theorem MadeFor.refl (base : Location) (paths : List Path) (t : FileTree) :
    MadeFor base paths t t := fun _ => Or.inl rfl

theorem MadeFor.grows (h : MadeFor base paths t t') : Grows (fun l =>
    (∃ mode, t'.node? l = some (.directory mode)) ∧ ∃ q ∈ paths, DirectoryAt t' base q l) t t' :=
  h

theorem MadeFor.keepsWays (h : MadeFor base paths t t') : KeepsWays t t' := h.grows.keepsWays

theorem MadeFor.trans (h : MadeFor base paths t t') (h' : MadeFor base paths t' t'') :
    MadeFor base paths t t'' := by
  refine h.grows.trans h'.grows fun l hsame => ?_
  rintro ⟨⟨mode, hmode⟩, q, hq, hat⟩
  exact ⟨⟨mode, hsame.trans hmode⟩, q, hq, hat.of_keepsWays h'.keepsWays⟩

theorem MadeFor.cons (p : Path) (h : MadeFor base paths t t') :
    MadeFor base (p :: paths) t t' := by
  intro l
  rcases h l with hsame | ⟨hnone, hmade, q, hq, hat⟩
  · exact Or.inl hsame
  · exact Or.inr ⟨hnone, hmade, q, List.mem_cons_of_mem p hq, hat⟩

variable {p : Path}

/-- Separators at the end of a path are left out, unless nothing else is in it. -/
theorem withoutEnd_cases (p : Path) :
    withoutEnd p = p ∨ ∃ a s, a ≠ [] ∧ p.chars = a ++ s ∧ (∀ c ∈ s, c = '/') ∧
      (withoutEnd p).chars = a := by
  rw [withoutEnd]
  cases hdrop : p.chars.reverse.dropWhile (· == '/') with
  | nil => exact Or.inl rfl
  | cons c cs =>
    refine Or.inr ⟨(c :: cs).reverse, (p.chars.reverse.takeWhile (· == '/')).reverse, by simp, ?_,
      ?_, by simp [Path.ofChars, Path.chars]⟩
    · rw [← List.reverse_append, ← hdrop, List.takeWhile_append_dropWhile, List.reverse_reverse]
    · intro d hd
      have hcut := List.mem_takeWhile_imp (List.mem_reverse.mp hd)
      exact beq_iff_eq.mp hcut

theorem steps_withoutEnd (p : Path) : steps (withoutEnd p) = steps p := by
  obtain hp | ⟨a, s, _, hchars, hs, ha⟩ := withoutEnd_cases p
  · rw [hp]
  · rw [steps, steps, ha, hchars, Path.parts_separators a s hs]

theorem start_withoutEnd (base : Location) (p : Path) :
    start base (withoutEnd p) = start base p := by
  obtain hp | ⟨a, s, hne, hchars, _, ha⟩ := withoutEnd_cases p
  · rw [hp]
  · obtain ⟨c, cs, rfl⟩ := List.exists_cons_of_ne_nil hne
    rw [start, start, Path.isRooted, Path.isRooted, ha, hchars]
    rfl

theorem walked_of_locateLast {s : Spot} (h : t.locateLast base p = .ok s) :
    refusal? p = none ∧ Walked t s 40 (start base (withoutEnd p)) (moves (withoutEnd p)) := by
  rw [locateLast] at h
  cases hrefusal : refusal? p with
  | some e => simp [hrefusal] at h
  | none =>
    rw [hrefusal] at h
    exact ⟨rfl, walked_of_walk ((locate_ok_iff ..).mp h).2⟩

theorem makeDirectory_made {mode : ℕ} (h : t.makeDirectory base p mode = .ok t') :
    ∃ l, t.node? l = none ∧ t' = t.put l (.directory mode) ∧
      t'.find base p = .ok (l, .directory mode) := by
  rw [makeDirectory] at h
  rcases hlocate : t.locateLast base p with e | ⟨l, _ | n⟩
  · simp [hlocate] at h
  · rw [hlocate] at h
    obtain rfl : t.put l (.directory mode) = t' := Except.ok.inj h
    obtain ⟨hrefusal, hwalked⟩ := walked_of_locateLast hlocate
    have hfree : t.node? l = none := hwalked.node_eq.symm
    have hl := ne_nil_of_free hfree
    have hmade : (t.put l (.directory mode)).node? l = some (.directory mode) := by
      rw [node?_put t l l _ hl, if_pos rfl]
    have hkeeps : KeepsWays t (t.put l (.directory mode)) :=
      keepsWays_put t l _ hl (by simp [hfree])
    have hleads := leads_steps (hwalked.leads hkeeps hmade)
    rw [steps_withoutEnd, start_withoutEnd] at hleads
    exact ⟨l, hfree, rfl, find_of_leads hrefusal hleads hmade⟩
  · simp [hlocate] at h

theorem madeFor_of_makeDirectory {mode : ℕ} (hp : p ∈ paths)
    (h : t.makeDirectory base p mode = .ok t') : MadeFor base paths t t' := by
  obtain ⟨l, hfree, rfl, hfind⟩ := makeDirectory_made h
  intro l'
  rw [node?_put t l l' _ (ne_nil_of_free hfree)]
  by_cases hl' : l' = l
  · subst hl'
    exact Or.inr ⟨hfree, ⟨mode, if_pos rfl⟩, p, hp, Or.inr ⟨mode, hfind⟩⟩
  · exact Or.inl (if_neg hl')

theorem directoryAt_of_isDirectory (h : t.isDirectory base p = true) :
    ∃ l, DirectoryAt t base p l := by
  rw [isDirectory] at h
  rcases hfind : t.find base p with e | ⟨l, n⟩
  · simp [hfind] at h
  · rw [hfind] at h
    cases n with
    | directory mode => exact ⟨l, Or.inr ⟨mode, hfind⟩⟩
    | file content mode => cases h
    | link target => cases h

theorem there_of_unlessThere {e : SystemError}
    (h : unlessThere t base p (.error e) = (.ok (), t')) :
    t.isDirectory base p = true ∧ t' = t := by
  rw [unlessThere] at h
  obtain ⟨hresult, rfl⟩ := Prod.mk.inj h
  refine ⟨?_, rfl⟩
  split at hresult
  case isTrue hthere => exact hthere
  case isFalse => cases hresult

/-- A directory that has been made or was there already. -/
theorem directoryAt_of_unlessThere {mode : ℕ}
    (h : unlessThere t base p (t.makeDirectory base p mode) = (.ok (), t')) :
    ∃ l, DirectoryAt t' base p l := by
  cases hmake : t.makeDirectory base p mode with
  | ok t'' =>
    rw [hmake] at h
    obtain ⟨_, rfl⟩ := Prod.mk.inj h
    obtain ⟨l, _, _, hfind⟩ := makeDirectory_made hmake
    exact ⟨l, Or.inr ⟨_, hfind⟩⟩
  | error e =>
    rw [hmake] at h
    obtain ⟨hthere, rfl⟩ := there_of_unlessThere h
    exact directoryAt_of_isDirectory hthere

theorem makeDirectories_cons (hp : p.text ≠ "") (outer : List Path) :
    t.makeDirectories base (p :: outer) =
      if t.makeDirectory base p directoryMode = .error .notFound then
        match t.makeDirectories base outer with
        | (.error e, t') => (.error e, t')
        | (.ok (), t') => unlessThere t' base p (t'.makeDirectory base p directoryMode)
      else unlessThere t base p (t.makeDirectory base p directoryMode) := by
  rw [makeDirectories, if_neg hp]
  rcases t.makeDirectory base p directoryMode with e | t'
  · cases e with
    | notFound => exact (if_pos rfl).symm
    | _ => simp
  · simp [unlessThere]

theorem directoryAt_of_makeDirectories {outer : List Path}
    (h : t.makeDirectories base (p :: outer) = (.ok (), t')) : ∃ l, DirectoryAt t' base p l := by
  by_cases hempty : p.text = ""
  · rw [makeDirectories, if_pos hempty] at h
    obtain ⟨_, rfl⟩ := Prod.mk.inj h
    exact ⟨base, Or.inl ⟨hempty, rfl⟩⟩
  · rw [makeDirectories_cons hempty] at h
    split at h
    case isTrue =>
      split at h
      case h_1 => cases (Prod.mk.inj h).1
      case h_2 => exact directoryAt_of_unlessThere h
    case isFalse => exact directoryAt_of_unlessThere h

/-- Making directories adds directories and nothing else, even where it fails on the way. -/
theorem makeDirectories_madeFor (t : FileTree) (base : Location) (paths : List Path) :
    MadeFor base paths t (t.makeDirectories base paths).2 := by
  have hone : ∀ (t : FileTree) (p : Path) (outer : List Path), MadeFor base (p :: outer) t
      (unlessThere t base p (t.makeDirectory base p directoryMode)).2 := by
    intro t p outer
    cases hmake : t.makeDirectory base p directoryMode with
    | ok t' => exact madeFor_of_makeDirectory List.mem_cons_self hmake
    | error e => exact MadeFor.refl base _ t
  induction paths with
  | nil => exact MadeFor.refl base [] t
  | cons p outer ih =>
    by_cases hp : p.text = ""
    · rw [makeDirectories, if_pos hp]
      exact MadeFor.refl base _ t
    · rw [makeDirectories_cons hp]
      split
      case isTrue =>
        rcases houter : t.makeDirectories base outer with ⟨e | _, t₁⟩
        · rw [houter] at ih
          exact ih.cons p
        · rw [houter] at ih
          exact (ih.cons p).trans (hone t₁ p outer)
      case isFalse => exact hone t p outer

theorem makePath_madeFor (t : FileTree) (base : Location) (p : Path) :
    MadeFor base (ancestors p.chars.length p) t (t.makePath base p).2 :=
  makeDirectories_madeFor t base _

theorem makePath_made (h : t.makePath base p = (.ok (), t')) :
    (∃ l, DirectoryAt t' base p l) ∧ MadeFor base (ancestors p.chars.length p) t t' := by
  have hmade := makePath_madeFor t base p
  rw [h] at hmade
  refine ⟨?_, hmade⟩
  obtain ⟨outer, houter⟩ : ∃ outer, ancestors p.chars.length p = p :: outer := by
    cases p.chars.length with
    | zero => exact ⟨_, rfl⟩
    | succ fuel =>
      rw [ancestors]
      cases p.parent? <;> exact ⟨_, rfl⟩
  rw [makePath, houter] at h
  exact directoryAt_of_makeDirectories h

end Making

end TemplateBatch.FileTree
