import TemplateBatch.Proofs.Entries

/-!
A tree with one file more. Where directories can be made in both trees, the same ones are made: none
of them can be where the file is, and the file is on the way to none.
-/
namespace TemplateBatch.FileTree

open makeDirectories (unlessThere)

section Kept
variable {t t' t₁ : FileTree} {base l : Location} {p : Path} {mode : ℕ}

theorem locateLast_kept {s : Spot} (hkeeps : KeepsWays t t') (h : t.locateLast base p = .ok s) :
    s.node = t.node? s.location ∧
      t'.locateLast base p = .ok ⟨s.location, t'.node? s.location⟩ := by
  rw [locateLast] at h ⊢
  cases hrefusal : refusal? p with
  | some e => simp [hrefusal] at h
  | none =>
    rw [hrefusal] at h
    obtain ⟨hnames, hnode⟩ := names_of_locate h
    exact ⟨hnode, hnames.of_keepsWays hkeeps⟩

/-- A directory that is there in one tree is not made in the other. -/
theorem makeDirectory_of_isDirectory (hkeeps : KeepsWays t t') (h : t.isDirectory base p = true)
    (mode : ℕ) : t'.makeDirectory base p mode = .error .alreadyExists := by
  rw [isDirectory] at h
  rcases hfind : t.find base p with e | ⟨l, _ | mode' | _⟩
  case ok.directory =>
    have hrefusal := ((locate_ok_iff ..).mp ((find_ok_iff ..).mp hfind)).1
    obtain ⟨hleads, hnode⟩ := leads_of_find hfind
    have hkept : t'.find base p = .ok (l, .directory mode') :=
      find_of_leads hrefusal (hleads.of_keepsWays hkeeps) (hkeeps _ _ hnode trivial)
    exact makeDirectory_there hkept mode
  all_goals simp [hfind, Node.isDirectory] at h

/-- Nothing is missing in front of a directory that is made or there in another tree with the same
ways. -/
theorem makeDirectory_ne_notFound (hkeeps : KeepsWays t t')
    (h : unlessThere t base p (t.makeDirectory base p mode) = (.ok (), t₁)) :
    t'.makeDirectory base p mode ≠ .error .notFound := by
  cases hmake : t.makeDirectory base p mode with
  | error e =>
    rw [hmake] at h
    rw [makeDirectory_of_isDirectory hkeeps (there_of_unlessThere h).1]
    simp
  | ok t₂ =>
    rw [makeDirectory] at hmake ⊢
    rcases hlocate : t.locateLast base p with e | ⟨l, n⟩
    · simp [hlocate] at hmake
    · rw [(locateLast_kept hkeeps hlocate).2]
      cases t'.node? l <;> simp

end Kept

/-- The tree `t'` has the file `n` at `l`, where `t` has nothing, and is like `t` elsewhere. -/
structure Adds (l : Location) (n : Node) (t t' : FileTree) : Prop where
  free : t.node? l = none
  isFile : ¬ n.IsWay
  nodes : ∀ l', t'.node? l' = if l' = l then some n else t.node? l'

namespace Adds

variable {l : Location} {n : Node} {t t' t₁ t₂ : FileTree} {base : Location} {p : Path}

theorem keepsWays (h : Adds l n t t') : KeepsWays t t' := by
  intro l' n' hn' _
  have hne : l' ≠ l := by
    rintro rfl
    simp [h.free] at hn'
  rw [h.nodes, if_neg hne, hn']

theorem keepsWays_back (h : Adds l n t t') : KeepsWays t' t := by
  intro l' n' hn' hway
  rw [h.nodes] at hn'
  split_ifs at hn'
  · obtain rfl := Option.some.inj hn'
    exact absurd hway h.isFile
  · exact hn'

theorem put (h : Adds l n t t') {l' : Location} {n' : Node} (hfree : t'.node? l' = none) :
    Adds l n (t.put l' n') (t'.put l' n') := by
  have hl' : l' ≠ [] := ne_nil_of_free hfree
  have hne : l ≠ l' := by
    rintro rfl
    simp [h.nodes] at hfree
  refine ⟨?_, h.isFile, fun l'' => ?_⟩
  · rw [node?_put _ _ _ _ hl', if_neg hne, h.free]
  · rw [node?_put _ _ _ _ hl', node?_put _ _ _ _ hl', h.nodes]
    by_cases hl : l'' = l
    · simp [hl, hne]
    · simp [hl]

theorem makeDirectory {mode : ℕ} (h : Adds l n t t')
    (hmake : t'.makeDirectory base p mode = .ok t₂) :
    ∃ t₁, t.makeDirectory base p mode = .ok t₁ ∧ Adds l n t₁ t₂ := by
  rw [FileTree.makeDirectory] at hmake ⊢
  rcases hlocate : t'.locateLast base p with e | ⟨l', _ | n'⟩
  · simp [hlocate] at hmake
  · rw [hlocate] at hmake
    obtain rfl := Except.ok.inj hmake
    obtain ⟨hfree', hkept⟩ := locateLast_kept h.keepsWays_back hlocate
    have hfree : t.node? l' = none := by
      have hnode := h.nodes l'
      rw [← hfree'] at hnode
      split_ifs at hnode
      exact hnode.symm
    rw [hkept, hfree]
    exact ⟨_, rfl, h.put hfree'.symm⟩
  · simp [hlocate] at hmake

theorem unlessThere {mode : ℕ} (h : Adds l n t t')
    (hmake : unlessThere t base p (t.makeDirectory base p mode) = (.ok (), t₁))
    (hmake' : FileTree.makeDirectories.unlessThere t' base p (t'.makeDirectory base p mode) =
      (.ok (), t₂)) :
    Adds l n t₁ t₂ := by
  cases hmade : t'.makeDirectory base p mode with
  | ok t₂' =>
    obtain ⟨t₁', hmade', hadds⟩ := h.makeDirectory hmade
    rw [hmade'] at hmake
    rw [hmade] at hmake'
    obtain ⟨_, rfl⟩ := Prod.mk.inj hmake
    obtain ⟨_, rfl⟩ := Prod.mk.inj hmake'
    exact hadds
  | error e =>
    rw [hmade] at hmake'
    obtain ⟨hthere, rfl⟩ := there_of_unlessThere hmake'
    rw [makeDirectory_of_isDirectory h.keepsWays_back hthere] at hmake
    obtain ⟨_, rfl⟩ := there_of_unlessThere hmake
    exact h

theorem makeDirectories {paths : List Path} (h : Adds l n t t')
    (hmake : t.makeDirectories base paths = (.ok (), t₁))
    (hmake' : t'.makeDirectories base paths = (.ok (), t₂)) : Adds l n t₁ t₂ := by
  induction paths generalizing t₁ t₂ with
  | nil =>
    rw [FileTree.makeDirectories] at hmake
    cases (Prod.mk.inj hmake).1
  | cons p outer ih =>
    by_cases hp : p.text = ""
    · rw [FileTree.makeDirectories, if_pos hp] at hmake hmake'
      obtain ⟨_, rfl⟩ := Prod.mk.inj hmake
      obtain ⟨_, rfl⟩ := Prod.mk.inj hmake'
      exact h
    · rw [makeDirectories_cons hp] at hmake hmake'
      split at hmake
      case isTrue hmissing =>
        split at hmake'
        case isTrue =>
          split at hmake
          case h_1 => cases (Prod.mk.inj hmake).1
          case h_2 t₃ houter =>
            split at hmake'
            case h_1 => cases (Prod.mk.inj hmake').1
            case h_2 t₄ houter' => exact (ih houter houter').unlessThere hmake hmake'
        case isFalse =>
          exact absurd hmissing (makeDirectory_ne_notFound h.keepsWays_back hmake')
      case isFalse =>
        split at hmake'
        case isTrue hmissing =>
          exact absurd hmissing (makeDirectory_ne_notFound h.keepsWays hmake)
        case isFalse => exact h.unlessThere hmake hmake'

theorem makePath (h : Adds l n t t') (hmake : t.makePath base p = (.ok (), t₁))
    (hmake' : t'.makePath base p = (.ok (), t₂)) : Adds l n t₁ t₂ :=
  h.makeDirectories hmake hmake'

end Adds
end TemplateBatch.FileTree
