import TemplateBatch.Proofs.Directories
import TemplateBatch.Staging.Phase

/-!
Entries that paths name. Where a path names an entry depends on directories and links only, so it
names the same place for as long as no way comes or goes, whatever becomes of files. What an
operation does through a path is then told by the place alone.
-/
namespace TemplateBatch.FileTree

theorem withoutEnd_of_not_endsInSeparator {p : Path} (h : endsInSeparator p = false) :
    withoutEnd p = p := by
  have hlast : p.chars.reverse.head? ≠ some '/' := by
    rw [List.head?_reverse]
    exact beq_eq_false_iff_ne.mp h
  have hdrop : p.chars.reverse.dropWhile (· == '/') = p.chars.reverse := by
    cases hchars : p.chars.reverse with
    | nil => rfl
    | cons c cs =>
      rw [hchars, List.head?_cons, ne_eq, Option.some_inj] at hlast
      rw [List.dropWhile_cons_of_neg (by simpa using hlast)]
  rw [withoutEnd, hdrop]
  split
  · rfl
  case h_2 => rw [List.reverse_reverse, Path.ofChars, Path.chars, String.ofList_toList]

section Steps
variable {t : FileTree} {aim : Aim} {links : ℕ} {here : Location} {rest : List Move}
  {name : String} (hshort : isTooLong name = false)
include hshort

theorem walk_down_last
    (hlink : aim = .entry ∨ ∀ target, t.node? (name :: here) ≠ some (.link target)) :
    walk t aim links here [.down name] = .ok ⟨name :: here, t.node? (name :: here)⟩ := by
  rw [walk_eq, walkWith, hshort]
  cases hnode : t.node? (name :: here) with
  | none => simp
  | some n =>
    cases n with
    | file content mode => simp
    | directory mode => simp [walkWith, hnode]
    | link target =>
      have haim : aim = .entry := hlink.resolve_right fun h => h target hnode
      simp [haim]

variable (hgoes : ¬ (aim = .creation ∧ rest = [.within]))
include hgoes

theorem walk_down_directory {mode : ℕ} (hnode : t.node? (name :: here) = some (.directory mode)) :
    walk t aim links here (.down name :: rest) = walk t aim links (name :: here) rest := by
  rw [walk_eq, walkWith, if_neg hgoes, hshort]
  simp [hnode]

theorem walk_down_link {target : Path} (hnode : t.node? (name :: here) = some (.link target))
    (hrest : ¬ (rest = [] ∧ aim = .entry)) :
    walk t aim links here (.down name :: rest) =
      follow t aim links (if target.isRooted then [] else here) (moves target ++ rest) := by
  rw [walk_eq, walkWith, if_neg hgoes, hshort]
  simp [hnode, hrest]

end Steps

section Kept
variable {t t' : FileTree} {aim : Aim}

/-- What is needed to walk to an entry for another aim: a link there is not followed. -/
def Settles (aim : Aim) (t : FileTree) (l : Location) : Prop :=
  aim = .entry ∨ ∀ target, t.node? l ≠ some (.link target)

/-- A file can only be created where the moves do not end in a separator. -/
def Leaves (aim : Aim) (ms : List Move) : Prop := aim = .creation → ms.getLast? ≠ some .within

theorem Leaves.tail {m : Move} {ms : List Move} (h : Leaves aim (m :: ms)) : Leaves aim ms := by
  intro haim hlast
  cases ms with
  | nil => cases hlast
  | cons m' ms => exact h haim hlast

theorem Leaves.goes {m : Move} {ms : List Move} (h : Leaves aim (m :: ms)) :
    ¬ (aim = .creation ∧ ms = [.within]) := by
  rintro ⟨haim, rfl⟩
  exact h haim rfl

theorem walk_of_follow_kept (hkeeps : KeepsWays t t') {links : ℕ} {s : Spot}
    (hends : Settles aim t' s.location)
    (hfollow : ∀ here ms, Leaves aim ms → follow t .entry links here ms = .ok s →
      follow t' aim links here ms = .ok ⟨s.location, t'.node? s.location⟩)
    (here : Location) (ms : List Move) (hleaves : Leaves aim ms)
    (h : walk t .entry links here ms = .ok s) :
    walk t' aim links here ms = .ok ⟨s.location, t'.node? s.location⟩ := by
  induction ms generalizing here with
  | nil =>
    rw [walk_nil] at h ⊢
    rw [← Except.ok.inj h]
  | cons m ms ih =>
    cases m with
    | stay => exact (walk_stay ..).trans (ih here hleaves.tail (walk_stay .. ▸ h))
    | within => exact (walk_within ..).trans (ih here hleaves.tail (walk_within .. ▸ h))
    | up => exact (walk_up ..).trans (ih here.tail hleaves.tail (walk_up .. ▸ h))
    | down name =>
      obtain ⟨hshort, ⟨rfl, rfl⟩ | ⟨_, hnode, h⟩ | ⟨_, hnode, hrest, h⟩⟩ := walk_down_cases h
      · exact walk_down_last hshort hends
      · rw [walk_down_directory hshort hleaves.goes (hkeeps _ _ hnode trivial)]
        exact ih _ hleaves.tail h
      · have hne : ms ≠ [] := fun hms => hrest ⟨hms, rfl⟩
        rw [walk_down_link hshort hleaves.goes (hkeeps _ _ hnode trivial) fun hms => hne hms.1]
        refine hfollow _ _ ?_ h
        intro haim
        rw [List.getLast?_append_of_ne_nil _ hne]
        exact hleaves.tail haim

theorem walk_of_keepsWays (hkeeps : KeepsWays t t') {links : ℕ} {here : Location}
    {ms : List Move} {s : Spot} (hends : Settles aim t' s.location) (hleaves : Leaves aim ms)
    (h : walk t .entry links here ms = .ok s) :
    walk t' aim links here ms = .ok ⟨s.location, t'.node? s.location⟩ := by
  induction links generalizing here ms with
  | zero =>
    refine walk_of_follow_kept hkeeps hends ?_ here ms hleaves h
    intro here ms _ hfollow
    cases hfollow
  | succ links ih =>
    refine walk_of_follow_kept hkeeps hends ?_ here ms hleaves h
    intro here ms hleaves hfollow
    exact ih hleaves hfollow

end Kept

/-- The path names the entry at `l`, whether anything is there or not. -/
def Names (t : FileTree) (base : Location) (p : Path) (l : Location) : Prop :=
  t.locate base .entry p = .ok ⟨l, t.node? l⟩

instance (t : FileTree) (base : Location) (p : Path) (l : Location) :
    Decidable (t.Names base p l) :=
  inferInstanceAs (Decidable (_ = _))

/-- What stands under the path itself, a link if it is one. -/
def under? (t : FileTree) (base : Location) (p : Path) : Option Node :=
  match t.locate base .entry p with
  | .ok s => s.node
  | .error _ => none

section Naming
variable {t t' : FileTree} {base l l' : Location} {p : Path}

theorem names_of_locate {s : Spot} (h : t.locate base .entry p = .ok s) :
    t.Names base p s.location ∧ s.node = t.node? s.location := by
  have hnode := (walked_of_walk ((locate_ok_iff ..).mp h).2).node_eq
  refine ⟨?_, hnode⟩
  rw [Names, h, ← hnode]

theorem Names.unique (h : t.Names base p l) (h' : t.Names base p l') : l = l' :=
  congrArg Spot.location (Except.ok.inj (h.symm.trans h'))

theorem Names.of_keepsWays (hkeeps : KeepsWays t t') (h : t.Names base p l) :
    t'.Names base p l := by
  obtain ⟨hrefusal, hwalk⟩ := (locate_ok_iff ..).mp h
  exact (locate_ok_iff ..).mpr
    ⟨hrefusal, walk_of_keepsWays hkeeps (Or.inl rfl) (fun haim => by cases haim) hwalk⟩

/-- An entry that is no link is what the path leads to. -/
theorem Names.locate_target (h : t.Names base p l)
    (hlink : ∀ target, t.node? l ≠ some (.link target)) :
    t.locate base .target p = .ok ⟨l, t.node? l⟩ := by
  obtain ⟨hrefusal, hwalk⟩ := (locate_ok_iff ..).mp h
  exact (locate_ok_iff ..).mpr ⟨hrefusal,
    walk_of_keepsWays (KeepsWays.refl t) (Or.inr hlink) (fun haim => by cases haim) hwalk⟩

theorem Names.under?_eq (h : t.Names base p l) : t.under? base p = t.node? l := by
  rw [under?, h]

theorem exists_names_of_under? {n : Node} (h : t.under? base p = some n) :
    ∃ l, t.Names base p l ∧ t.node? l = some n := by
  rw [under?] at h
  cases hlocate : t.locate base .entry p with
  | error e => simp [hlocate] at h
  | ok s =>
    rw [hlocate] at h
    obtain ⟨hnames, hnode⟩ := names_of_locate hlocate
    exact ⟨s.location, hnames, hnode ▸ h⟩

theorem exists_names_of_under?_ne (h : t.under? base p ≠ none) :
    ∃ l n, t.Names base p l ∧ t.node? l = some n := by
  obtain ⟨n, hn⟩ := Option.ne_none_iff_exists'.mp h
  obtain ⟨l, hnames, hnode⟩ := exists_names_of_under? hn
  exact ⟨l, n, hnames, hnode⟩

/-- What stands under a path depends on the ways and on the entry that the path names. -/
theorem under?_congr (hways : KeepsWays t t') (hback : KeepsWays t' t)
    (hsame : ∀ l, t.Names base p l → t'.node? l = t.node? l) :
    t'.under? base p = t.under? base p := by
  cases hunder : t.under? base p with
  | some n =>
    obtain ⟨l, hnames, hnode⟩ := exists_names_of_under? hunder
    rw [(hnames.of_keepsWays hways).under?_eq, hsame l hnames, hnode]
  | none =>
    cases hunder' : t'.under? base p with
    | none => rfl
    | some n =>
      obtain ⟨l, hnames', hnode⟩ := exists_names_of_under? hunder'
      have hnames := hnames'.of_keepsWays hback
      rw [hnames.under?_eq, ← hsame l hnames, hnode] at hunder
      cases hunder

theorem exists_of_createNew {mode : ℕ} (h : t.createNew base p mode = .ok t') :
    ∃ l, t.Names base p l ∧ t.node? l = none ∧ t' = t.put l (.file [] mode) := by
  rw [createNew] at h
  rcases hlocate : t.locate base .entry p with e | ⟨l, _ | n⟩
  · simp [hlocate] at h
  · rw [hlocate] at h
    obtain ⟨hnames, hfree⟩ := names_of_locate hlocate
    exact ⟨l, hnames, hfree.symm, (Except.ok.inj h).symm⟩
  · simp [hlocate] at h

theorem find_free (h : t.Names base p l) (hfree : t.node? l = none) :
    t.find base p = .error .notFound := by
  rw [find, h.locate_target (by simp [hfree]), hfree]

section Files
variable {content : Bytes} {mode : ℕ}

theorem find_file (h : t.Names base p l) (hfile : t.node? l = some (.file content mode)) :
    t.find base p = .ok (l, .file content mode) := by
  rw [find, h.locate_target (by simp [hfile]), hfile]

theorem fill_file (h : t.Names base p l) (hfile : t.node? l = some (.file content mode))
    (new : Bytes) : Staging.fill t base p new = t.put l (.file new mode) := by
  rw [Staging.fill, h, hfile]

theorem setMode_file (h : t.Names base p l) (hfile : t.node? l = some (.file content mode))
    (new : ℕ) : t.setMode base p new = .ok (t.put l (.file content new)) := by
  rw [setMode, find_file h hfile]

theorem locateLast_of_names (h : t.Names base p l) (hend : endsInSeparator p = false) :
    t.locateLast base p = .ok ⟨l, t.node? l⟩ := by
  have hrefusal := ((locate_ok_iff ..).mp h).1
  rw [locateLast, hrefusal, withoutEnd_of_not_endsInSeparator hend]
  exact h

theorem write_file (h : t.Names base p l) (hend : endsInSeparator p = false)
    (hfile : t.node? l = some (.file content mode)) (new : Bytes) :
    t.write base p new = .ok (t.put l (.file new mode)) := by
  obtain ⟨hrefusal, hwalk⟩ := (locate_ok_iff ..).mp h
  have hleaves : Leaves .creation (moves p) := by
    intro _ hlast
    have hwithin := List.mem_of_getLast? hlast
    simp only [moves, hend, Bool.false_eq_true, if_false, List.mem_map] at hwithin
    obtain ⟨piece, _, hpiece⟩ := hwithin
    rw [move] at hpiece
    split_ifs at hpiece
  have hlocate : t.locate base .creation p = .ok ⟨l, t.node? l⟩ :=
    (locate_ok_iff ..).mpr ⟨hrefusal,
      walk_of_keepsWays (KeepsWays.refl t) (Or.inr (by simp [hfile])) hleaves hwalk⟩
  rw [write, hlocate, hfile]

/-- What is written is a file where the path leads to, and all else is as it was. -/
theorem node?_of_write {new : Bytes} (h : t.write base p new = .ok t') (l : Location) :
    t'.node? l = t.node? l ∨ ∃ n mode, t.locate base .creation p = .ok ⟨l, n⟩ ∧
      t'.node? l = some (.file new mode) := by
  have hput : ∀ n l₁ mode, t.locate base .creation p = .ok ⟨l₁, n⟩ → l₁ ≠ [] →
      t' = t.put l₁ (.file new mode) → t'.node? l = t.node? l ∨
        ∃ n mode, t.locate base .creation p = .ok ⟨l, n⟩ ∧ t'.node? l = some (.file new mode) := by
    rintro n l₁ mode hlocate hl rfl
    rw [node?_put _ _ _ _ hl]
    split_ifs with hl'
    · exact Or.inr ⟨n, mode, hl' ▸ hlocate, rfl⟩
    · exact Or.inl rfl
  rw [write] at h
  rcases hlocate : t.locate base .creation p with e | ⟨l₁, n⟩
  · simp [hlocate] at h
  · have hnode : n = t.node? l₁ := (walked_of_walk ((locate_ok_iff ..).mp hlocate).2).node_eq
    have hroot : l₁ = [] → n = some (.directory directoryMode) := by
      rintro rfl
      exact hnode
    rw [hlocate] at h
    rcases n with _ | (⟨_, mode⟩ | _ | _)
    · exact hlocate ▸ hput _ l₁ _ hlocate (fun hl => by cases hroot hl) (Except.ok.inj h).symm
    · exact hlocate ▸ hput _ l₁ _ hlocate (fun hl => by cases hroot hl) (Except.ok.inj h).symm
    · cases h
    · cases h

theorem removeFile_file (h : t.Names base p l) (hend : endsInSeparator p = false)
    (hfile : t.node? l = some (.file content mode)) :
    t.removeFile base p = .ok (t.erase l) := by
  rw [removeFile, locateLast_of_names h hend, hfile]
  simp [hend]

end Files

theorem removeFile_absent (h : t.under? base p = none) (hend : endsInSeparator p = false) :
    ∃ e, t.removeFile base p = .error e := by
  rw [removeFile, locateLast, withoutEnd_of_not_endsInSeparator hend]
  cases refusal? p with
  | some e => exact ⟨e, rfl⟩
  | none =>
    rcases hlocate : t.locate base .entry p with e | ⟨l, _ | n⟩
    · exact ⟨e, rfl⟩
    · exact ⟨.notFound, rfl⟩
    · simp [under?, hlocate] at h

theorem publish_free {target : Path} {n : Node} (h : t.Names base p l)
    (hnode : t.node? l = some n) (h' : t.Names base target l') (hfree : t.node? l' = none) :
    t.publish base p target = .ok ((t.erase l).put l' n) := by
  rw [publish, h, hnode, h', hfree]

theorem publish_taken {target : Path} {n n' : Node} (h : t.Names base p l)
    (hnode : t.node? l = some n) (h' : t.Names base target l') (htaken : t.node? l' = some n') :
    t.publish base p target = .error .alreadyExists := by
  rw [publish, h, hnode, h', htaken]

end Naming

section Directories
variable {t : FileTree} {base l : Location} {p : Path} {name : String}

theorem last_of_follow {links : ℕ} {s : Spot}
    (hfollow : ∀ here ms, follow t .entry links here (ms ++ [.down name]) = .ok s →
      ∃ l, s.location = name :: l)
    (here : Location) (ms : List Move)
    (h : walk t .entry links here (ms ++ [.down name]) = .ok s) : ∃ l, s.location = name :: l := by
  induction ms generalizing here with
  | nil =>
    obtain ⟨_, ⟨_, rfl⟩ | ⟨_, _, h⟩ | ⟨_, _, hgoes, _⟩⟩ := walk_down_cases h
    · exact ⟨here, rfl⟩
    · rw [walk_nil] at h
      exact ⟨here, congrArg Spot.location (Except.ok.inj h).symm⟩
    · exact absurd ⟨rfl, rfl⟩ hgoes
  | cons m ms ih =>
    cases m with
    | stay => exact ih here (walk_stay .. ▸ h)
    | within => exact ih here (walk_within .. ▸ h)
    | up => exact ih here.tail (walk_up .. ▸ h)
    | down other =>
      obtain ⟨_, ⟨hrest, _⟩ | ⟨_, _, h⟩ | ⟨_, _, _, h⟩⟩ := walk_down_cases h
      · exact absurd (List.append_eq_nil_iff.mp hrest).2 (List.cons_ne_nil _ _)
      · exact ih _ h
      · rw [List.append_eq, ← List.append_assoc] at h
        exact hfollow _ _ h

theorem Names.of_join (hname : Path.IsName name) (h : t.Names base (p.join name) l) :
    ∃ l', l = name :: l' := by
  have hwalk := ((locate_ok_iff ..).mp h).2
  rw [moves_join p hname] at hwalk
  suffices hlast : ∀ links here ms s, walk t .entry links here (ms ++ [.down name]) = .ok s →
      ∃ l, s.location = name :: l from hlast _ _ _ _ hwalk
  intro links
  induction links with
  | zero =>
    intro here ms s
    refine last_of_follow ?_ here ms
    intro here ms hfollow
    cases hfollow
  | succ links ih =>
    intro here ms s
    refine last_of_follow ?_ here ms
    intro here ms hfollow
    exact ih _ _ _ hfollow

/-- A walk that finds something has an entry to begin with, a link if nothing else. -/
theorem Walked.walk_entry {links : ℕ} {here : Location} {ms : List Move} {s : Spot}
    (h : Walked t s links here ms) (hsome : s.node ≠ none) :
    ∃ l n, walk t .entry links here ms = .ok ⟨l, some n⟩ := by
  have hspot : ∃ l n, s = ⟨l, some n⟩ := by
    obtain ⟨l, _ | n⟩ := s
    · exact absurd rfl hsome
    · exact ⟨l, n, rfl⟩
  induction h with
  | arrived h =>
    rw [walk_nil, ← h]
    simpa using hspot
  | ended hshort h =>
    rw [walk_down_last hshort (Or.inl rfl), ← h]
    simpa using hspot
  | stay _ ih => rw [walk_stay]; exact ih
  | within _ ih => rw [walk_within]; exact ih
  | up _ ih => rw [walk_up]; exact ih
  | down hshort hmode _ ih =>
    rw [walk_down_directory hshort (by simp) hmode]
    exact ih
  | @link _ _ rest _ _ hshort htarget _ ih =>
    by_cases hrest : rest = []
    · subst hrest
      exact ⟨_, _, htarget ▸ walk_down_last hshort (Or.inl rfl)⟩
    · rw [walk_down_link hshort (by simp) htarget fun h => hrest h.1]
      exact ih

theorem Leads.walked {links : ℕ} {here : Location} {ms : List Move}
    (h : Leads t links here ms l) : Walked t ⟨l, t.node? l⟩ links here ms := by
  induction h with
  | arrived _ _ => exact Walked.arrived rfl
  | stay _ ih => exact Walked.stay ih
  | within _ ih => exact Walked.within ih
  | up _ ih => exact Walked.up ih
  | down hshort hnode _ ih => exact Walked.down hshort hnode ih
  | link hshort hnode _ ih => exact Walked.link hshort hnode ih

/-- What is found under a path stands there or a link to it does. -/
theorem under?_of_find {n : Node} (h : t.find base p = .ok (l, n)) : t.under? base p ≠ none := by
  obtain ⟨hrefusal, hwalk⟩ := (locate_ok_iff ..).mp ((find_ok_iff ..).mp h)
  obtain ⟨l', n', hentry⟩ := (walked_of_walk hwalk).walk_entry (by simp)
  rw [under?, (locate_ok_iff ..).mpr ⟨hrefusal, hentry⟩]
  simp

/-- What is handed over as a path can be handed over in part. -/
theorem refusal?_of_isPrefix {q : Path} (hbegins : q.chars <+: p.chars) (hq : q.text ≠ "")
    (h : refusal? p = none) : refusal? q = none := by
  obtain ⟨rest, hchars⟩ := hbegins
  have htext : p.text = q.text ++ String.ofList rest := by
    rw [← String.toList_inj, String.toList_append, String.toList_ofList]
    exact hchars.symm
  rw [refusal?] at h ⊢
  split_ifs at h with hnul _ hlong
  rw [htext, String.utf8ByteSize_append] at hlong
  rw [← hchars, List.contains_append, Bool.or_eq_true, not_or] at hnul
  rw [if_neg hnul.1, if_neg hq, if_neg (by omega)]

/-- What is handed over as a path is handed over without separators at its end as well. -/
theorem refusal?_withoutEnd (h : refusal? p = none) : refusal? (withoutEnd p) = none := by
  obtain hp | ⟨a, s, hne, hchars, _, ha⟩ := withoutEnd_cases p
  · rwa [hp]
  · refine refusal?_of_isPrefix ⟨s, ?_⟩ (fun hempty => ?_) h
    · rw [ha, hchars]
    · exact hne (ha.symm.trans (congrArg String.toList hempty))

theorem makeDirectory_there {mode : ℕ} (h : t.find base p = .ok (l, .directory mode)) (new : ℕ) :
    t.makeDirectory base p new = .error .alreadyExists := by
  have hrefusal := ((locate_ok_iff ..).mp ((find_ok_iff ..).mp h)).1
  obtain ⟨hleads, hnode⟩ := leads_of_find h
  rw [← steps_withoutEnd, ← start_withoutEnd] at hleads
  obtain ⟨l', n', hwalk⟩ : ∃ l' n', walk t .entry 40 (start base (withoutEnd p))
      (moves (withoutEnd p)) = .ok ⟨l', some n'⟩ := by
    rcases moves_eq (withoutEnd p) with hmoves | hmoves
    · rw [hmoves]
      exact hleads.walked.walk_entry (by simp [hnode])
    · obtain ⟨left, hwalk⟩ := hleads.walk_append .entry [.within] (by simp [Trailing])
      exact ⟨l, _, by rw [hmoves, hwalk, walk_within, walk_nil, hnode]⟩
  rw [makeDirectory, locateLast, hrefusal]
  simp only [(locate_ok_iff ..).mpr ⟨refusal?_withoutEnd hrefusal, hwalk⟩]

theorem makePath_of_directoryAt (h : DirectoryAt t base p l) :
    t.makePath base p = (.ok (), t) := by
  obtain ⟨outer, houter⟩ : ∃ outer, ancestors p.chars.length p = p :: outer := by
    cases p.chars.length with
    | zero => exact ⟨[], rfl⟩
    | succ fuel =>
      rw [ancestors]
      cases p.parent? with
      | none => exact ⟨[], rfl⟩
      | some q => exact ⟨_, rfl⟩
  rw [makePath, houter, makeDirectories]
  rcases h with ⟨hempty, _⟩ | ⟨mode, hfind⟩
  · rw [if_pos hempty]
  · have hpresent : p.text ≠ "" := by
      intro hempty
      have hrefusal := ((locate_ok_iff ..).mp ((find_ok_iff ..).mp hfind)).1
      simp [refusal?, Path.chars, hempty] at hrefusal
    have hthere : t.isDirectory base p = true := by
      rw [isDirectory, hfind]
      rfl
    rw [if_neg hpresent, makeDirectory_there hfind]
    simp [makeDirectories.unlessThere, hthere]

end Directories
end TemplateBatch.FileTree
