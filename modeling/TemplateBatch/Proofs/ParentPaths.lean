import TemplateBatch.Proofs.ScratchCrate

/-!
The parent of a path. Its steps are those of the path without the last one, apart from dots, which
lead nowhere. Where a path leads to a file, its parent therefore leads to the directory that holds
the entry that the path names.
-/
namespace TemplateBatch

namespace Path

/-- The pieces that a path counts as steps. -/
def counted (cs : List Char) : List (List Char) := (pieces cs).filter fun piece => !isIdle piece

theorem counted_separator (a b : List Char) : counted (a ++ '/' :: b) = counted a ++ counted b :=
  filter_pieces_append _ a b

theorem counted_joinChars {ps : List (List Char)} (h : ∀ piece ∈ ps, '/' ∉ piece) :
    counted (Text.joinChars ['/'] ps) = ps.filter fun piece => !isIdle piece := by
  by_cases hps : ps = []
  · rw [hps]
    rfl
  · rw [counted, pieces, Text.split_joinChars hps h]

theorem counted_opening (cs : List Char) {rest : List Char} (h : rest <+: (opening cs).2) :
    counted ((opening cs).1 ++ rest) = counted rest := by
  revert h
  fun_cases opening cs with
  | case1 => exact fun _ => counted_separator [] rest
  | case2 =>
    intro h
    rw [List.prefix_nil.mp h]
    rfl
  | case3 after =>
    intro h
    rcases List.prefix_cons_iff.mp h with rfl | ⟨rest', rfl, _⟩
    · rfl
    · exact (counted_separator ['.'] rest').trans (counted_separator [] rest').symm
  | case4 => exact fun _ => rfl

theorem opening_append (cs : List Char) : (opening cs).1 ++ (opening cs).2 = cs := by
  fun_cases opening cs <;> rfl

theorem openingComponents_append {a : List Char} (h : a ≠ []) (b : List Char) :
    openingComponents (a ++ '/' :: b) = openingComponents a := by
  unfold openingComponents
  fun_cases opening a with
  | case1 => rfl
  | case2 => rfl
  | case3 => rfl
  | case4 _ hrooted hdot hhere =>
    obtain ⟨c, a, rfl⟩ := List.exists_cons_of_ne_nil h
    have hnone : opening (c :: a ++ '/' :: b) = ([], c :: a ++ '/' :: b) := by
      rw [opening]
      · rintro _ ⟨⟩
        exact hrooted a rfl
      · simp
      · intro rest heq
        obtain ⟨rfl, hrest⟩ := List.cons.inj heq
        rcases List.append_eq_cons_iff.mp hrest with ⟨rfl, _⟩ | ⟨after, rfl, _⟩
        · exact hdot rfl
        · exact hhere after rfl
    rw [hnone]

theorem openingComponents_opening (cs : List Char) :
    openingComponents (opening cs).1 = openingComponents cs := by
  unfold openingComponents
  fun_cases opening cs <;> rfl

theorem isRooted_iff (p : Path) : p.isRooted = true ↔ openingComponents p.chars = [.root] := by
  rw [isRooted, openingComponents]
  generalize p.chars = cs
  fun_cases opening cs with
  | case1 => simp
  | case2 => simp
  | case3 => simp
  | case4 _ hrooted =>
    cases cs with
    | nil => simp
    | cons c cs =>
      have hc : c ≠ '/' := fun hc => hrooted cs (hc ▸ rfl)
      simp [hc]

/-- The opening of a path is that of what stands before any of its separators. -/
theorem openingComponents_front {cs : List Char} {front rest : List (List Char)}
    (hpieces : pieces (opening cs).2 = front ++ rest) (hrest : rest ≠ [])
    (hfront : front ≠ [] → Text.joinChars ['/'] front ≠ []) :
    openingComponents ((opening cs).1 ++ Text.joinChars ['/'] front) = openingComponents cs := by
  by_cases hnil : front = []
  · rw [hnil, Text.joinChars, List.append_nil, openingComponents_opening]
  · have hne : (opening cs).1 ++ Text.joinChars ['/'] front ≠ [] :=
      List.append_ne_nil_of_right_ne_nil _ (hfront hnil)
    have hcs : cs = (opening cs).1 ++ Text.joinChars ['/'] front ++
        '/' :: Text.joinChars ['/'] rest := by
      have hjoined := Text.joinChars_append ['/'] hnil hrest
      rw [← hpieces, pieces, Text.joinChars_split] at hjoined
      conv_lhs => rw [← opening_append cs, hjoined]
      simp
    conv_rhs => rw [hcs]
    exact (openingComponents_append hne _).symm

theorem dropIdleEnd_isPrefix (ps : List (List Char)) : dropIdleEnd ps <+: ps := by
  rw [dropIdleEnd, ← List.reverse_suffix, List.reverse_reverse]
  exact List.dropWhile_suffix _

theorem filter_dropIdleEnd (ps : List (List Char)) :
    ((dropIdleEnd ps).filter fun piece => !isIdle piece) =
      ps.filter fun piece => !isIdle piece := by
  have hidle : (ps.reverse.takeWhile isIdle).filter (fun piece => !isIdle piece) = [] := by
    rw [List.filter_eq_nil_iff]
    intro piece hpiece
    simp [List.mem_takeWhile_imp hpiece]
  have hsame : (ps.reverse.dropWhile isIdle).filter (fun piece => !isIdle piece) =
      ps.reverse.filter fun piece => !isIdle piece := by
    conv_rhs => rw [← List.takeWhile_append_dropWhile (p := isIdle) (l := ps.reverse)]
    rw [List.filter_append, hidle, List.nil_append]
  rw [dropIdleEnd, List.filter_reverse, hsame, List.filter_reverse, List.reverse_reverse]

theorem dropIdleEnd_cases (ps : List (List Char)) :
    dropIdleEnd ps = [] ∨ ∃ before piece, dropIdleEnd ps = before ++ [piece] ∧
      isIdle piece = false := by
  rw [dropIdleEnd]
  cases hdrop : ps.reverse.dropWhile isIdle with
  | nil => exact Or.inl rfl
  | cons piece rest =>
    refine Or.inr ⟨rest.reverse, piece, List.reverse_cons, ?_⟩
    have hhead := List.head?_dropWhile_not isIdle ps.reverse
    rw [hdrop] at hhead
    simpa using hhead

theorem joinChars_dropIdleEnd_ne_nil {ps : List (List Char)}
    (huncut : ∀ piece ∈ dropIdleEnd ps, '/' ∉ piece) (h : dropIdleEnd ps ≠ []) :
    Text.joinChars ['/'] (dropIdleEnd ps) ≠ [] := by
  intro hnil
  obtain ⟨before, piece, hlast, hcounts⟩ := (dropIdleEnd_cases ps).resolve_left h
  have hcounted := counted_joinChars huncut
  have hmem : piece ∈ (dropIdleEnd ps).filter fun piece => !isIdle piece := by
    rw [hlast, List.mem_filter, hcounts]
    exact ⟨List.mem_append_right _ List.mem_cons_self, rfl⟩
  rw [← hcounted, hnil] at hmem
  cases hmem

section Parent
variable (p : Path)

theorem counted_chars : counted p.chars = counted (opening p.chars).2 := by
  conv_lhs => rw [← opening_append p.chars]
  exact counted_opening p.chars List.prefix_rfl

theorem counted_spine : counted p.chars = p.spine.filter fun piece => !isIdle piece := by
  rw [counted_chars, spine, filter_dropIdleEnd]
  rfl

theorem components_eq :
    p.components = openingComponents p.chars ++ (counted p.chars).map component := by
  rw [counted_chars]
  rfl

variable {p} {before : List (List Char)} {piece : List Char}

theorem spine_eq_nil_iff : p.spine = [] ↔ counted p.chars = [] := by
  rw [counted_spine, spine]
  rcases dropIdleEnd_cases (pieces (opening p.chars).2) with hnil | ⟨before, piece, hlast, hcounts⟩
  · simp [hnil]
  · simp [hlast, hcounts]

theorem parent?_of_spine (h : p.spine = before ++ [piece]) :
    p.parent? = some (ofChars ((opening p.chars).1 ++
      Text.joinChars ['/'] (dropIdleEnd before))) := by
  obtain ⟨first, others, hcons⟩ :=
    List.exists_cons_of_ne_nil (show before ++ [piece] ≠ [] by simp)
  rw [parent?, h, hcons]
  simp only [← hcons, List.dropLast_concat]

/-- Where pieces count there is a parent, which is the beginning of the path and lacks the last
piece that counts. -/
theorem exists_parent (h : counted p.chars ≠ []) :
    ∃ parent, p.parent? = some parent ∧ parent.chars <+: p.chars ∧
      openingComponents parent.chars = openingComponents p.chars ∧
      counted parent.chars = (counted p.chars).dropLast := by
  rcases dropIdleEnd_cases (pieces (opening p.chars).2) with hnil | ⟨before, piece, hlast, hcounts⟩
  · exact absurd (spine_eq_nil_iff.mp hnil) h
  · have hspine : p.spine = before ++ [piece] := hlast
    obtain ⟨behind, hbehind⟩ : before ++ [piece] <+: pieces (opening p.chars).2 :=
      hlast ▸ dropIdleEnd_isPrefix _
    obtain ⟨idle, hidle⟩ := dropIdleEnd_isPrefix before
    have hpieces : pieces (opening p.chars).2 =
        dropIdleEnd before ++ (idle ++ piece :: behind) := by
      rw [← hbehind, ← List.append_assoc, hidle, List.append_assoc]
      rfl
    have huncut : ∀ q ∈ dropIdleEnd before, '/' ∉ q := by
      intro q hq
      have hmem : q ∈ pieces (opening p.chars).2 := by
        rw [hpieces]
        exact List.mem_append_left _ hq
      exact Text.not_mem_of_mem_split hmem
    have hrest : Text.joinChars ['/'] (dropIdleEnd before) <+: (opening p.chars).2 := by
      have hjoined := Text.joinChars_isPrefix ['/'] (List.prefix_append (dropIdleEnd before)
        (idle ++ piece :: behind))
      rwa [← hpieces, pieces, Text.joinChars_split] at hjoined
    refine ⟨_, parent?_of_spine hspine, ?_, ?_, ?_⟩
    · conv_rhs => rw [← opening_append p.chars]
      rw [chars, ofChars, String.toList_ofList, List.prefix_append_right_inj]
      exact hrest
    · rw [chars, ofChars, String.toList_ofList]
      exact openingComponents_front hpieces (by simp) (joinChars_dropIdleEnd_ne_nil huncut)
    · rw [chars, ofChars, String.toList_ofList, counted_opening p.chars hrest,
        counted_joinChars huncut, filter_dropIdleEnd, counted_spine, hspine, List.filter_append]
      simp [hcounts]

theorem components_of_parent? {parent : Path} (h : p.parent? = some parent) :
    parent.components = p.components.dropLast := by
  by_cases hcounted : counted p.chars = []
  · -- A path without steps has a parent only if it is a dot.
    rw [parent?, spine_eq_nil_iff.mpr hcounted] at h
    simp only at h
    split_ifs at h with hhere
    obtain rfl := Option.some.inj h
    rw [components_eq p, hcounted, ← openingComponents_opening, hhere]
    rfl
  · obtain ⟨parent', hparent', _, hopening, hlast⟩ := exists_parent hcounted
    obtain rfl : parent' = parent := Option.some.inj (hparent'.symm.trans h)
    rw [components_eq, components_eq, hopening, hlast, List.map_dropLast,
      List.dropLast_append_of_ne_nil (by simpa using hcounted)]

end Parent

end Path

namespace FileTree

/-- The moves without those that lead nowhere. -/
def going (ms : List Move) : List Move := ms.filter fun m => m != .stay

theorem going_steps (p : Path) : going (steps p) = (Path.counted p.chars).map move := by
  have hmove (piece : List Char) : (move piece != .stay) = (piece != ['.']) := by
    rw [move]
    split_ifs with hhere hparent
    · rw [hhere]
      rfl
    · rw [hparent]
      rfl
    · exact (bne_iff_ne.mpr hhere).symm
  have hcounts (piece : List Char) :
      (piece != ['.'] && piece != []) = !Path.isIdle piece := by
    simp [Path.isIdle, bne, Bool.and_comm]
  rw [going, steps, Path.parts, Path.counted, List.filter_map, List.filter_filter]
  refine congrArg (List.map move) (List.filter_congr fun piece _ => ?_)
  rw [← hcounts, ← hmove]
  rfl

section Ways
variable {t : FileTree} {links : ℕ} {here l : Location} {ms ms' : List Move}

/-- Moves that lead nowhere may come and go. -/
theorem Leads.of_going_eq (h : Leads t links here ms l) (hsame : going ms' = going ms) :
    Leads t links here ms' l := by
  have hstays {links : ℕ} {here l : Location} {stays rest : List Move}
      (hall : ∀ m ∈ stays, ¬ (m != .stay) = true) (h : Leads t links here rest l) :
      Leads t links here (stays ++ rest) l := by
    induction stays with
    | nil => exact h
    | cons m stays ih =>
      rw [List.forall_mem_cons] at hall
      obtain rfl : m = .stay := by simpa using hall.1
      exact Leads.stay (ih hall.2)
  induction h generalizing ms' with
  | arrived links here =>
    have hall := List.filter_eq_nil_iff.mp hsame
    rw [← List.append_nil ms']
    exact hstays hall (Leads.arrived links here)
  | stay _ ih => exact ih hsame
  | within _ ih =>
    obtain ⟨stays, rest, rfl, hall, _, hrest⟩ := List.filter_eq_cons_iff.mp hsame
    exact hstays hall (Leads.within (ih hrest))
  | up _ ih =>
    obtain ⟨stays, rest, rfl, hall, _, hrest⟩ := List.filter_eq_cons_iff.mp hsame
    exact hstays hall (Leads.up (ih hrest))
  | down hshort hnode _ ih =>
    obtain ⟨stays, rest, rfl, hall, _, hrest⟩ := List.filter_eq_cons_iff.mp hsame
    exact hstays hall (Leads.down hshort hnode (ih hrest))
  | link hshort hnode _ ih =>
    obtain ⟨stays, rest, rfl, hall, _, hrest⟩ := List.filter_eq_cons_iff.mp hsame
    refine hstays hall (Leads.link hshort hnode (ih ?_))
    simp only [going, List.filter_append]
    exact congrArg _ hrest

/-- A directory stands at `l`. -/
def HasDirectory (t : FileTree) (l : Location) : Prop := ∃ mode, t.node? l = some (.directory mode)

theorem hasDirectory_root (t : FileTree) : t.HasDirectory [] := ⟨directoryMode, rfl⟩

theorem HasDirectory.tail (h : t.HasDirectory l) (hconnected : t.Connected) :
    t.HasDirectory l.tail := by
  obtain ⟨mode, hmode⟩ := h
  cases l with
  | nil => exact t.hasDirectory_root
  | cons name l => exact hconnected name l (by simp [hmode])

theorem HasDirectory.start (h : t.HasDirectory here) (p : Path) :
    t.HasDirectory (start here p) := by
  rw [FileTree.start]
  split
  · exact t.hasDirectory_root
  · exact h

variable {s : Spot}

/-- What a walk ends at stands in a directory. -/
theorem Walked.hasDirectory_tail (hconnected : t.Connected) (h : Walked t s links here ms)
    (hhere : t.HasDirectory here) : t.HasDirectory s.location.tail := by
  induction h with
  | arrived hs =>
    subst hs
    exact hhere.tail hconnected
  | ended _ hs =>
    subst hs
    exact hhere
  | stay _ ih => exact ih hhere
  | within _ ih => exact ih hhere
  | up _ ih => exact ih (hhere.tail hconnected)
  | down _ hnode _ ih => exact ih ⟨_, hnode⟩
  | link _ _ _ ih => exact ih (hhere.start _)

/-- A walk to a file is a way to a directory and a name in it. -/
theorem Walked.exists_last {content : Bytes} {mode : ℕ} (hconnected : t.Connected)
    (hfile : s.node = some (.file content mode)) (h : Walked t s links here ms)
    (hhere : t.HasDirectory here) :
    ∃ before last d, ms = before ++ [.down last] ∧ isTooLong last = false ∧
      Leads t links here before d ∧ t.HasDirectory d := by
  have hcons {links : ℕ} {here here' : Location} {ms : List Move} {m : Move}
      (hstep : ∀ before d, Leads t links here' before d → Leads t links here (m :: before) d)
      (h : ∃ before last d, ms = before ++ [.down last] ∧ isTooLong last = false ∧
        Leads t links here' before d ∧ t.HasDirectory d) :
      ∃ before last d, m :: ms = before ++ [.down last] ∧ isTooLong last = false ∧
        Leads t links here before d ∧ t.HasDirectory d := by
    obtain ⟨before, last, d, rfl, hshort, hleads, hd⟩ := h
    exact ⟨m :: before, last, d, rfl, hshort, hstep before d hleads, hd⟩
  induction h with
  | arrived hs =>
    obtain ⟨mode', hmode⟩ := hhere
    rw [hs, hmode] at hfile
    cases hfile
  | ended hshort _ => exact ⟨[], _, _, rfl, hshort, Leads.arrived _ _, hhere⟩
  | stay _ ih => exact hcons (fun _ _ => Leads.stay) (ih hhere)
  | within _ ih => exact hcons (fun _ _ => Leads.within) (ih hhere)
  | up _ ih => exact hcons (fun _ _ => Leads.up) (ih (hhere.tail hconnected))
  | down hshort hnode _ ih => exact hcons (fun _ _ => Leads.down hshort hnode) (ih ⟨_, hnode⟩)
  | @link links here rest name target hshort hnode _ ih =>
    by_cases hrest : rest = []
    · subst hrest
      exact ⟨[], name, here, rfl, hshort, Leads.arrived _ _, hhere⟩
    · obtain ⟨before, last, d, hms, hlast, hleads, hd⟩ := ih (hhere.start target)
      obtain ⟨rest', last', rfl⟩ := (List.eq_nil_or_concat' rest).resolve_left hrest
      rw [← List.append_assoc] at hms
      obtain ⟨rfl, hsame⟩ := List.append_inj' hms rfl
      obtain rfl := List.singleton_inj.mp hsame
      exact ⟨.down name :: rest', last, d, rfl, hlast, Leads.link hshort hnode hleads, hd⟩

end Ways

theorem walked_of_find {t : FileTree} {base l : Location} {p : Path} {n : Node}
    (h : t.find base p = .ok (l, n)) :
    refusal? p = none ∧ Walked t ⟨l, some n⟩ 40 (start base p) (moves p) := by
  obtain ⟨hrefusal, hwalk⟩ := (locate_ok_iff ..).mp ((find_ok_iff ..).mp h)
  exact ⟨hrefusal, walked_of_walk hwalk⟩

/-- Where a path leads to a file, its parent leads to the directory of the entry that it names. -/
theorem exists_parent_of_find {t : FileTree} {base l : Location} {p : Path} {content : Bytes}
    {mode : ℕ} (hconnected : t.Connected) (hbase : t.HasDirectory base)
    (h : t.find base p = .ok (l, .file content mode)) :
    ∃ parent d last, p.parent? = some parent ∧ DirectoryAt t base parent d ∧
      t.Names base p (last :: d) := by
  obtain ⟨hrefusal, hwalked⟩ := walked_of_find h
  obtain ⟨before, last, d, hmoves, hshort, hleads, hd⟩ :=
    hwalked.exists_last hconnected rfl (hbase.start p)
  have hsteps : steps p = before ++ [.down last] := by
    rcases moves_eq p with hsame | hwithin
    · rw [← hsame, hmoves]
    · rw [hmoves] at hwithin
      cases (List.append_inj' hwithin rfl).2
  have hgoing : (Path.counted p.chars).map move = going before ++ [.down last] := by
    rw [← going_steps, hsteps, going, List.filter_append]
    rfl
  obtain ⟨parent, hparent, hbegins, hopening, hcounted⟩ := Path.exists_parent (p := p) (by
    intro hnil
    simp [hnil] at hgoing)
  have hrooted : parent.isRooted = p.isRooted := by
    rw [Bool.eq_iff_iff, Path.isRooted_iff, Path.isRooted_iff, hopening]
  have hway : Leads t 40 (start base parent) (steps parent) d := by
    have hsame : going (steps parent) = going before := by
      rw [going_steps, hcounted, List.map_dropLast, hgoing, List.dropLast_concat]
    rw [start, hrooted]
    exact hleads.of_going_eq hsame
  refine ⟨parent, d, last, hparent, ?_, ?_⟩
  · by_cases hempty : parent.text = ""
    · obtain rfl : parent = ⟨""⟩ := by rw [← hempty]
      have hhere : Leads t 40 base [] d := hway
      cases hhere
      exact Or.inl ⟨rfl, rfl⟩
    · obtain ⟨mode, hmode⟩ := hd
      exact Or.inr ⟨mode, find_of_leads (refusal?_of_isPrefix hbegins hempty hrefusal) hway hmode⟩
  · obtain ⟨left, hlast⟩ := hleads.walk_append .entry [.down last] (trailing_down _ _)
    rw [walk_down_last hshort (Or.inl rfl), ← hmoves] at hlast
    exact (locate_ok_iff ..).mpr ⟨hrefusal, hlast⟩

end FileTree
end TemplateBatch
