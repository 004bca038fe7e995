import TemplateBatch.Proofs.RootText
import TemplateBatch.Text.CodeTag
import Mathlib.Data.List.Infix

/-!
Taking the markers of code out of a text. A pass takes out what it meets from left to right and
joins the text around it, so a marker that others had broken up is whole behind them and stays. This
is the only way in which a marker is left: it is what some part of the text strips to. A text is
left as it is exactly when no marker is in it, so stripping twice is stripping once exactly where
no marker was left, and none is left where no marker stands directly behind the beginning of one.
-/
namespace TemplateBatch.Text

section Pass
variable {target : List Char}

theorem removeFrom_eq (target : List Char) (skip : ℕ) (cs : List Char) :
    removeFrom target skip cs = removeAll target (cs.drop skip) := by
  induction cs generalizing skip with
  | nil =>
    rw [List.drop_nil]
    rfl
  | cons c cs ih =>
    cases skip with
    | zero => rfl
    | succ skip =>
      rw [removeFrom, ih]
      rfl

theorem removeAll_append (hne : target ≠ []) (cs : List Char) :
    removeAll target (target ++ cs) = removeAll target cs := by
  obtain ⟨c, rest, rfl⟩ := List.exists_cons_of_ne_nil hne
  have hbegins : (after? (c :: rest) (c :: (rest ++ cs))).isSome = true :=
    isSome_after?_iff.mpr ⟨cs, rfl⟩
  rw [List.cons_append, removeAll, removeFrom, if_pos hbegins, removeFrom_eq, List.length_cons,
    Nat.add_sub_cancel, List.drop_left]

theorem removeAll_cons {c : Char} {cs : List Char} (h : ¬ target <+: c :: cs) :
    removeAll target (c :: cs) = c :: removeAll target cs := by
  rw [removeAll, removeFrom, if_neg (mt isSome_after?_iff.mp h)]
  rfl

/-- A pass over a text takes out the target where it stands in front, and goes one character further
where it does not. -/
theorem removal_induction {P : List Char → Prop} (hne : target ≠ []) (nil : P [])
    (marker : ∀ rest, P rest → P (target ++ rest))
    (ordinary : ∀ c rest, ¬ target <+: c :: rest → P rest → P (c :: rest)) (cs : List Char) :
    P cs := by
  induction h : cs.length using Nat.strong_induction_on generalizing cs with
  | h n ih =>
    by_cases hbegins : target <+: cs
    · obtain ⟨rest, rfl⟩ := hbegins
      have hpos : 0 < target.length := List.length_pos_iff.mpr hne
      rw [List.length_append] at h
      exact marker rest (ih rest.length (by omega) rest rfl)
    · cases cs with
      | nil => exact nil
      | cons c rest =>
        rw [List.length_cons] at h
        exact ordinary c rest hbegins (ih rest.length (by omega) rest rfl)

theorem removeAll_sublist (hne : target ≠ []) (cs : List Char) :
    List.Sublist (removeAll target cs) cs := by
  induction cs using removal_induction hne with
  | nil => exact List.Sublist.refl []
  | marker rest ih =>
    rw [removeAll_append hne]
    exact ih.trans (List.sublist_append_right target rest)
  | ordinary c rest hc ih =>
    rw [removeAll_cons hc]
    exact ih.cons_cons c

theorem removeAll_eq_self_iff (hne : target ≠ []) {cs : List Char} :
    removeAll target cs = cs ↔ ¬ target <:+: cs := by
  induction cs using removal_induction hne with
  | nil => exact iff_of_true rfl fun h => hne (List.infix_nil.mp h)
  | marker rest ih =>
    refine iff_of_false (fun h => ?_) (not_not.mpr (List.prefix_append target rest).isInfix)
    have hlength := (removeAll_sublist hne rest).length_le
    have hpos : 0 < target.length := List.length_pos_iff.mpr hne
    rw [removeAll_append hne] at h
    rw [h, List.length_append] at hlength
    omega
  | ordinary c rest hc ih =>
    rw [removeAll_cons hc, List.cons_inj_right, ih, List.infix_cons_iff, not_or]
    exact (and_iff_right hc).symm

/-- Where the result is cut, the text can be cut. -/
theorem exists_cut_of_removeAll (hne : target ≠ []) {cs a b : List Char}
    (h : removeAll target cs = a ++ b) :
    ∃ a' b', cs = a' ++ b' ∧ removeAll target a' = a ∧ removeAll target b' = b := by
  induction cs using removal_induction hne generalizing a with
  | nil =>
    obtain ⟨rfl, rfl⟩ := List.append_eq_nil_iff.mp h.symm
    exact ⟨[], [], rfl, rfl, rfl⟩
  | marker rest ih =>
    rw [removeAll_append hne] at h
    obtain ⟨a', b', rfl, ha, hb⟩ := ih h
    exact ⟨target ++ a', b', (List.append_assoc _ _ _).symm,
      (removeAll_append hne a').trans ha, hb⟩
  | ordinary c rest hc ih =>
    cases a with
    | nil => exact ⟨[], c :: rest, rfl, rfl, h⟩
    | cons d a =>
      rw [removeAll_cons hc, List.cons_append, List.cons.injEq] at h
      obtain ⟨rfl, hrest⟩ := h
      obtain ⟨a', b', rfl, ha, hb⟩ := ih hrest
      have hfront : ¬ target <+: c :: a' := fun hbegins =>
        hc (hbegins.trans (List.prefix_append (c :: a') b'))
      exact ⟨c :: a', b', rfl, by rw [removeAll_cons hfront, ha], hb⟩

/-- What stands in the result is what a part of the text comes to. -/
theorem exists_part_of_removeAll (hne : target ≠ []) {cs part : List Char}
    (h : part <:+: removeAll target cs) : ∃ w, w <:+: cs ∧ removeAll target w = part := by
  obtain ⟨front, back, heq⟩ := h
  obtain ⟨a, b, rfl, ha, -⟩ := exists_cut_of_removeAll hne heq.symm
  obtain ⟨front', w, rfl, -, hw⟩ := exists_cut_of_removeAll hne ha
  exact ⟨w, ⟨front', b, rfl⟩, hw⟩

/-- Two texts are passed over one after the other when no target stands across their seam. -/
theorem removeAll_append_of (hne : target ≠ []) {a b : List Char}
    (h : ∀ p q, target = p ++ q → p ≠ [] → q ≠ [] → p <:+ a → ¬ q <+: b) :
    removeAll target (a ++ b) = removeAll target a ++ removeAll target b := by
  induction a using removal_induction hne with
  | nil => rfl
  | marker rest ih =>
    rw [List.append_assoc, removeAll_append hne, removeAll_append hne]
    exact ih fun p q htarget hp hq hend =>
      h p q htarget hp hq (hend.trans (List.suffix_append target rest))
  | ordinary c rest hc ih =>
    have hseam : ¬ target <+: c :: (rest ++ b) := by
      rintro ⟨back, hback⟩
      have hsplit : target ++ back = (c :: rest) ++ b := hback
      rcases List.append_eq_append_iff.mp hsplit with ⟨more, hfront, -⟩ | ⟨q, htarget, hb⟩
      · exact hc ⟨more, hfront.symm⟩
      · by_cases hq : q = []
        · rw [hq, List.append_nil] at htarget
          exact hc (htarget ▸ List.prefix_refl _)
        · exact h (c :: rest) q htarget (List.cons_ne_nil _ _) hq (List.suffix_refl _)
            ⟨back, hb.symm⟩
    rw [List.cons_append, removeAll_cons hseam, removeAll_cons hc, List.cons_append]
    rw [ih fun p q htarget hp hq hend =>
      h p q htarget hp hq (hend.trans (List.suffix_cons c rest))]

end Pass

/-- A text in angle brackets, with none between them. -/
def IsTag (tag : List Char) : Prop :=
  ∃ name, tag = '<' :: (name ++ ['>']) ∧ '<' ∉ name ∧ '>' ∉ name

/-- A text that an angle bracket opens and an angle bracket closes. -/
def IsBracketed (cs : List Char) : Prop := cs.head? = some '<' ∧ cs.getLast? = some '>'

namespace IsTag
variable {tag : List Char} (h : IsTag tag)
include h

theorem ne_nil : tag ≠ [] := by
  obtain ⟨name, rfl, -⟩ := h
  exact List.cons_ne_nil _ _

theorem isBracketed : IsBracketed tag := by
  obtain ⟨name, rfl, -⟩ := h
  refine ⟨rfl, ?_⟩
  rw [← List.cons_append, List.getLast?_concat]

theorem open_not_mem {p q : List Char} (htag : tag = p ++ q) (hp : p ≠ []) : '<' ∉ q := by
  obtain ⟨name, rfl, hopen, -⟩ := h
  obtain ⟨c, rest, rfl⟩ := List.exists_cons_of_ne_nil hp
  rw [List.cons_append, List.cons.injEq] at htag
  intro hq
  have hmem : '<' ∈ name ++ ['>'] := by
    rw [htag.2]
    exact List.mem_append_right rest hq
  rcases List.mem_append.mp hmem with hname | hlast
  · exact hopen hname
  · exact absurd (List.mem_singleton.mp hlast) (by decide)

theorem close_not_mem {p q : List Char} (htag : tag = p ++ q) (hq : q ≠ []) : '>' ∉ p := by
  obtain ⟨name, rfl, -, hclose⟩ := h
  obtain ⟨rest, c, rfl⟩ := (List.eq_nil_or_concat' q).resolve_left hq
  rw [← List.append_assoc, ← List.cons_append] at htag
  obtain ⟨hfront, -⟩ := List.append_inj' htag rfl
  intro hp
  have hmem : '>' ∈ '<' :: name := by
    rw [hfront]
    exact List.mem_append_left rest hp
  rcases List.mem_cons.mp hmem with hfirst | hname
  · exact absurd hfirst (by decide)
  · exact hclose hname

/-- No tag stands across a seam that an opening bracket follows. -/
theorem removeAll_append_of_head? {a b : List Char} (hb : b.head? = some '<') :
    removeAll tag (a ++ b) = removeAll tag a ++ removeAll tag b := by
  apply removeAll_append_of h.ne_nil
  rintro p q htag hp hq - ⟨rest, rfl⟩
  obtain ⟨c, q, rfl⟩ := List.exists_cons_of_ne_nil hq
  obtain rfl : c = '<' := Option.some.inj hb
  exact h.open_not_mem htag hp List.mem_cons_self

theorem removeAll_append_of_getLast? {a b : List Char} (ha : a.getLast? = some '>') :
    removeAll tag (a ++ b) = removeAll tag a ++ removeAll tag b := by
  apply removeAll_append_of h.ne_nil
  rintro p q htag hp hq ⟨rest, rfl⟩ -
  have hmem : '>' ∈ p := by
    rw [List.getLast?_append_of_ne_nil _ hp] at ha
    exact List.mem_of_getLast? ha
  exact h.close_not_mem htag hq hmem

theorem head?_of_removeAll {cs : List Char} (hcs : (removeAll tag cs).head? = some '<') :
    cs.head? = some '<' := by
  by_cases hbegins : tag <+: cs
  · obtain ⟨rest, rfl⟩ := hbegins
    rw [List.head?_append_of_ne_nil _ h.ne_nil]
    exact h.isBracketed.1
  · cases cs with
    | nil => cases hcs
    | cons c rest =>
      rw [removeAll_cons hbegins] at hcs
      exact hcs

theorem getLast?_of_removeAll {cs : List Char} (hcs : (removeAll tag cs).getLast? = some '>') :
    cs.getLast? = some '>' := by
  rcases List.eq_nil_or_concat' cs with rfl | ⟨front, c, rfl⟩
  · cases hcs
  by_contra hlast
  rw [List.getLast?_concat] at hlast
  have hseam : ∀ p q, tag = p ++ q → p ≠ [] → q ≠ [] → p <:+ front → ¬ q <+: [c] := by
    rintro p q htag hp hq - ⟨rest, hrest⟩
    obtain ⟨hnil, -⟩ | ⟨hlone, -⟩ := List.append_eq_singleton_iff.mp hrest
    · exact hq hnil
    · have hclose := h.isBracketed.2
      rw [htag, hlone, List.getLast?_concat] at hclose
      exact hlast hclose
  have hsingle : removeAll tag [c] = [c] := by
    refine (removeAll_eq_self_iff h.ne_nil).mpr fun hwithin => ?_
    obtain ⟨name, rfl, -⟩ := h
    have hlength := hwithin.length_le
    simp only [List.length_cons, List.length_append, List.length_nil] at hlength
    omega
  rw [removeAll_append_of h.ne_nil hseam, hsingle, List.getLast?_concat] at hcs
  exact hlast hcs

theorem isBracketed_of_removeAll {cs : List Char} (hcs : IsBracketed (removeAll tag cs)) :
    IsBracketed cs :=
  ⟨h.head?_of_removeAll hcs.1, h.getLast?_of_removeAll hcs.2⟩

/-- A bracketed text stands in the result exactly when some part of the text comes to it. -/
theorem infix_removeAll_iff {part cs : List Char} (hpart : IsBracketed part) :
    part <:+: removeAll tag cs ↔ ∃ w, w <:+: cs ∧ removeAll tag w = part := by
  refine ⟨exists_part_of_removeAll h.ne_nil, ?_⟩
  rintro ⟨w, ⟨front, back, rfl⟩, rfl⟩
  obtain ⟨hhead, hlast⟩ := h.isBracketed_of_removeAll hpart
  have hbehind : (w ++ back).head? = some '<' := by
    rw [List.head?_append, hhead]
    rfl
  rw [List.append_assoc, h.removeAll_append_of_head? hbehind,
    h.removeAll_append_of_getLast? hlast]
  exact ⟨removeAll tag front, removeAll tag back, List.append_assoc _ _ _⟩

end IsTag

def codeTags : List (List Char) := [openTag, closeTag]

/-- A marker of code is in the text. -/
def HasTag (cs : List Char) : Prop := ∃ tag ∈ codeTags, tag <:+: cs

/-- No marker stands directly behind the beginning of a marker. -/
def IsApart (cs : List Char) : Prop :=
  ∀ outer ∈ codeTags, ∀ k < outer.length, 0 < k →
    ∀ tag ∈ codeTags, ¬ outer.take k ++ tag <:+: cs

instance (cs : List Char) : Decidable (HasTag cs) := inferInstanceAs (Decidable (∃ tag ∈ _, _))

instance (cs : List Char) : Decidable (IsApart cs) := inferInstanceAs (Decidable (∀ outer ∈ _, _))

theorem isTag_openTag : IsTag openTag := ⟨['c', 'o', 'd', 'e'], rfl, by decide, by decide⟩

theorem isTag_closeTag : IsTag closeTag := ⟨['/', 'c', 'o', 'd', 'e'], rfl, by decide, by decide⟩

theorem isTag_of_mem {tag : List Char} (h : tag ∈ codeTags) : IsTag tag := by
  rw [codeTags, List.mem_pair] at h
  rcases h with rfl | rfl
  · exact isTag_openTag
  · exact isTag_closeTag

theorem not_hasTag_iff {cs : List Char} :
    ¬ HasTag cs ↔ ¬ openTag <:+: cs ∧ ¬ closeTag <:+: cs := by
  simp [HasTag, codeTags]

/-- What a text strips to is what its parts strip to, as far as that is bracketed. -/
theorem infix_stripCodeTags_iff {part cs : List Char} (hpart : IsBracketed part) :
    part <:+: stripCodeTagsChars cs ↔ ∃ w, w <:+: cs ∧ stripCodeTagsChars w = part := by
  rw [stripCodeTagsChars, isTag_closeTag.infix_removeAll_iff hpart]
  constructor
  · rintro ⟨v, hv, rfl⟩
    have hbracketed := isTag_closeTag.isBracketed_of_removeAll hpart
    obtain ⟨w, hw, rfl⟩ := (isTag_openTag.infix_removeAll_iff hbracketed).mp hv
    exact ⟨w, hw, rfl⟩
  · rintro ⟨w, hw, rfl⟩
    have hbracketed := isTag_closeTag.isBracketed_of_removeAll hpart
    exact ⟨_, (isTag_openTag.infix_removeAll_iff hbracketed).mpr ⟨w, hw, rfl⟩, rfl⟩

theorem hasTag_stripCodeTags_iff (cs : List Char) :
    HasTag (stripCodeTagsChars cs) ↔ ∃ part, part <:+: cs ∧ stripCodeTagsChars part ∈ codeTags := by
  constructor
  · rintro ⟨tag, htag, hwithin⟩
    obtain ⟨part, hpart, hstrip⟩ :=
      (infix_stripCodeTags_iff (isTag_of_mem htag).isBracketed).mp hwithin
    exact ⟨part, hpart, hstrip ▸ htag⟩
  · rintro ⟨part, hpart, htag⟩
    exact ⟨_, htag, (infix_stripCodeTags_iff (isTag_of_mem htag).isBracketed).mpr
      ⟨part, hpart, rfl⟩⟩

theorem stripCodeTags_eq_self_iff {cs : List Char} :
    stripCodeTagsChars cs = cs ↔ ¬ HasTag cs := by
  have hopen := isTag_openTag.ne_nil
  have hclose := isTag_closeTag.ne_nil
  rw [not_hasTag_iff, ← removeAll_eq_self_iff hopen, ← removeAll_eq_self_iff hclose,
    stripCodeTagsChars]
  constructor
  · intro h
    -- Neither pass adds anything, so the first has taken out nothing either.
    have hsecond := removeAll_sublist hclose (removeAll openTag cs)
    rw [h] at hsecond
    have hfirst : removeAll openTag cs = cs := (removeAll_sublist hopen cs).antisymm hsecond
    rw [hfirst] at h
    exact ⟨hfirst, h⟩
  · rintro ⟨hfirst, hsecond⟩
    rw [hfirst, hsecond]

section Apart
variable {cs : List Char}

theorem IsApart.of_part {part : List Char} (h : IsApart cs) (hpart : part <:+: cs) :
    IsApart part :=
  fun outer houter k hk hpos tag htag hwithin =>
    h outer houter k hk hpos tag htag (hwithin.trans hpart)

/-- The beginning of a marker, up to anywhere within it, does not end where a marker stands. -/
theorem IsApart.not_suffix {front tag back : List Char} (h : IsApart (front ++ (tag ++ back)))
    (htag : tag ∈ codeTags) {p q : List Char} (houter : p ++ q ∈ codeTags) (hp : p ≠ [])
    (hq : q ≠ []) : ¬ p <:+ front := by
  rintro ⟨before, rfl⟩
  have hlength : p.length < (p ++ q).length := by
    rw [List.length_append]
    have hpos := List.length_pos_iff.mpr hq
    omega
  apply h _ houter p.length hlength (List.length_pos_iff.mpr hp) tag htag
  rw [List.take_left]
  exact ⟨before, back, by simp only [List.append_assoc]⟩

theorem exists_first_tag (cs : List Char) :
    ¬ HasTag cs ∨ ∃ front tag back, cs = front ++ (tag ++ back) ∧ tag ∈ codeTags ∧
      ¬ HasTag front := by
  induction cs with
  | nil => exact Or.inl (by decide)
  | cons c rest ih =>
    by_cases hbegins : ∃ tag ∈ codeTags, tag <+: c :: rest
    · obtain ⟨tag, htag, back, hback⟩ := hbegins
      exact Or.inr ⟨[], tag, back, hback.symm, htag, by decide⟩
    · have hbehind : ∀ {front : List Char}, c :: front <+: c :: rest → HasTag (c :: front) →
          HasTag front := by
        rintro front hfront ⟨tag, htag, hwithin⟩
        rcases List.infix_cons_iff.mp hwithin with hstarts | hwithin
        · exact absurd ⟨tag, htag, hstarts.trans hfront⟩ hbegins
        · exact ⟨tag, htag, hwithin⟩
      rcases ih with hnone | ⟨front, tag, back, rfl, htag, hfront⟩
      · exact Or.inl fun h => hnone (hbehind (List.prefix_refl _) h)
      · have hstarts : c :: front <+: c :: (front ++ (tag ++ back)) :=
          ⟨tag ++ back, rfl⟩
        exact Or.inr ⟨c :: front, tag, back, rfl, htag, fun h => hfront (hbehind hstarts h)⟩

/-- The first marker is taken out, and what stands in front of it stays. -/
theorem stripCodeTags_first {front tag back : List Char} (h : IsApart (front ++ (tag ++ back)))
    (htag : tag ∈ codeTags) (hfront : ¬ HasTag front) :
    stripCodeTagsChars (front ++ (tag ++ back)) = front ++ stripCodeTagsChars back := by
  obtain ⟨hopen, hclose⟩ := not_hasTag_iff.mp hfront
  have hopened := (removeAll_eq_self_iff isTag_openTag.ne_nil).mpr hopen
  have hclosed := (removeAll_eq_self_iff isTag_closeTag.ne_nil).mpr hclose
  have hhead (rest : List Char) : (tag ++ rest).head? = some '<' := by
    rw [List.head?_append, (isTag_of_mem htag).isBracketed.1]
    rfl
  rw [stripCodeTagsChars, isTag_openTag.removeAll_append_of_head? (hhead back), hopened]
  rcases List.mem_pair.mp htag with rfl | rfl
  · -- The closing pass finds the text joined where the marker was, which is no seam of a marker.
    rw [removeAll_append isTag_openTag.ne_nil, removeAll_append_of isTag_closeTag.ne_nil, hclosed,
      stripCodeTagsChars]
    intro p q houter hp hq hend
    have hmem : p ++ q ∈ codeTags := houter ▸ List.mem_cons_of_mem _ List.mem_cons_self
    exact absurd hend (h.not_suffix htag hmem hp hq)
  · have hkept : removeAll openTag closeTag = closeTag := by decide
    rw [isTag_openTag.removeAll_append_of_getLast? isTag_closeTag.isBracketed.2, hkept,
      isTag_closeTag.removeAll_append_of_head? (hhead _), hclosed,
      removeAll_append isTag_closeTag.ne_nil, stripCodeTagsChars]

/-- No text whose markers stand apart strips to a marker. -/
theorem IsApart.stripCodeTags_not_mem {cs : List Char} (h : IsApart cs) :
    stripCodeTagsChars cs ∉ codeTags := by
  induction hlength : cs.length using Nat.strong_induction_on generalizing cs with
  | h n ih =>
    intro hstrip
    rcases exists_first_tag cs with hnone | ⟨front, tag, back, rfl, htag, hfront⟩
    · rw [stripCodeTags_eq_self_iff.mpr hnone] at hstrip
      exact hnone ⟨cs, hstrip, List.infix_refl cs⟩
    · rw [stripCodeTags_first h htag hfront] at hstrip
      by_cases hnil : front = []
      · subst hnil
        have hpos := List.length_pos_iff.mpr (isTag_of_mem htag).ne_nil
        simp only [List.nil_append, List.length_append] at hlength
        exact ih back.length (by omega)
          (h.of_part ⟨tag, [], by simp⟩) rfl hstrip
      · by_cases hrest : stripCodeTagsChars back = []
        · rw [hrest, List.append_nil] at hstrip
          exact hfront ⟨front, hstrip, List.infix_refl front⟩
        · exact h.not_suffix htag hstrip hnil hrest (List.suffix_refl front)

theorem IsApart.not_hasTag {cs : List Char} (h : IsApart cs) : ¬ HasTag (stripCodeTagsChars cs) := by
  rw [hasTag_stripCodeTags_iff]
  rintro ⟨part, hpart, htag⟩
  exact (h.of_part hpart).stripCodeTags_not_mem htag

end Apart

/-- A marker is left in the stripped text exactly when some part of the text strips to one, which no
part does when the markers stand apart. Stripping once more changes nothing exactly when none is
left. -/
theorem stripCodeTags_leaves_iff (s : String) :
    (HasTag (stripCodeTags s).toList ↔
      ∃ part, part <:+: s.toList ∧ stripCodeTagsChars part ∈ codeTags) ∧
    (IsApart s.toList → ¬ HasTag (stripCodeTags s).toList) ∧
    (stripCodeTags (stripCodeTags s) = stripCodeTags s ↔ ¬ HasTag (stripCodeTags s).toList) := by
  have hchars (s : String) : (stripCodeTags s).toList = stripCodeTagsChars s.toList :=
    String.toList_ofList
  refine ⟨?_, fun hapart => ?_, ?_⟩
  · rw [hchars]
    exact hasTag_stripCodeTags_iff s.toList
  · rw [hchars]
    exact hapart.not_hasTag
  · rw [← String.toList_inj, hchars (stripCodeTags s)]
    exact stripCodeTags_eq_self_iff

/-- Markers around a line of code are taken out, and it stays as it is from then on. -/
theorem stripCodeTags_leaves_iff_sample :
    IsApart "<code>a < b</code>".toList ∧ ¬ HasTag (stripCodeTags "<code>a < b</code>").toList :=
  have hapart : IsApart "<code>a < b</code>".toList := by decide +kernel
  ⟨hapart, (stripCodeTags_leaves_iff "<code>a < b</code>").2.1 hapart⟩

/-- A marker that another one breaks up is whole when that is taken out, and goes only when the text
is stripped once more. -/
theorem broken_tag_left :
    stripCodeTags "<co<code>de>a</code>" = "<code>a" ∧
      HasTag (stripCodeTags "<co<code>de>a</code>").toList ∧
      stripCodeTags (stripCodeTags "<co<code>de>a</code>") ≠
        stripCodeTags "<co<code>de>a</code>" := by
  decide +kernel

end TemplateBatch.Text
