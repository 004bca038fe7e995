import TemplateBatch.Identifier
import Mathlib.Tactic.SplitIfs

/-!
The names of generated code. A segment is a name with a letter or an underscore in front and only
those and digits behind it. Every name is made a segment, and a segment is left as it is. What may
be declared are the segments other than the lone underscore.
-/
namespace TemplateBatch.Identifier

/-- A name with a letter or an underscore in front and only those and digits behind it. -/
structure IsSegment (name : List Char) : Prop where
  notEmpty : name ≠ []
  starts : ∀ c, name.head? = some c → Text.isAsciiLetter c = true ∨ c = '_'
  continues : ∀ c ∈ name, Text.isAsciiAlphanumeric c = true ∨ c = '_'

theorem continuesName_iff (c : Char) :
    continuesName c = true ↔ Text.isAsciiAlphanumeric c = true ∨ c = '_' := by
  rw [continuesName, Bool.or_eq_true, beq_iff_eq]

theorem startsName_iff (c : Char) :
    startsName c = true ↔ Text.isAsciiLetter c = true ∨ c = '_' := by
  rw [startsName, Bool.or_eq_true, beq_iff_eq]

theorem continuesName_of_startsName {c : Char} (h : startsName c = true) :
    continuesName c = true := by
  rw [startsName_iff] at h
  rw [continuesName_iff]
  refine h.imp_left fun hletter => ?_
  rw [Text.isAsciiAlphanumeric, Char.isAlphanum, Bool.or_eq_true]
  exact Or.inl hletter

theorem continuesName_of_isDigit {c : Char} (h : c.isDigit = true) : continuesName c = true := by
  rw [continuesName, Text.isAsciiAlphanumeric, Char.isAlphanum, h, Bool.or_true, Bool.true_or]

theorem continuesName_segmentChar (c : Char) : continuesName (segmentChar c) = true := by
  rw [segmentChar]
  split_ifs with h
  · exact h
  · decide

theorem segmentChar_of_continuesName {c : Char} (h : continuesName c = true) :
    segmentChar c = c :=
  if_pos h

theorem isSegment_cons {c : Char} {cs : List Char} (hc : startsName c = true)
    (hcs : ∀ d ∈ cs, continuesName d = true) : IsSegment (c :: cs) := by
  refine ⟨List.cons_ne_nil c cs, fun d hd => ?_, fun d hd => ?_⟩
  · rw [← Option.some.inj hd]
    exact (startsName_iff c).mp hc
  · rw [← continuesName_iff]
    rcases List.mem_cons.mp hd with rfl | hd
    · exact continuesName_of_startsName hc
    · exact hcs d hd

theorem IsSegment.exists_cons {name : List Char} (h : IsSegment name) :
    ∃ c cs, name = c :: cs ∧ startsName c = true ∧ ∀ d ∈ c :: cs, continuesName d = true := by
  obtain ⟨c, cs, rfl⟩ := List.exists_cons_of_ne_nil h.notEmpty
  exact ⟨c, cs, rfl, (startsName_iff c).mpr (h.starts c rfl),
    fun d hd => (continuesName_iff d).mpr (h.continues d hd)⟩

theorem isSegment_segmentChars (name : List Char) : IsSegment (segmentChars name) := by
  have hblot : startsName '_' = true := by decide
  cases name with
  | nil => exact isSegment_cons hblot fun d hd => absurd hd List.not_mem_nil
  | cons c cs =>
    have hrest : ∀ cs : List Char, ∀ d ∈ cs.map segmentChar, continuesName d = true := by
      intro cs d hd
      obtain ⟨c, _, rfl⟩ := List.mem_map.mp hd
      exact continuesName_segmentChar c
    rw [segmentChars, List.head?_cons]
    dsimp only
    split_ifs with hc
    · rw [List.map_cons, segmentChar_of_continuesName (continuesName_of_startsName hc)]
      exact isSegment_cons hc (hrest cs)
    · exact isSegment_cons hblot (hrest (c :: cs))

theorem IsSegment.segmentChars_eq {name : List Char} (h : IsSegment name) :
    segmentChars name = name := by
  obtain ⟨c, cs, rfl, hc, hall⟩ := h.exists_cons
  have hsame : (c :: cs).map segmentChar = (c :: cs).map id :=
    List.map_congr_left fun d hd => segmentChar_of_continuesName (hall d hd)
  rw [segmentChars, List.head?_cons]
  dsimp only
  rw [if_pos hc, hsame, List.map_id, List.nil_append]

/-- Characters that names are not made of are in no segment. -/
theorem IsSegment.not_mem {name : List Char} (h : IsSegment name) {c : Char}
    (hc : continuesName c = false) : c ∉ name := by
  intro hmem
  obtain ⟨_, _, rfl, _, hall⟩ := h.exists_cons
  rw [hall c hmem] at hc
  cases hc

/-- A name with a letter or an underscore in front and only those and digits behind it, which is not
an underscore alone. -/
structure IsDeclarable (name : String) : Prop where
  isSegment : IsSegment name.toList
  notLone : name ≠ "_"

theorem isIdentifier_iff (name : String) : isIdentifier name = true ↔ IsDeclarable name := by
  have hlone : name = "_" ↔ name.toList = ['_'] := String.toList_inj.symm
  rw [isIdentifier]
  constructor
  · intro h
    cases hchars : name.toList with
    | nil => simp [hchars, isIdentifierChars] at h
    | cons c cs =>
      simp only [hchars, isIdentifierChars, Bool.and_eq_true, bne_iff_ne, List.all_eq_true] at h
      obtain ⟨⟨hc, hother⟩, hcs⟩ := h
      refine ⟨hchars ▸ isSegment_cons hc hcs, fun heq => hother ?_⟩
      rw [← hchars, ← hlone, heq]
  · rintro ⟨hsegment, hother⟩
    obtain ⟨c, cs, hchars, hc, hall⟩ := hsegment.exists_cons
    rw [ne_eq, hlone, hchars] at hother
    simp only [hchars, isIdentifierChars, Bool.and_eq_true, bne_iff_ne, List.all_eq_true]
    exact ⟨⟨hc, hother⟩, fun d hd => hall d (List.mem_cons_of_mem c hd)⟩

instance (name : String) : Decidable (IsDeclarable name) :=
  decidable_of_iff _ (isIdentifier_iff name)

theorem not_mem_of_isIdentifier {name : String} (h : isIdentifier name = true) {c : Char}
    (hc : continuesName c = false) : c ∉ name.toList :=
  ((isIdentifier_iff name).mp h).isSegment.not_mem hc

end TemplateBatch.Identifier
