import TemplateBatch.FileTree.Resolve
import TemplateBatch.OutputNames
import TemplateBatch.Proofs.TextPieces
import TemplateBatch.Template

/-!
The pieces of paths. A path is cut at its separators, so none is left in a piece, and joining a file
name to a path adds one step behind those that the path had before. The names that outputs are given
hold no separator either.
-/
namespace TemplateBatch

namespace Path

/-- A text that can stand at the end of a path as the name of a file: no separator is in it, and
something other than dots is. -/
structure IsName (name : String) : Prop where
  noSeparator : '/' ∉ name.toList
  notDots : ∃ c ∈ name.toList, c ≠ '.'

theorem IsName.append {stem suffix : String} (hstem : '/' ∉ stem.toList) (h : IsName suffix) :
    IsName (stem ++ suffix) := by
  obtain ⟨c, hc, hdot⟩ := h.notDots
  constructor
  · rw [String.toList_append, List.mem_append, not_or]
    exact ⟨hstem, h.noSeparator⟩
  · rw [String.toList_append]
    exact ⟨c, List.mem_append_right _ hc, hdot⟩

theorem IsName.ne_of_dots {name : String} (h : IsName name) {dots : List Char}
    (hdots : ∀ c ∈ dots, c = '.') : name.toList ≠ dots := by
  rintro rfl
  obtain ⟨c, hc, hdot⟩ := h.notDots
  exact hdot (hdots c hc)

theorem IsName.toList_ne_nil {name : String} (h : IsName name) : name.toList ≠ [] :=
  h.ne_of_dots (by simp)

section Kept
variable (keep : List Char → Bool)

theorem filter_pieces_append (a b : List Char) :
    (pieces (a ++ '/' :: b)).filter keep = (pieces a).filter keep ++ (pieces b).filter keep := by
  rw [pieces, Text.split_append _ a b '/' rfl, List.filter_append]
  rfl

theorem filter_pieces_name {name : String} (h : IsName name) (hkept : keep name.toList = true) :
    (pieces name.toList).filter keep = [name.toList] := by
  rw [pieces, Text.split_of_not_mem h.noSeparator, List.filter_singleton, hkept]
  rfl

end Kept

/-- The pieces that are not empty. -/
def parts (cs : List Char) : List (List Char) := (pieces cs).filter fun piece => piece != []

theorem parts_separators (a s : List Char) (hs : ∀ c ∈ s, c = '/') : parts (a ++ s) = parts a := by
  induction s generalizing a with
  | nil => rw [List.append_nil]
  | cons c s ih =>
    rw [List.forall_mem_cons] at hs
    have hnone : parts s = [] := ih [] hs.2
    have hcut : parts (a ++ '/' :: s) = parts a ++ parts s := filter_pieces_append _ a s
    rw [hs.1, hcut, hnone, List.append_nil]

section Join
variable (p : Path) {name : String} (hname : IsName name)
include hname

/-- A name is joined as it is to what ends in a separator, and behind a separator else. -/
theorem chars_join :
    ((p.chars = [] ∨ ∃ a, p.chars = a ++ ['/']) ∧ (p.join name).chars = p.chars ++ name.toList) ∨
      (p.chars ≠ [] ∧ (p.join name).chars = p.chars ++ '/' :: name.toList) := by
  have hhead : (name.toList.head? == some '/') = false := by
    rw [beq_eq_false_iff_ne]
    intro h
    exact hname.noSeparator (List.mem_of_head? h)
  rw [join, hhead, if_neg Bool.false_ne_true]
  by_cases hend : p.chars = [] ∨ p.chars.getLast? = some '/'
  · rw [if_pos hend]
    refine Or.inl ⟨hend.imp id List.getLast?_eq_some_iff.mp, ?_⟩
    simp [chars]
  · rw [if_neg hend]
    refine Or.inr ⟨fun h => hend (Or.inl h), ?_⟩
    simp [chars]

/-- A name is one piece more, whichever pieces are kept, if it is kept and an empty one is not. -/
theorem filter_pieces_join {keep : List Char → Bool} (hempty : keep [] = false)
    (hkept : keep name.toList = true) :
    (pieces (p.join name).chars).filter keep = (pieces p.chars).filter keep ++ [name.toList] := by
  have hnone : (pieces []).filter keep = [] := by
    rw [pieces, Text.split, List.filter_singleton, hempty]
    rfl
  rcases chars_join p hname with ⟨hnil | ⟨a, ha⟩, hchars⟩ | ⟨_, hchars⟩
  · rw [hchars, hnil, List.nil_append, filter_pieces_name keep hname hkept, hnone, List.nil_append]
  · rw [hchars, ha, List.append_assoc, List.singleton_append, filter_pieces_append,
      filter_pieces_append, hnone, List.append_nil, filter_pieces_name keep hname hkept]
  · rw [hchars, filter_pieces_append, filter_pieces_name keep hname hkept]

theorem parts_join : parts (p.join name).chars = parts p.chars ++ [name.toList] :=
  filter_pieces_join p hname rfl (bne_iff_ne.mpr hname.toList_ne_nil)

theorem isRooted_join : (p.join name).isRooted = p.isRooted := by
  have hhead : name.toList.head? ≠ some '/' := fun h => hname.noSeparator (List.mem_of_head? h)
  rcases chars_join p hname with ⟨hnil | ⟨a, ha⟩, hchars⟩ | ⟨hne, hchars⟩
  · rw [isRooted, isRooted, hchars, hnil, List.nil_append, beq_eq_false_iff_ne.mpr hhead]
    rfl
  · obtain ⟨c, cs, hcs⟩ := List.exists_cons_of_ne_nil (show p.chars ≠ [] by simp [ha])
    rw [isRooted, isRooted, hchars, hcs]
    rfl
  · obtain ⟨c, cs, hcs⟩ := List.exists_cons_of_ne_nil hne
    rw [isRooted, isRooted, hchars, hcs]
    rfl

theorem not_endsInSeparator_join : FileTree.endsInSeparator (p.join name) = false := by
  obtain ⟨before, c, hlast⟩ := (List.eq_nil_or_concat' name.toList).resolve_left
    hname.toList_ne_nil
  have hc : some c ≠ some '/' := by
    intro h
    apply hname.noSeparator
    rw [hlast, ← Option.some.inj h]
    exact List.mem_append_right _ List.mem_cons_self
  have hend : (p.join name).chars.getLast? = some c := by
    rcases chars_join p hname with ⟨_, hchars⟩ | ⟨_, hchars⟩
    · rw [hchars, hlast, ← List.append_assoc, List.getLast?_concat]
    · rw [hchars, hlast, ← List.cons_append, ← List.append_assoc, List.getLast?_concat]
  rw [FileTree.endsInSeparator, hend]
  exact beq_eq_false_iff_ne.mpr hc

end Join

theorem noSeparator_of_fileNameChars? (p : Path) (name : List Char)
    (h : p.fileNameChars? = some name) : '/' ∉ name := by
  rw [fileNameChars?] at h
  cases hlast : p.spine.getLast? with
  | none => simp [hlast] at h
  | some piece =>
    simp only [hlast] at h
    split at h
    case isTrue => cases h
    obtain rfl : piece = name := Option.some.inj h
    have hspine : piece ∈ p.spine := List.mem_of_getLast? hlast
    have hpieces : piece ∈ pieces (opening p.chars).2 := by
      have hdropped := List.mem_reverse.mp hspine
      exact List.mem_reverse.mp ((List.dropWhile_sublist _).mem hdropped)
    exact Text.not_mem_of_mem_split hpieces

theorem mem_of_mem_cutName (name : List Char) (c : Char) (h : c ∈ (cutName name).1) :
    c ∈ name := by
  rw [cutName] at h
  split at h
  · exact h
  · exact h
  · rename_i dot stem hdrop
    have hdropped : c ∈ name.reverse.dropWhile (· != '.') := by
      rw [hdrop]
      exact List.mem_cons_of_mem _ (List.mem_reverse.mp h)
    exact List.mem_reverse.mp ((List.dropWhile_sublist _).mem hdropped)

end Path

namespace Identifier

theorem noSeparator_className (path : String) : '/' ∉ (className path).toList := by
  have hchar : ∀ c, classChar c ≠ '/' := by
    intro c h
    by_cases hc : Text.isAsciiAlphanumeric c = true
    · rw [classChar, if_pos hc] at h
      rw [h] at hc
      exact absurd hc (by decide)
    · rw [classChar, if_neg hc] at h
      exact absurd h (by decide)
  simp [className, classNameChars, hchar]

end Identifier

namespace Template

theorem noSeparator_fileStem (path code : String) :
    '/' ∉ (Template.ofCode path code).fileStem.toList := by
  rw [fileStem]
  cases hname : (Path.mk path).fileNameChars? with
  | none =>
    simp only [ofCode, Path.stem?, hname, Option.map_none, Option.getD_none]
    exact Identifier.noSeparator_className path
  | some name =>
    simp only [ofCode, Path.stem?, hname, Option.map_some, Option.getD_some, String.toList_ofList]
    intro h
    exact Path.noSeparator_of_fileNameChars? _ _ hname (Path.mem_of_mem_cutName name '/' h)

end Template

namespace FileTree

/-- The moves of a path that a separator at its end adds nothing to. -/
def steps (p : Path) : List Move := (Path.parts p.chars).map move

theorem moves_eq (p : Path) : moves p = steps p ∨ moves p = steps p ++ [.within] := by
  rw [moves]
  cases endsInSeparator p with
  | true => exact Or.inr rfl
  | false => exact Or.inl rfl

theorem move_name {name : String} (h : Path.IsName name) : move name.toList = .down name := by
  have hhere : name.toList ≠ ['.'] := h.ne_of_dots (by simp)
  have hparent : name.toList ≠ ['.', '.'] := h.ne_of_dots (by simp)
  rw [move, if_neg hhere, if_neg hparent, String.ofList_toList]

theorem moves_join (p : Path) {name : String} (hname : Path.IsName name) :
    moves (p.join name) = steps p ++ [.down name] := by
  have hsteps : steps (p.join name) = steps p ++ [.down name] := by
    rw [steps, Path.parts_join p hname, List.map_append, List.map_singleton, move_name hname]
    rfl
  rw [moves, Path.not_endsInSeparator_join p hname]
  exact hsteps

end FileTree

theorem Text.isDigit_of_mem_number {k : ℕ} {c : Char} (h : c ∈ (toString k).toList) :
    c.isDigit = true := by
  have hnumber : (toString k).toList = Nat.toDigits 10 k := Nat.toList_repr
  rw [hnumber] at h
  exact Nat.isDigit_of_mem_toDigits (by omega) (by omega) h

theorem Path.noSeparator_number (k : ℕ) : '/' ∉ (toString k).toList :=
  fun h => absurd (Text.isDigit_of_mem_number h) (by decide)

namespace OutputNames

theorem noSeparator_numbered (candidate : String) (k : ℕ) (h : '/' ∉ candidate.toList) :
    '/' ∉ (numbered candidate k).toList := by
  rw [numbered, String.toList_append, List.mem_append, not_or]
  exact ⟨h, Path.noSeparator_number k⟩

theorem noSeparator_choose (names : OutputNames) (candidate : String)
    (h : '/' ∉ candidate.toList) : '/' ∉ (names.choose candidate).toList := by
  rw [choose]
  split
  · exact noSeparator_numbered candidate _ h
  · exact h

end OutputNames
end TemplateBatch
