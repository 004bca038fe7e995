import TemplateBatch.CommandLine
import TemplateBatch.Proofs.Identifiers
import TemplateBatch.Proofs.PathPieces
import Mathlib.Data.List.TakeWhile

/-!
Type paths. Whatever path they are made for, their parts are names that generated code may use for
modules and types, and a part of that form is left as it is. So the type path that is shown for a
path has itself for its type path, and it is shown for no other type path.
-/
namespace TemplateBatch

namespace Path

section Plain
variable {c : Char} {cs : List Char}

theorem opening_cons (hslash : c ≠ '/') (hdot : c ≠ '.') : opening (c :: cs) = ([], c :: cs) := by
  rw [opening]
  · rintro _ ⟨⟩
    exact hslash rfl
  · rintro ⟨⟩
    exact hdot rfl
  · rintro _ ⟨⟩
    exact hdot rfl

/-- A path that is a single piece and does not start with a dot names a file. -/
theorem fileNameChars?_ofChars (hslash : '/' ∉ c :: cs) (hdot : c ≠ '.') :
    (ofChars (c :: cs)).fileNameChars? = some (c :: cs) := by
  have hopening : opening (c :: cs) = ([], c :: cs) :=
    opening_cons (fun h => hslash (h ▸ List.mem_cons_self)) hdot
  have hspine : (ofChars (c :: cs)).spine = [c :: cs] := by
    rw [spine, ofChars, chars, String.toList_ofList, hopening, pieces,
      Text.split_of_not_mem hslash]
    simp [dropIdleEnd, isIdle, hdot]
  rw [fileNameChars?, hspine]
  simp [hdot]

theorem cutName_of_not_mem {name : List Char} (h : '.' ∉ name) : cutName name = (name, none) := by
  have hnone : name.reverse.dropWhile (· != '.') = [] := by
    rw [List.dropWhile_eq_nil_iff]
    intro d hd
    rw [bne_iff_ne]
    rintro rfl
    exact h (List.mem_reverse.mp hd)
  rw [cutName, hnone]

end Plain
end Path

namespace Identifier

theorem IsSegment.stem?_eq {name : List Char} (h : IsSegment name) :
    (Path.ofChars name).stem? = some (String.ofList name) := by
  have hslash := h.not_mem (c := '/') (by decide)
  have hdot := h.not_mem (c := '.') (by decide)
  obtain ⟨c, cs, rfl⟩ := List.exists_cons_of_ne_nil h.notEmpty
  have hc : c ≠ '.' := fun hc => hdot (hc ▸ List.mem_cons_self)
  rw [Path.stem?, Path.fileNameChars?_ofChars hslash hc, Option.map_some,
    Path.cutName_of_not_mem hdot]

theorem pathParts_append (a b : List Char) {c : Char} (hc : isSeparator c = true) :
    pathParts (a ++ c :: b) = pathParts a ++ pathParts b := by
  rw [pathParts, Text.split_append _ a b c hc, List.filter_append]
  rfl

theorem pathParts_colons (a b : List Char) :
    pathParts (a ++ ':' :: ':' :: b) = pathParts a ++ pathParts b := by
  have hsecond : pathParts (':' :: b) = pathParts b := pathParts_append [] b rfl
  rw [pathParts_append a _ rfl, hsecond]

theorem IsSegment.pathParts_eq {name : List Char} (h : IsSegment name) :
    pathParts name = [name] := by
  have huncut : ∀ c ∈ name, isSeparator c = false := by
    intro c hc
    by_contra hseparator
    rw [Bool.not_eq_false, isSeparator, Bool.or_eq_true, Bool.or_eq_true, beq_iff_eq, beq_iff_eq,
      beq_iff_eq] at hseparator
    obtain (rfl | rfl) | rfl := hseparator
    all_goals exact h.not_mem (by decide) hc
  rw [pathParts, Text.split_of_uncut _ _ huncut]
  simp [h.notEmpty]

/-- Segments with colons between them are the parts of what they are joined to. -/
theorem pathParts_joinChars {names : List (List Char)} (h : ∀ name ∈ names, IsSegment name) :
    pathParts (Text.joinChars [':', ':'] names) = names := by
  induction names with
  | nil => rfl
  | cons name names ih =>
    rw [List.forall_mem_cons] at h
    by_cases hnames : names = []
    · rw [hnames]
      exact h.1.pathParts_eq
    · rw [Text.joinChars_cons _ _ hnames, List.append_assoc, List.cons_append,
        List.singleton_append, pathParts_colons, h.1.pathParts_eq, ih h.2]
      rfl

/-- The parts of a type path in order. -/
def TypePath.parts (t : TypePath) : List String := t.segments ++ [t.name]

theorem isSegment_of_mem_parts {path name : String} (h : name ∈ (typePath path).parts) :
    IsSegment name.toList := by
  rw [TypePath.parts, typePath, List.mem_append, List.mem_singleton] at h
  rcases h with hsegment | rfl
  · obtain ⟨part, _, rfl⟩ := List.mem_map.mp hsegment
    rw [String.toList_ofList]
    exact isSegment_segmentChars part
  · rw [String.toList_ofList]
    exact isSegment_segmentChars _

/-- A type path that is made of segments is the type path of what is shown of it. -/
theorem typePath_of_segments {t : TypePath} (h : ∀ name ∈ t.parts, IsSegment name.toList) :
    typePath t.display = t := by
  have hparts : pathParts t.display.toList = t.segments.map String.toList ++ [t.name.toList] := by
    have hjoined : t.segments.map String.toList ++ [t.name.toList] = t.parts.map String.toList := by
      rw [TypePath.parts, List.map_append, List.map_singleton]
    rw [TypePath.display, Text.join, String.toList_ofList, hjoined]
    refine pathParts_joinChars fun name hname => ?_
    obtain ⟨part, hpart, rfl⟩ := List.mem_map.mp hname
    exact h part hpart
  have hname := h t.name (List.mem_append_right _ (List.mem_singleton.mpr rfl))
  have hsegments : t.segments.map (fun part => String.ofList (segmentChars part.toList)) =
      t.segments.map id := by
    refine List.map_congr_left fun part hpart => ?_
    rw [(h part (List.mem_append_left _ hpart)).segmentChars_eq, String.ofList_toList, id]
  rw [List.map_id] at hsegments
  rw [typePath, hparts, List.dropLast_concat, List.getLast?_concat, Option.getD_some,
    hname.stem?_eq, List.map_map]
  simp only [Option.getD_some, hname.segmentChars_eq, String.ofList_toList]
  exact congrArg (fun segments => TypePath.mk segments t.name) hsegments

/-- The parts of the type path of any path are names that start with a letter or an underscore and
hold no characters but those and digits. What is shown as the type path of a path has this type path
itself, so paths for which the same is shown have the same segments and the same name. -/
theorem typePath_classNameText (path : String) :
    let t := typePath path
    (∀ name ∈ t.segments ++ [t.name], IsSegment name.toList) ∧
    typePath (CommandLine.classNameText path true) = t ∧
    ∀ other, CommandLine.classNameText other true = CommandLine.classNameText path true →
      (typePath other).segments = t.segments ∧ (typePath other).name = t.name := by
  intro t
  have hfixed (path : String) : typePath (CommandLine.classNameText path true) = typePath path :=
    typePath_of_segments fun _ hname => isSegment_of_mem_parts hname
  refine ⟨fun _ hname => isSegment_of_mem_parts hname, hfixed path, fun other hshown => ?_⟩
  have hsame : typePath other = t := by
    rw [← hfixed other, hshown, hfixed path]
  exact ⟨congrArg TypePath.segments hsame, congrArg TypePath.name hsame⟩

example : typePath "views/2024//.my-page.rtpl" = ⟨["views", "_2024"], "__my_page"⟩ := by
  rfl

end Identifier
end TemplateBatch
