import TemplateBatch.Proofs.CrateFiles
import TemplateBatch.Proofs.TypePaths

/-!
The names that a scratch crate declares. The modules at its root and the names that its ambient
module imports are read off the text of the two files. Accepted references are distinct, and so are
the generated names and the fixed imports, so a clash is always one of a reference with a name that
it was not compared with. The checks do not exclude such a clash.
-/
namespace TemplateBatch

namespace Crate

open Identifier (IsDeclarable IsSegment)
open Text (Lacks lacks_ofList toList_append)

/-- The module that a line of a file declares in the file itself, with no blank in front of it. -/
def declaredModule? (line : List Char) : Option String :=
  (Text.after? "pub mod ".toList line).map fun rest =>
    String.ofList (rest.takeWhile Identifier.continuesName)

/-- The modules that a file declares in order. -/
def declaredModules (text : String) : List String :=
  (Text.lines text.toList).filterMap declaredModule?

def lastPart (path : List Char) : List Char := (Identifier.pathParts path).getLast?.getD []

/-- The names that the import of a path brings into scope: its last part, or that of each item in
its braces, where `self` stands for the path in front of them. -/
def usedNames (path : List Char) : List (List Char) :=
  match path.dropWhile (· != '\x7b') with
  | [] => [lastPart path]
  | _ :: group =>
    (Text.split (· == ',') (group.takeWhile (· != '\x7d'))).map fun item =>
      let name := lastPart (Text.dropBlank item)
      if name = ['s', 'e', 'l', 'f'] then lastPart (path.takeWhile (· != '\x7b')) else name

/-- The names that a line of a file imports for all who import the file. -/
def importedByLine (line : List Char) : List (List Char) :=
  match Text.after? "pub use ".toList line with
  | some rest => usedNames (rest.takeWhile (· != ';'))
  | none => []

/-- The names that a file imports in order. -/
def importedNames (text : String) : List String :=
  ((Text.lines text.toList).flatMap importedByLine).map String.ofList

/-- What the ambient module imports whatever the references are. -/
def fixedImports : List String :=
  ["BTreeMap", "BTreeSet", "HashMap", "HashSet", "VecDeque", "fmt", "Display", "Write", "iter",
    "Template", "TemplateBase"]

theorem takeWhile_name {name : String} (h : IsDeclarable name) {c : Char}
    (hc : Identifier.continuesName c = false) (rest : List Char) :
    String.ofList ((name.toList ++ c :: rest).takeWhile Identifier.continuesName) = name := by
  have hall : ∀ d ∈ name.toList, Identifier.continuesName d = true := by
    intro d hd
    by_contra hd'
    exact h.isSegment.not_mem (Bool.not_eq_true _ ▸ hd') hd
  rw [List.takeWhile_append_of_pos hall, List.takeWhile_cons_of_neg (by rw [hc]; decide),
    List.append_nil, String.ofList_toList]

def declared? (line : String) : Option String := declaredModule? line.toList

theorem declared?_moduleLine {name : String} (h : IsDeclarable name) :
    declared? (moduleLine name) = some name := by
  have hend : ";".toList = [';'] := String.toList_ofList
  unfold declared? declaredModule? moduleLine
  rw [String.append_assoc, String.toList_append, Text.after?_append, String.toList_append, hend,
    Option.map_some, takeWhile_name h (by decide)]

theorem declared?_templateLine (index : ℕ) :
    declared? ("pub mod " ++ templateModule index ++ " \x7b") = some (templateModule index) := by
  have hend : " \x7b".toList = [' ', '\x7b'] := String.toList_ofList
  unfold declared? declaredModule?
  rw [String.append_assoc, String.toList_append, Text.after?_append, String.toList_append, hend,
    Option.map_some, takeWhile_name (isDeclarable_templateModule index) (by decide)]

/-- A line that marks no file and no template declares no module. -/
theorem declared?_of_mark {line : String}
    (h : mark? line = none ∨ ∃ name, mark? line = some (.renderable name)) :
    declared? line = none := by
  unfold declared? declaredModule?
  unfold mark? readMark? at h
  cases hafter : Text.after? "pub mod ".toList line.toList with
  | none => rfl
  | some rest =>
    rw [hafter] at h
    dsimp only at h
    split at h
    · simp at h
    · simp at h

theorem filterMap_declared?_eq_nil {lines : List String}
    (h : ∀ line ∈ lines, mark? line = none ∨ ∃ name, mark? line = some (.renderable name)) :
    lines.filterMap declared? = [] :=
  List.filterMap_eq_nil_iff.mpr fun line hline => declared?_of_mark (h line hline)

theorem declared?_referenceLines {references : List Reference}
    (h : ∀ r ∈ references, IsDeclarable r.name) :
    (references.flatMap referenceLines).filterMap declared? =
      references.filterMap sourceName? := by
  induction references with
  | nil => rfl
  | cons r references ih =>
    rw [List.forall_mem_cons] at h
    rw [List.flatMap_cons, List.filterMap_append, ih h.2]
    cases r with
    | external name path => rfl
    | source name text =>
      have hpath : declared? (pathLine (referenceFile name)) = none :=
        declared?_of_mark (Or.inl (mark?_pathLine _))
      have hmodule : declared? (moduleLine name) = some name := declared?_moduleLine h.1
      rw [referenceLines, List.filterMap_cons_none hpath, List.filterMap_cons_some hmodule]
      rfl

theorem declared?_sourceLines {s : Source} (h : ∀ name ∈ s.renderables, IsDeclarable name)
    (index : ℕ) : (sourceLines s index).filterMap declared? = [templateModule index] := by
  have hrest : (["    use super::__rendergen_ambient::*;",
      "    pub use self::__rendergen_fallback::*;", "    mod __rendergen_fallback \x7b"] ++
        s.renderables.map fallbackLine ++ ["    \x7d",
        "    include!(\"" ++ templateFile index ++ "\");", "\x7d"]).filterMap declared? = [] := by
    refine filterMap_declared?_eq_nil ?_
    simp only [List.forall_mem_append, List.forall_mem_map, List.forall_mem_cons, List.not_mem_nil,
      false_imp_iff, implies_true, and_true]
    refine ⟨⟨⟨?_, ?_, ?_⟩, fun name hname => ?_⟩, ?_, ?_, ?_⟩
    · exact Or.inl (mark?_ofList rfl)
    · exact Or.inl (mark?_ofList rfl)
    · exact Or.inl (mark?_ofList rfl)
    · exact Or.inr ⟨name, mark?_fallbackLine (h name hname)⟩
    · exact Or.inl (mark?_ofList rfl)
    · exact Or.inl (mark?_includeLine _)
    · exact Or.inl (mark?_ofList rfl)
  exact (List.filterMap_cons_some (declared?_templateLine index)).trans
    (congrArg (_ :: ·) hrest)

theorem flatMap_templateModule (sources : List Source) :
    (sources.zipIdx.flatMap fun s => [templateModule s.2]) =
      (List.range sources.length).map templateModule := by
  rw [List.range_eq_range', ← List.zipIdx_map_snd 0 sources, List.map_map]
  exact List.map_eq_flatMap.symm

theorem declared?_headLines :
    headLines.filterMap declared? = ["__rendergen_runtime", "__rendergen_ambient"] := by
  have hallow : declared?
      ("#![allow(dead_code, unused_imports, unused_variables, unused_mut, non_snake_case, " ++
        "non_camel_case_types, non_upper_case_globals)]") = none := by
    rw [declared?, toList_append]
    rfl
  have hempty : declared? "" = none := declared?_of_mark (Or.inl (mark?_ofList rfl))
  have hpath (file : String) : declared? (pathLine file) = none :=
    declared?_of_mark (Or.inl (mark?_pathLine file))
  have hstub : declared? (moduleLine "__rendergen_runtime") = some "__rendergen_runtime" :=
    declared?_moduleLine (by decide)
  have hambient : declared? (moduleLine "__rendergen_ambient") = some "__rendergen_ambient" :=
    declared?_moduleLine (by decide)
  rw [headLines, List.filterMap_cons_none hallow, List.filterMap_cons_none hempty,
    List.filterMap_cons_none (hpath _), List.filterMap_cons_some hstub,
    List.filterMap_cons_none (hpath _), List.filterMap_cons_some hambient,
    List.filterMap_cons_none hempty, List.filterMap_nil]

section Accepted
variable {sources : List Source} {references : List Reference}
  (h : validate sources references = [])
include h

/-- The root declares the stub, the ambient module, the references that become files and the
templates. -/
theorem declaredModules_root :
    declaredModules (root sources references) =
      ["__rendergen_runtime", "__rendergen_ambient"] ++ references.filterMap sourceName? ++
        (List.range sources.length).map templateModule := by
  have hreferences := ((validate_eq_nil_iff sources references).mp h).1
  have hempty : [""].filterMap declared? = [] :=
    filterMap_declared?_eq_nil (List.forall_mem_singleton.mpr (Or.inl (mark?_ofList rfl)))
  have hsources : (forSources sourceLines sources).filterMap declared? =
      (List.range sources.length).map templateModule := by
    rw [forSources, List.filterMap_flatMap, ← flatMap_templateModule]
    exact List.flatMap_congr fun s hs => declared?_sourceLines (isDeclarable_of_mem h hs) s.2
  have hstatic : ["", "pub static __RENDERGEN_MANIFEST: &[__rendergen_runtime::ManifestEntry] = &["
      ].filterMap declared? = [] := by
    refine filterMap_declared?_eq_nil (List.forall_mem_cons.mpr ⟨Or.inl (mark?_ofList rfl), ?_⟩)
    exact List.forall_mem_singleton.mpr (Or.inl (mark?_ofList rfl))
  have hentries : (forSources entryLines sources).filterMap declared? = [] :=
    filterMap_declared?_eq_nil
      (forall_mem_entryLines h fun index name _ => Or.inl (mark?_entryLine index name))
  have hend : ["];"].filterMap declared? = [] :=
    filterMap_declared?_eq_nil (List.forall_mem_singleton.mpr (Or.inl (mark?_ofList rfl)))
  have hlines : declaredModules (root sources references) =
      (rootLines sources references).filterMap declared? := by
    rw [declaredModules, lines_root h, List.filterMap_map]
    rfl
  rw [hlines, rootLines_eq, frontLines]
  simp only [List.filterMap_append, declared?_headLines, declared?_referenceLines hreferences,
    hempty, hsources, hstatic, hentries, hend, List.append_nil]

end Accepted

theorem dropWhile_eq_nil_of_not_mem {c : Char} {cs : List Char} (h : c ∉ cs) :
    cs.dropWhile (· != c) = [] :=
  List.dropWhile_eq_nil_iff.mpr (Text.bne_of_not_mem h)

theorem usedNames_path (front : List Char) {name : String} (h : IsDeclarable name)
    (hfront : '\x7b' ∉ front) : usedNames (front ++ ':' :: ':' :: name.toList) = [name.toList] := by
  have hbrace : '\x7b' ∉ front ++ ':' :: ':' :: name.toList := by
    simp only [List.mem_append, List.mem_cons, not_or]
    exact ⟨hfront, by decide, by decide, h.isSegment.not_mem (by decide)⟩
  rw [usedNames, dropWhile_eq_nil_of_not_mem hbrace]
  dsimp only
  rw [lastPart, Identifier.pathParts_colons, h.isSegment.pathParts_eq, List.getLast?_append,
    List.getLast?_singleton, Option.some_or, Option.getD_some]

theorem importedByLine_path (front : List Char) {name : String} (h : IsDeclarable name)
    (hfront : front.all fun c => !List.contains ['\x7b', ';'] c) :
    importedByLine ("pub use ".toList ++ (front ++ ':' :: ':' :: (name.toList ++ [';']))) =
      [name.toList] := by
  have hlacks := Text.not_mem_of_all hfront
  have hstop : ';' ∉ front ++ ':' :: ':' :: name.toList := by
    simp only [List.mem_append, List.mem_cons, not_or]
    exact ⟨hlacks _ (by decide), by decide, by decide, h.isSegment.not_mem (by decide)⟩
  have hline : front ++ ':' :: ':' :: (name.toList ++ [';']) =
      (front ++ ':' :: ':' :: name.toList) ++ ';' :: [] := by
    simp only [List.append_assoc, List.cons_append]
  rw [importedByLine, Text.after?_append, hline]
  dsimp only
  rw [Text.takeWhile_ne_append hstop, usedNames_path front h (hlacks _ (by decide))]

theorem importedByLine_ambientImport {r : Reference} (h : IsDeclarable r.name) :
    importedByLine (ambientImport r).toList = [r.name.toList] := by
  have huse : "pub use ".toList = ['p', 'u', 'b', ' ', 'u', 's', 'e', ' '] := String.toList_ofList
  have hend : ";".toList = [';'] := String.toList_ofList
  cases r with
  | source name text =>
    have hstart : "pub use crate::".toList =
        ['p', 'u', 'b', ' ', 'u', 's', 'e', ' ', 'c', 'r', 'a', 't', 'e', ':', ':'] :=
      String.toList_ofList
    have hname := importedByLine_path ['c', 'r', 'a', 't', 'e'] h rfl
    have hline : ambientImport (.source name text) = "pub use crate::" ++ name ++ ";" := rfl
    rw [huse] at hname
    rw [hline, String.toList_append, String.toList_append, hstart, hend]
    simpa only [Reference.name, List.append_assoc, List.cons_append, List.nil_append] using hname
  | external name path =>
    have hstart : "pub use ::".toList = ['p', 'u', 'b', ' ', 'u', 's', 'e', ' ', ':', ':'] :=
      String.toList_ofList
    have hname := importedByLine_path [] h rfl
    have hline : ambientImport (.external name path) = "pub use ::" ++ name ++ ";" := rfl
    rw [huse] at hname
    rw [hline, String.toList_append, String.toList_append, hstart, hend]
    simpa only [Reference.name, List.append_assoc, List.cons_append, List.nil_append] using hname

/-- The lines of the ambient module that do not depend on the references. -/
def ambientLines : List String :=
  ["//! Imports every template module sees.",
    "",
    "pub use std::collections::\x7bBTreeMap, BTreeSet, HashMap, HashSet, VecDeque\x7d;",
    "pub use std::fmt::\x7bself, Display, Write\x7d;",
    "pub use std::iter;",
    "",
    "pub use crate::__rendergen_runtime::\x7bTemplate, TemplateBase\x7d;",
    ""]

theorem lines_ambientText :
    Text.lines (ambientText.toList ++ ['\n']) = ambientLines.map String.toList := by
  have hfeed : ambientText.toList ++ ['\n'] = (unlines ambientLines).toList :=
    Text.toList_join_feed (List.cons_ne_nil _ _)
  rw [hfeed]
  refine Text.lines_unlines ?_
  simp only [ambientLines, List.forall_mem_cons, List.not_mem_nil, false_imp_iff, implies_true,
    and_true]
  exact ⟨lacks_ofList rfl, lacks_ofList rfl, lacks_ofList rfl, lacks_ofList rfl, lacks_ofList rfl,
    lacks_ofList rfl, lacks_ofList rfl, lacks_ofList rfl⟩

theorem importedNames_ambient {references : List Reference}
    (h : ∀ r ∈ references, IsDeclarable r.name) :
    importedNames (ambient references) = fixedImports ++ references.map Reference.name := by
  have hfixed : ((ambientLines.map String.toList).flatMap importedByLine).map String.ofList =
      fixedImports := by
    decide +kernel
  have hlacks : ∀ line ∈ references.map ambientImport, Lacks ['\n', '\r'] line := by
    rw [List.forall_mem_map]
    intro r hr
    have hname : Lacks ['\n', '\r'] r.name := lacks_of_declarable rfl (h r hr)
    cases r with
    | source name text => exact (lacks_ofList rfl).around hname (lacks_ofList rfl)
    | external name path => exact (lacks_ofList rfl).around hname (lacks_ofList rfl)
  have hlines : Text.lines (ambient references).toList =
      ambientLines.map String.toList ++ (references.map ambientImport).map String.toList := by
    rw [ambient, String.toList_append, Text.toList_unlines_cons, String.toList_empty,
      List.nil_append, Text.lines_feed, Text.lines_unlines hlacks, lines_ambientText]
  have hreferences : (((references.map ambientImport).map String.toList).flatMap
      importedByLine).map String.ofList = references.map Reference.name := by
    rw [List.map_map, List.flatMap_map, List.map_flatMap, List.map_eq_flatMap]
    refine List.flatMap_congr fun r hr => ?_
    rw [Function.comp_apply, importedByLine_ambientImport (h r hr), List.map_singleton,
      String.ofList_toList]
  rw [importedNames, hlines, List.flatMap_append, List.map_append, hfixed, hreferences]

theorem templateModule_injective : Function.Injective templateModule :=
  OutputNames.numbered_injective "__template_"

theorem templateModule_ne (index : ℕ) :
    templateModule index ∉ ["__rendergen_runtime", "__rendergen_ambient"] := by
  have hkind : (templateModule index).toList.take 3 = ['_', '_', 't'] := by
    rw [templateModule, toList_append]
    rfl
  rw [List.mem_cons, List.mem_singleton]
  rintro (heq | heq)
  · rw [heq, String.toList_ofList] at hkind
    exact absurd hkind (by decide)
  · rw [heq, String.toList_ofList] at hkind
    exact absurd hkind (by decide)

/-- The modules that the root declares besides those of references. -/
def generatedModules (sources : List Source) : List String :=
  ["__rendergen_runtime", "__rendergen_ambient"] ++
    (List.range sources.length).map templateModule

theorem nodup_generatedModules (sources : List Source) : (generatedModules sources).Nodup := by
  refine List.nodup_append.mpr ⟨by decide, List.nodup_range.map templateModule_injective, ?_⟩
  rintro name hname _ hmodule rfl
  obtain ⟨index, -, rfl⟩ := List.mem_map.mp hmodule
  exact templateModule_ne index hname

/-- The checks leave just the clashes of a reference with a name that is not a reference's. The
modules at the root are distinct just when no reference that becomes a file has the name of another
module there, and the names that the ambient module imports are distinct just when no reference has
the name of a fixed import. -/
theorem accepted_names_distinct_iff {sources : List Source} {references : List Reference}
    (h : validate sources references = []) :
    ((declaredModules (root sources references)).Nodup ↔
      ∀ name text, Reference.source name text ∈ references → name ∉ generatedModules sources) ∧
    ((importedNames (ambient references)).Nodup ↔
      ∀ r ∈ references, r.name ∉ fixedImports) := by
  obtain ⟨hnames, hnodup, -⟩ := (validate_eq_nil_iff sources references).mp h
  constructor
  · have hperm : (declaredModules (root sources references)).Perm
        (references.filterMap sourceName? ++ generatedModules sources) := by
      rw [declaredModules_root h, generatedModules, ← List.append_assoc]
      exact List.perm_append_comm.append_right _
    have hsources : (references.filterMap sourceName?).Nodup :=
      hnodup.sublist (sublist_sourceNames references)
    rw [hperm.nodup_iff, List.nodup_append', and_iff_right hsources,
      and_iff_right (nodup_generatedModules sources), List.disjoint_left]
    refine ⟨fun hdisjoint name text hmem => ?_, fun hfree name hname => ?_⟩
    · exact hdisjoint (List.mem_filterMap.mpr ⟨_, hmem, rfl⟩)
    · obtain ⟨r, hr, hsource⟩ := List.mem_filterMap.mp hname
      cases r with
      | external name path => cases hsource
      | source name text =>
        cases hsource
        exact hfree name text hr
  · have hfixed : fixedImports.Nodup := by decide
    rw [importedNames_ambient hnames, List.nodup_append', and_iff_right hfixed,
      and_iff_right hnodup, List.disjoint_right, List.forall_mem_map]

namespace ClashSample

def sources : List Source := [⟨"a.rtpl", "x", ["A"]⟩]

def text : Reference := .source "text" "z"

/-- References that are named like the module of the stub and like a fixed import. -/
def clashing : List Reference := [.source "__rendergen_runtime" "", .source "iter" ""]

end ClashSample

open ClashSample in
theorem accepted_names_distinct_iff_sample :
    validate sources [text] = [] ∧ (declaredModules (root sources [text])).Nodup ∧
    (importedNames (ambient [text])).Nodup := by
  have hvalid : validate sources [text] = [] := by decide +kernel
  obtain ⟨hmodules, himports⟩ := accepted_names_distinct_iff hvalid
  refine ⟨hvalid, hmodules.mpr fun name code hmem => ?_, himports.mpr ?_⟩
  · cases List.mem_singleton.mp hmem
    decide +kernel
  · rw [List.forall_mem_singleton]
    decide

open ClashSample in
theorem accepted_names_clash :
    validate sources clashing = [] ∧
    ¬ (declaredModules (root sources clashing)).Nodup ∧
    ¬ (importedNames (ambient clashing)).Nodup := by
  have hvalid : validate sources clashing = [] := by decide +kernel
  have hnames := ((validate_eq_nil_iff sources clashing).mp hvalid).1
  rw [declaredModules_root hvalid, importedNames_ambient hnames]
  exact ⟨hvalid, by decide +kernel, by decide⟩

end Crate
end TemplateBatch
