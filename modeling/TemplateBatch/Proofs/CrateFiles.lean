import TemplateBatch.Proofs.LinkedCrates
import TemplateBatch.Proofs.OutputFiles
import TemplateBatch.Proofs.OutputNames
import TemplateBatch.Proofs.RootText

/-!
The files of a scratch crate. Names that were accepted give each file a name of its own, so that
none is written over another and the compiler finds all of them as they are meant to be. The root
names every other file once and nothing besides, wherever in its text one looks.
-/
namespace TemplateBatch

namespace Crate

open Text (Lacks lacks_ofList lacks_number toList_cons toList_append)
open Identifier (IsDeclarable)

theorem map_templateFile (sources : List Source) :
    sources.zipIdx.map (fun s => templateFile s.2) =
      (List.range sources.length).map templateFile := by
  rw [List.range_eq_range', ← List.zipIdx_map_snd 0 sources, List.map_map]
  rfl

theorem flatMap_sourceName? (references : List Reference) :
    references.flatMap (fun r => (sourceName? r).toList.map referenceFile) =
      (references.filterMap sourceName?).map referenceFile := by
  induction references with
  | nil => rfl
  | cons r references ih =>
    rw [List.flatMap_cons, ih]
    cases r <;> rfl

theorem names_files (sources : List Source) (references : List Reference) :
    (files sources references).map Prod.fst =
      [stubFile, ambientFile] ++ (references.filterMap sourceName?).map referenceFile ++
        (List.range sources.length).map templateFile ++ [rootFile] := by
  have hreferences : (references.flatMap referenceFiles).map Prod.fst =
      (references.filterMap sourceName?).map referenceFile := by
    rw [← flatMap_sourceName?, List.map_flatMap]
    refine List.flatMap_congr fun r _ => ?_
    cases r <;> rfl
  have hsources : (sources.zipIdx.map fun s => (templateFile s.2, s.1.text)).map Prod.fst =
      (List.range sources.length).map templateFile := by
    rw [← map_templateFile, List.map_map]
    rfl
  rw [files, List.map_append, List.map_append, List.map_append, hreferences, hsources]
  rfl

theorem referenceFile_injective : Function.Injective referenceFile := by
  intro name name' h
  exact (String.append_right_inj _).mp ((String.append_left_inj _).mp h)

theorem templateFile_injective : Function.Injective templateFile := by
  intro index index' h
  exact OutputNames.numbered_injective "template_" ((String.append_left_inj _).mp h)

/-- The characters that tell the kinds of files apart. -/
def kind (name : String) : List Char := name.toList.take 3

theorem kind_ofList (cs : List Char) : kind (String.ofList cs) = cs.take 3 := by
  rw [kind, String.toList_ofList]

theorem kind_referenceFile (name : String) : kind (referenceFile name) = ['r', 'e', 'f'] := by
  rw [kind, referenceFile, String.append_assoc, toList_append]
  rfl

theorem kind_templateFile (index : ℕ) : kind (templateFile index) = ['t', 'e', 'm'] := by
  rw [kind, templateFile, String.append_assoc, toList_append]
  rfl

/-- The names of references that become files are among those of all references. -/
theorem sublist_sourceNames (references : List Reference) :
    (references.filterMap sourceName?).Sublist (references.map Reference.name) := by
  induction references with
  | nil => exact List.Sublist.refl _
  | cons r references ih =>
    cases r with
    | source name text => exact ih.cons_cons name
    | external name path => exact ih.cons name

/-- No two files of a crate have one name, and none has that of the module. -/
theorem nodup_files {sources : List Source} {references : List Reference}
    (h : validate sources references = []) :
    ((files sources references).map Prod.fst ++ [outputFile]).Nodup := by
  obtain ⟨_, hnodup, _⟩ := (validate_eq_nil_iff sources references).mp h
  have hreferences : ((references.filterMap sourceName?).map referenceFile).Nodup :=
    (hnodup.sublist (sublist_sourceNames references)).map referenceFile_injective
  have htemplates : ((List.range sources.length).map templateFile).Nodup :=
    List.nodup_range.map templateFile_injective
  -- Files of different kinds differ in one of their first characters.
  have hfixed : ∀ name ∈ [stubFile, ambientFile], kind name = ['r', 'e', 'n'] := by
    simp only [List.forall_mem_cons, List.not_mem_nil, false_imp_iff, implies_true, and_true]
    exact ⟨kind_ofList _, kind_ofList _⟩
  have hlast : ∀ name ∈ [rootFile, outputFile], kind name = ['l', 'i', 'b'] := by
    simp only [List.forall_mem_cons, List.not_mem_nil, false_imp_iff, implies_true, and_true]
    refine ⟨kind_ofList _, ?_⟩
    rw [kind, outputFile, String.append_assoc, toList_append]
    rfl
  have hreferenceKind : ∀ name ∈ (references.filterMap sourceName?).map referenceFile,
      kind name = ['r', 'e', 'f'] := by
    rw [List.forall_mem_map]
    exact fun name _ => kind_referenceFile name
  have htemplateKind : ∀ name ∈ (List.range sources.length).map templateFile,
      kind name = ['t', 'e', 'm'] := by
    rw [List.forall_mem_map]
    exact fun index _ => kind_templateFile index
  have hdiffer {names names' : List String} {k k' : List Char} (hk : ∀ name ∈ names, kind name = k)
      (hk' : ∀ name ∈ names', kind name = k') (hne : k ≠ k') :
      ∀ name ∈ names, ∀ name' ∈ names', name ≠ name' := by
    rintro name hname _ hname' rfl
    exact hne ((hk name hname).symm.trans (hk' name hname'))
  have hordinary : ([stubFile, ambientFile] ++
      (references.filterMap sourceName?).map referenceFile ++
      (List.range sources.length).map templateFile).Nodup := by
    refine List.nodup_append.mpr
      ⟨List.nodup_append.mpr ⟨by decide, hreferences, ?_⟩, htemplates, ?_⟩
    · exact hdiffer hfixed hreferenceKind (by decide)
    · rw [List.forall_mem_append]
      exact ⟨hdiffer hfixed htemplateKind (by decide),
        hdiffer hreferenceKind htemplateKind (by decide)⟩
  rw [names_files, List.append_assoc, List.singleton_append]
  refine List.nodup_append.mpr ⟨hordinary, by decide, ?_⟩
  rw [List.forall_mem_append, List.forall_mem_append]
  exact ⟨⟨hdiffer hfixed hlast (by decide), hdiffer hreferenceKind hlast (by decide)⟩,
    hdiffer htemplateKind hlast (by decide)⟩

/-- What stands in front of the name of a module's file. -/
def pathStart : List Char := "#[path = \"".toList

/-- What stands in front of the name of a file that takes the place of its mention. -/
def includeStart : List Char := "include!(\"".toList

/-- The text behind `start` up to the next quote. -/
def nameBehind? (start cs : List Char) : Option String :=
  (Text.after? start cs).map fun rest => String.ofList (rest.takeWhile (· != '"'))

/-- The file that is named where the text begins. -/
def namedFile? (cs : List Char) : Option String :=
  (nameBehind? pathStart cs).or (nameBehind? includeStart cs)

/-- The files that are named anywhere in a text. -/
def namedFiles : List Char → List String
  | [] => []
  | c :: cs => (namedFile? (c :: cs)).toList ++ namedFiles cs

theorem nameBehind?_cons {c d : Char} (h : c ≠ d) (start cs : List Char) :
    nameBehind? (c :: start) (d :: cs) = none := by
  rw [nameBehind?, Text.after?, if_neg h]
  rfl

theorem nameBehind?_append (start : List Char) {file : List Char} (h : '"' ∉ file)
    (rest : List Char) :
    nameBehind? start (start ++ (file ++ '"' :: rest)) = some (String.ofList file) := by
  rw [nameBehind?, Text.after?_append, Option.map_some, Text.takeWhile_ne_append h]

theorem nameBehind?_line {start line : List Char} {c : Char} (hc : c ∈ start)
    (hfeed : '\n' ∉ start) (hline : c ∉ line) (rest : List Char) :
    nameBehind? start (line ++ '\n' :: rest) = none := by
  rw [nameBehind?, Text.after?_line hc hfeed hline]
  rfl

theorem pathStart_eq : pathStart = '#' :: "[path = \"".toList := toList_cons _ _

theorem includeStart_eq : includeStart = 'i' :: "nclude!(\"".toList := toList_cons _ _

/-- Nothing is named from one of these characters on. -/
theorem namedFiles_skip {s : List Char} (h : s.all fun c => c != '#' && c != 'i') (cs : List Char) :
    namedFiles (s ++ cs) = namedFiles cs := by
  induction s with
  | nil => rfl
  | cons c s ih =>
    rw [List.all_cons, Bool.and_eq_true, Bool.and_eq_true, bne_iff_ne, bne_iff_ne] at h
    rw [List.cons_append, namedFiles, namedFile?, pathStart_eq, includeStart_eq,
      nameBehind?_cons (Ne.symm h.1.1), nameBehind?_cons (Ne.symm h.1.2), ih h.2]
    rfl

theorem namedFiles_line {line : List Char} (hhash : '#' ∉ line) (hbang : '!' ∉ line)
    (rest : List Char) : namedFiles (line ++ '\n' :: rest) = namedFiles rest := by
  have hpath : '#' ∈ pathStart := pathStart_eq ▸ List.mem_cons_self
  have hinclude : '!' ∈ includeStart := by
    unfold includeStart
    rw [String.toList_ofList]
    decide
  have hfeed : Lacks ['\n'] "#[path = \"" ∧ Lacks ['\n'] "include!(\"" :=
    ⟨lacks_ofList rfl, lacks_ofList rfl⟩
  have hpathFeed : '\n' ∉ pathStart := hfeed.1 _ List.mem_cons_self
  have hincludeFeed : '\n' ∉ includeStart := hfeed.2 _ List.mem_cons_self
  induction line with
  | nil => exact namedFiles_skip (s := ['\n']) rfl rest
  | cons c line ih =>
    have hnone : namedFile? (c :: line ++ '\n' :: rest) = none := by
      rw [namedFile?, nameBehind?_line hpath hpathFeed hhash,
        nameBehind?_line hinclude hincludeFeed hbang]
      rfl
    rw [List.mem_cons, not_or] at hhash hbang
    rw [List.cons_append] at hnone ⊢
    rw [namedFiles, hnone, ih hhash.2 hbang.2]
    rfl

/-- The lines name these files, whatever comes behind them. -/
def Names (lines names : List String) : Prop :=
  ∀ rest, namedFiles ((unlines lines).toList ++ rest) = names ++ namedFiles rest

theorem Names.append {lines lines' names names' : List String} (h : Names lines names)
    (h' : Names lines' names') : Names (lines ++ lines') (names ++ names') := by
  intro rest
  have hlines : (unlines (lines ++ lines')).toList =
      (unlines lines).toList ++ (unlines lines').toList := by
    simp [unlines]
  rw [hlines, List.append_assoc, h, h', List.append_assoc]

theorem names_line {line : String} {names : List String}
    (h : ∀ rest, namedFiles (line.toList ++ '\n' :: rest) = names ++ namedFiles rest) :
    Names [line] names := by
  intro rest
  have hline : (unlines [line]).toList = line.toList ++ ['\n'] := by
    simp [unlines]
  rw [hline, List.append_assoc, List.singleton_append, h]

theorem names_of_lacks {lines : List String} (h : ∀ line ∈ lines, Lacks ['#', '!'] line) :
    Names lines [] := by
  induction lines with
  | nil => exact fun _ => rfl
  | cons line lines ih =>
    rw [List.forall_mem_cons] at h
    have hline : Names [line] [] :=
      names_line fun rest => namedFiles_line (h.1 _ (by decide)) (h.1 _ (by decide)) rest
    exact hline.append (ih h.2)

theorem names_flatMap {α : Type} {f g : α → List String} {xs : List α}
    (h : ∀ x ∈ xs, Names (f x) (g x)) : Names (xs.flatMap f) (xs.flatMap g) := by
  induction xs with
  | nil => exact fun _ => rfl
  | cons x xs ih =>
    rw [List.forall_mem_cons] at h
    rw [List.flatMap_cons, List.flatMap_cons]
    exact h.1.append (ih h.2)

theorem toList_pathLine (file : String) :
    (pathLine file).toList = pathStart ++ (file.toList ++ ['"', ']']) := by
  have hstart : "#[path = \"".toList = pathStart := rfl
  have hend : "\"]".toList = ['"', ']'] := String.toList_ofList
  unfold pathLine
  rw [String.toList_append, String.toList_append, hstart, hend, List.append_assoc]

theorem toList_includeLine (file : String) :
    ("    include!(\"" ++ file ++ "\");").toList =
      [' ', ' ', ' ', ' '] ++ (includeStart ++ (file.toList ++ ['"', ')', ';'])) := by
  have hstart : "    include!(\"".toList = [' ', ' ', ' ', ' '] ++ includeStart := by
    unfold includeStart
    rw [String.toList_ofList, String.toList_ofList]
    rfl
  have hend : "\");".toList = ['"', ')', ';'] := String.toList_ofList
  rw [String.toList_append, String.toList_append, hstart, hend, List.append_assoc,
    List.append_assoc]

section Mentions
variable {file : String} (h : Lacks ['#', '!', '"'] file)
include h

theorem names_pathLine : Names [pathLine file] [file] := by
  refine names_line fun rest => ?_
  have hstart : Lacks ['#', '!'] "[path = \"" := lacks_ofList rfl
  have hbehind : ∀ c ∈ ['#', '!'], c ∉ "[path = \"".toList ++ (file.toList ++ ['"', ']']) := by
    intro c hc
    rw [List.mem_append, List.mem_append, not_or, not_or]
    exact ⟨hstart c hc, h c (List.mem_append_left ['"'] hc), Text.not_mem_of_all rfl c hc⟩
  have hline : (pathLine file).toList ++ '\n' :: rest =
      '#' :: ("[path = \"".toList ++ (file.toList ++ ['"', ']']) ++ '\n' :: rest) := by
    rw [toList_pathLine, pathStart_eq, List.cons_append, List.cons_append]
  have hnamed : namedFile? ((pathLine file).toList ++ '\n' :: rest) = some file := by
    rw [toList_pathLine, List.append_assoc, List.append_assoc, List.cons_append, namedFile?,
      nameBehind?_append _ (h _ (by decide)), String.ofList_toList]
    rfl
  rw [hline] at hnamed ⊢
  rw [namedFiles, hnamed, namedFiles_line (hbehind _ (by decide)) (hbehind _ (by decide))]
  rfl

theorem names_includeLine : Names ["    include!(\"" ++ file ++ "\");"] [file] := by
  refine names_line fun rest => ?_
  have hbehind : ∀ c ∈ ['#', '!'], c ∉ file.toList ++ ['"', ')', ';'] := by
    intro c hc
    rw [List.mem_append, not_or]
    exact ⟨h c (List.mem_append_left ['"'] hc), Text.not_mem_of_all rfl c hc⟩
  have hnamed : namedFile? (includeStart ++ (file.toList ++ ['"', ')', ';'] ++ '\n' :: rest)) =
      some file := by
    have hpath (cs : List Char) : nameBehind? pathStart (includeStart ++ cs) = none := by
      rw [pathStart_eq, includeStart_eq, List.cons_append, nameBehind?_cons (by decide)]
    rw [namedFile?, hpath, List.append_assoc, List.cons_append,
      nameBehind?_append _ (h _ (by decide)), String.ofList_toList]
    rfl
  have hskip (cs : List Char) : namedFiles ("nclude!(\"".toList ++ cs) = namedFiles cs := by
    rw [String.toList_ofList]
    exact namedFiles_skip rfl cs
  rw [toList_includeLine, List.append_assoc, List.append_assoc, namedFiles_skip rfl]
  rw [includeStart_eq, List.cons_append] at hnamed ⊢
  rw [namedFiles, hnamed, hskip, namedFiles_line (hbehind _ (by decide)) (hbehind _ (by decide))]
  rfl

end Mentions

theorem lacks_moduleLine {name : String} (h : Lacks ['#', '!'] name) :
    Lacks ['#', '!'] (moduleLine name) :=
  (lacks_ofList rfl).around h (lacks_ofList rfl)

/-- An attribute of the crate as a whole is not that of a module. -/
theorem names_attributeLine {cs : List Char} {s : String}
    (hcs : cs.all fun c => c != '#' && c != '!') (hs : Lacks ['#', '!'] s) :
    Names [String.ofList ('#' :: '!' :: cs) ++ s] [] := by
  refine names_line fun rest => ?_
  have hnone (behind : List Char) : namedFile? ('#' :: '!' :: behind) = none := by
    have hstart : pathStart = '#' :: '[' :: "path = \"".toList :=
      pathStart_eq.trans (congrArg _ (toList_cons _ _))
    have hpath : nameBehind? pathStart ('#' :: '!' :: behind) = none := by
      rw [hstart, nameBehind?, Text.after?, if_pos rfl, Text.after?, if_neg (by decide)]
      rfl
    have hinclude : nameBehind? includeStart ('#' :: '!' :: behind) = none := by
      rw [includeStart_eq, nameBehind?_cons (by decide)]
    rw [namedFile?, hpath, hinclude]
    rfl
  have hbehind : '#' ∉ cs ++ s.toList ∧ '!' ∉ cs ++ s.toList := by
    simp only [List.all_eq_true, Bool.and_eq_true, bne_iff_ne] at hcs
    simp only [List.mem_append, not_or]
    exact ⟨⟨fun hmem => (hcs _ hmem).1 rfl, hs _ (by decide)⟩,
      fun hmem => (hcs _ hmem).2 rfl, hs _ (by decide)⟩
  rw [toList_append, List.cons_append, List.cons_append, List.cons_append, List.cons_append,
    namedFiles, hnone]
  exact (namedFiles_skip (s := ['!']) rfl _).trans (namedFiles_line hbehind.1 hbehind.2 rest)

theorem names_headLines : Names headLines [stubFile, ambientFile] := by
  have hempty : Names [""] [] :=
    names_of_lacks (List.forall_mem_singleton.mpr (lacks_ofList rfl))
  have hmodule {name : String} (h : Lacks ['#', '!'] name) : Names [moduleLine name] [] :=
    names_of_lacks (List.forall_mem_singleton.mpr (lacks_moduleLine h))
  have hstub : Names [pathLine stubFile] [stubFile] := names_pathLine (lacks_ofList rfl)
  have hambient : Names [pathLine ambientFile] [ambientFile] := names_pathLine (lacks_ofList rfl)
  refine (names_attributeLine rfl (lacks_ofList rfl)).append (hempty.append (hstub.append ?_))
  exact (hmodule (lacks_ofList rfl)).append
    (hambient.append ((hmodule (lacks_ofList rfl)).append hempty))

theorem names_referenceLines {r : Reference} (h : IsDeclarable r.name) :
    Names (referenceLines r) ((sourceName? r).toList.map referenceFile) := by
  cases r with
  | external name path => exact fun _ => rfl
  | source name text =>
    have hfile : Lacks ['#', '!', '"'] (referenceFile name) :=
      (lacks_ofList rfl).around (lacks_of_declarable rfl h) (lacks_ofList rfl)
    have hmodule := lacks_moduleLine (lacks_of_declarable rfl h)
    exact (names_pathLine hfile).append (names_of_lacks (List.forall_mem_singleton.mpr hmodule))

theorem names_sourceLines {s : Source} (h : ∀ name ∈ s.renderables, IsDeclarable name)
    (index : ℕ) : Names (sourceLines s index) [templateFile index] := by
  have hfile : Lacks ['#', '!', '"'] (templateFile index) :=
    (lacks_ofList rfl).around (lacks_number rfl index) (lacks_ofList rfl)
  have hopen : Lacks ['#', '!'] ("pub mod " ++ templateModule index ++ " \x7b") :=
    (lacks_ofList rfl).around (lacks_templateModule rfl index) (lacks_ofList rfl)
  have hfallback : ∀ line ∈ s.renderables.map fallbackLine, Lacks ['#', '!'] line := by
    rw [List.forall_mem_map]
    exact fun name hname =>
      (lacks_ofList rfl).around (lacks_of_declarable rfl (h name hname)) (lacks_ofList rfl)
  have hfirst : Names ["pub mod " ++ templateModule index ++ " \x7b",
      "    use super::__rendergen_ambient::*;",
      "    pub use self::__rendergen_fallback::*;",
      "    mod __rendergen_fallback \x7b"] [] := by
    refine names_of_lacks ?_
    simp only [List.forall_mem_cons, List.not_mem_nil, false_imp_iff, implies_true, and_true]
    exact ⟨hopen, lacks_ofList rfl, lacks_ofList rfl, lacks_ofList rfl⟩
  have hclose : Names ["    \x7d"] [] :=
    names_of_lacks (List.forall_mem_singleton.mpr (lacks_ofList rfl))
  have hlast : Names ["\x7d"] [] :=
    names_of_lacks (List.forall_mem_singleton.mpr (lacks_ofList rfl))
  exact (hfirst.append (names_of_lacks hfallback)).append
    (hclose.append ((names_includeLine hfile).append hlast))

section Accepted
variable {sources : List Source} {references : List Reference}
  (h : validate sources references = [])
include h

theorem names_entryLines : Names (forSources entryLines sources) [] := by
  refine names_of_lacks (forall_mem_entryLines h fun index name hname => ?_)
  have hname' : Lacks ['#', '!'] name := lacks_of_declarable rfl hname
  have htype : Lacks ['#', '!'] (templateModule index ++ "::" ++ name) :=
    lacks_typeName rfl (by decide) hname index
  exact (((lacks_ofList rfl).around hname' (lacks_ofList rfl)).around htype
    (lacks_ofList rfl)).around htype (lacks_ofList rfl)

/-- The root names all other files in the order in which they are written, and no others. -/
theorem namedFiles_root :
    (files sources references).map Prod.fst =
      namedFiles (root sources references).toList ++ [rootFile] := by
  have hdeclarable := ((validate_eq_nil_iff sources references).mp h).1
  have hreferences : Names (references.flatMap referenceLines)
      ((references.filterMap sourceName?).map referenceFile) := by
    rw [← flatMap_sourceName?]
    exact names_flatMap fun r hr => names_referenceLines (hdeclarable r hr)
  have hsources : Names (forSources sourceLines sources)
      ((List.range sources.length).map templateFile) := by
    rw [← map_templateFile, List.map_eq_flatMap]
    exact names_flatMap fun s hs => names_sourceLines (isDeclarable_of_mem h hs) s.2
  have hempty : Names [""] [] :=
    names_of_lacks (List.forall_mem_singleton.mpr (lacks_ofList rfl))
  have hstatic : Names
      ["", "pub static __RENDERGEN_MANIFEST: &[__rendergen_runtime::ManifestEntry] = &["] [] := by
    refine names_of_lacks (List.forall_mem_cons.mpr ⟨lacks_ofList rfl, ?_⟩)
    exact List.forall_mem_singleton.mpr (lacks_ofList rfl)
  have hend : Names ["];"] [] :=
    names_of_lacks (List.forall_mem_singleton.mpr (lacks_ofList rfl))
  have hroot := (((((names_headLines.append hreferences).append hempty).append hsources).append
    hstatic).append (names_entryLines h)).append hend
  have hall := hroot []
  simp only [List.append_nil, namedFiles] at hall
  rw [names_files, root]
  exact congrArg (· ++ [rootFile]) hall.symm

end Accepted

/-- The text that the file of a crate is meant to have. -/
inductive MeantFor (sources : List Source) (references : List Reference) : String → String → Prop
  | stub : MeantFor sources references stubFile stubText
  | ambient : MeantFor sources references ambientFile (ambient references)
  | reference {name text} (h : .source name text ∈ references) :
      MeantFor sources references (referenceFile name) text
  | template {index s} (h : sources[index]? = some s) :
      MeantFor sources references (templateFile index) s.text
  | root : MeantFor sources references rootFile (root sources references)

theorem mem_files_of_meantFor {sources : List Source} {references : List Reference}
    {name text : String} (h : MeantFor sources references name text) :
    (name, text) ∈ files sources references := by
  cases h with
  | stub =>
    rw [files, List.append_assoc, List.append_assoc]
    exact List.mem_append_left _ List.mem_cons_self
  | ambient =>
    rw [files, List.append_assoc, List.append_assoc]
    exact List.mem_append_left _ (List.mem_cons_of_mem _ List.mem_cons_self)
  | @reference name text h =>
    have hmem : (referenceFile name, text) ∈ references.flatMap referenceFiles :=
      List.mem_flatMap.mpr ⟨_, h, List.mem_cons_self⟩
    exact List.mem_append_left _ (List.mem_append_left _ (List.mem_append_right _ hmem))
  | @template index s h =>
    have hindex : (s, index) ∈ sources.zipIdx := List.mem_zipIdx_iff_getElem?.mpr h
    have hmem := List.mem_map_of_mem (f := fun s => (templateFile s.2, s.1.text)) hindex
    exact List.mem_append_left _ (List.mem_append_right _ hmem)
  | root => exact List.mem_append_right _ List.mem_cons_self

end Crate

namespace ModuleCompiler

open Crate (MeantFor)

/-- The directory holds files under these names and with these texts, and nothing else. -/
structure HoldsExactly (t : FileTree) (l : Location) (files : List (String × String)) : Prop where
  held : ∀ f ∈ files, ∃ mode, t.node? (f.1 :: l) = some (.file (Text.Utf8.encode f.2) mode)
  nothingElse : ∀ name n, t.node? (name :: l) = some n → name ∈ files.map Prod.fst

theorem writeFiles_eq (m : Machine) (directory : Path) (files : List (String × String)) :
    writeFiles m directory files = files.forM fun f => Work.changing .system fun t =>
      t.write m.directory (directory.join f.1) (Text.Utf8.encode f.2) := by
  induction files with
  | nil => rfl
  | cons f files ih =>
    rw [writeFiles, ih]
    rfl

section Prepared
variable {m : Machine} {c : ModuleCompiler} {sources : List Source} {references : List Reference}
  {w w₁ w' : World} {directory : Path} {r : Run}

/-- Files with names of their own are all in the scratch directory when they have been written. -/
theorem holds_of_prepare (hconnected : w.tree.Connected)
    (hvalid : Crate.validate sources references = [])
    (h : (prepare m sources references).Gives w directory w₁) :
    ∃ l, FileTree.Scratch m.directory directory l w.tree w₁.tree ∧
      HoldsExactly w₁.tree l (Crate.files sources references) := by
  obtain ⟨k, t, hdirectory, hmake, hwrite⟩ := exists_of_prepare h
  have hend : FileTree.endsInSeparator directory = false := by
    rw [hdirectory, Path.not_endsInSeparator_join m.temporary (isName_scratch k)]
  obtain ⟨l, hscratch⟩ := FileTree.scratch_of_makeDirectory hconnected hend hmake
  have hnodup := (List.nodup_append.mp (Crate.nodup_files hvalid)).1
  rw [writeFiles_eq] at hwrite
  obtain ⟨_, hheld, hkept⟩ := Work.writes_stand Prod.fst (fun f => Text.Utf8.encode f.2)
    (fun _ _ _ => Work.gives_changing.mp) hscratch.directoryAt hscratch.noLink
    (Crate.isName_files hvalid) hnodup hwrite
  have hplace (l' : Location) : w₁.tree.node? l' = t.node? l' ∨
      ∃ f ∈ Crate.files sources references, l' = f.1 :: l := by
    by_cases hwritten : ∃ f ∈ Crate.files sources references, l' = f.1 :: l
    · exact Or.inr hwritten
    · exact Or.inl (hkept l' fun f hf hl' => hwritten ⟨f, hf, hl'⟩)
  refine ⟨l, hscratch.of_files fun l' => ?_, fun f hf => (hheld f hf).2, fun name n hnode => ?_⟩
  · rcases hplace l' with hsame | ⟨f, hf, rfl⟩
    · exact Or.inl hsame
    · obtain ⟨_, mode, hmode⟩ := hheld f hf
      exact Or.inr ⟨_, _, mode, rfl, hmode⟩
  · rcases hplace (name :: l) with hsame | ⟨f, hf, hname⟩
    · rw [hsame, hscratch.node?_eq_none hmake] at hnode
      cases hnode
    · rw [(List.cons.inj hname).1]
      exact List.mem_map_of_mem hf

theorem RanIn.holdsExactly (hconnected : w.tree.Connected)
    (hvalid : Crate.validate sources references = [])
    (h : RanIn m c sources references w directory r w') :
    HoldsExactly r.before r.invocation.directory (Crate.files sources references) := by
  obtain ⟨w₁, hprepare, hbefore⟩ := h.prepared
  obtain ⟨l, hscratch, hholds⟩ := holds_of_prepare hconnected hvalid hprepare
  rw [← hbefore] at hscratch hholds
  rwa [h.directory_eq hscratch]

end Prepared

/-- The files that are written for accepted input are the stub, the ambient imports, one for each
reference that comes as source, one for each source, and the root. Their names and that of the
module are names of files and all different. The root names files that are written and no others,
and each of them once, except for itself. When the compiler starts, each file of the crate is in its
directory with the text that is meant for it, and nothing else is there. -/
theorem scratch_crate_closed {sources : List Source} {references : List Reference}
    (h : Crate.validate sources references = []) :
    let written := (Crate.files sources references).map Prod.fst
    let named := Crate.namedFiles (Crate.root sources references).toList
    written = ["rendergen_runtime.rs", "rendergen_ambient.rs"] ++
      (references.filterMap Crate.sourceName?).map (fun name => "ref_" ++ name ++ ".rs") ++
      (List.range sources.length).map (fun index => "template_" ++ toString index ++ ".rs") ++
      ["lib.rs"] ∧
    (∀ name ∈ written ++ [Crate.outputFile], Path.IsName name) ∧
    (written ++ [Crate.outputFile]).Nodup ∧
    (∀ name ∈ named, name ∈ written) ∧
    (∀ name ∈ written, named.count name = if name = "lib.rs" then 0 else 1) ∧
    ∀ (m : Machine) (c : ModuleCompiler) (extra : List Reference) (w : World),
      c.baseline ++ extra = references → w.tree.Connected →
      World.Ran (fun r =>
        (∀ name text, MeantFor sources references name text →
          ∃ mode, r.before.node? (name :: r.invocation.directory) =
            some (.file (Text.Utf8.encode text) mode)) ∧
        ∀ name n, r.before.node? (name :: r.invocation.directory) = some n → name ∈ written)
        w (c.compile m sources extra w).2 := by
  intro written named
  have hnamed : written = named ++ [Crate.rootFile] := Crate.namedFiles_root h
  have hnodup := Crate.nodup_files h
  refine ⟨Crate.names_files sources references, ?_, hnodup, ?_, ?_, ?_⟩
  · rw [List.forall_mem_append, List.forall_mem_map, List.forall_mem_singleton]
    exact ⟨Crate.isName_files h, Crate.isName_outputFile⟩
  · intro name hname
    rw [hnamed]
    exact List.mem_append_left _ hname
  · have hwritten := (List.nodup_append.mp hnodup).1
    change written.Nodup at hwritten
    rw [hnamed] at hwritten
    obtain ⟨hnodupNamed, _, hdiffer⟩ := List.nodup_append.mp hwritten
    intro name hname
    rw [hnamed, List.mem_append, List.mem_singleton] at hname
    split_ifs with hroot
    · refine List.count_eq_zero.mpr fun hmem => ?_
      exact hdiffer name hmem Crate.rootFile List.mem_cons_self hroot
    · exact List.count_eq_one_of_mem hnodupNamed (hname.resolve_right hroot)
  · rintro m c extra w rfl hconnected
    refine ran_of_ranIn fun _ hvalid directory r w' hran => ?_
    have hholds := hran.holdsExactly hconnected hvalid
    exact ⟨fun name text hmeant => hholds.held _ (Crate.mem_files_of_meantFor hmeant),
      hholds.nothingElse⟩

namespace CrateSample

def sources : List Source := [⟨"a.rtpl", "x", ["A"]⟩]

def sourceReferences : List Reference := [.source "text" "z"]

end CrateSample

open CrateSample in
theorem scratch_crate_closed_sample :
    Crate.validate sources sourceReferences = [] ∧
    compiler.baseline ++ sourceReferences = sourceReferences ∧ world.tree.Connected ∧
    "template_0.rs" ∈ (Crate.files sources sourceReferences).map Prod.fst ∧
    (Crate.namedFiles (Crate.root sources sourceReferences).toList).count "template_0.rs" = 1 ∧
    (compiler.compile machine sources sourceReferences world).2.history.length = 1 ∧
    World.Ran (fun r => ∃ mode, r.before.node? ("template_0.rs" :: r.invocation.directory) =
      some (.file (Text.Utf8.encode "x") mode))
      world (compiler.compile machine sources sourceReferences world).2 := by
  have hvalid : Crate.validate sources sourceReferences = [] := by decide +kernel
  obtain ⟨hwritten, _, _, _, hcount, hrun⟩ := scratch_crate_closed hvalid
  have hmem : "template_0.rs" ∈ (Crate.files sources sourceReferences).map Prod.fst := by
    decide +kernel
  have hran := hrun machine compiler sourceReferences world rfl connected_world
  refine ⟨hvalid, rfl, connected_world, hmem, hcount _ hmem, by decide +kernel,
    hran.mono fun r hr => ?_⟩
  have hmeant : MeantFor sources sourceReferences (Crate.templateFile 0) "x" :=
    .template (s := ⟨"a.rtpl", "x", ["A"]⟩) rfl
  exact hr.1 _ _ hmeant

end ModuleCompiler
end TemplateBatch
