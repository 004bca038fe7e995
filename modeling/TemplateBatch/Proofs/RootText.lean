import TemplateBatch.Proofs.NameChecks
import TemplateBatch.Text.Lines

/-!
What the text of the root says. Accepted names are made of characters that no other part of a line
depends on, so each line of the root can be read back. The lines that begin an entry of the manifest
tell the renderables in order, each with the types that its entry uses, and the lines in front of
them tell the references that become modules and the renderables of each source.
-/
namespace TemplateBatch

namespace Text

/-- None of the characters is in the text. -/
def Lacks (cs : List Char) (s : String) : Prop := ∀ c ∈ cs, c ∉ s.toList

/-- A text that is given by its characters can be checked one by one. -/
theorem lacks_ofList {cs chars : List Char} (h : chars.all fun c => !cs.contains c) :
    Lacks cs (String.ofList chars) := by
  intro c hc
  rw [String.toList_ofList]
  exact not_mem_of_all h c hc

theorem lacks_number {cs : List Char} (h : cs.all fun c => !c.isDigit) (k : ℕ) :
    Lacks cs (toString k) := by
  intro c hc hmem
  have hother := List.all_eq_true.mp h c hc
  rw [isDigit_of_mem_number hmem] at hother
  cases hother

section Lacks
variable {cs cs' : List Char} {s s' s'' : String}

theorem Lacks.append (h : Lacks cs s) (h' : Lacks cs s') : Lacks cs (s ++ s') := by
  intro c hc
  rw [String.toList_append, List.mem_append, not_or]
  exact ⟨h c hc, h' c hc⟩

theorem Lacks.around (h : Lacks cs s) (h' : Lacks cs s') (h'' : Lacks cs s'') :
    Lacks cs (s ++ s' ++ s'') :=
  (h.append h').append h''

theorem Lacks.of_subset (h : Lacks cs s) (hsubset : cs' ⊆ cs) : Lacks cs' s :=
  fun c hc => h c (hsubset hc)

end Lacks

theorem toList_unlines_cons (line : String) (ls : List String) :
    (Crate.unlines (line :: ls)).toList = line.toList ++ '\n' :: (Crate.unlines ls).toList := by
  simp [Crate.unlines]

/-- Lines with a line feed between neighbours and one at the end are whole lines. -/
theorem toList_join_feed {ls : List String} (h : ls ≠ []) :
    (join "\n" ls).toList ++ ['\n'] = (Crate.unlines ls).toList := by
  have hfeed : "\n".toList = ['\n'] := String.toList_ofList
  rw [join, String.toList_ofList, hfeed]
  induction ls with
  | nil => exact absurd rfl h
  | cons line ls ih =>
    rw [toList_unlines_cons]
    cases ls with
    | nil => rfl
    | cons next ls =>
      rw [← ih (List.cons_ne_nil next ls), List.map_cons, List.map_cons,
        joinChars_cons _ _ (List.cons_ne_nil _ _), List.append_assoc, List.append_assoc,
        List.singleton_append]

theorem lines_unlines {ls : List String} (h : ∀ line ∈ ls, Lacks ['\n', '\r'] line) :
    lines (Crate.unlines ls).toList = ls.map String.toList := by
  induction ls with
  | nil => rfl
  | cons line ls ih =>
    rw [List.forall_mem_cons] at h
    have hfeed : '\n' ∉ line.toList := h.1 _ (by decide)
    have hreturn : '\r' ∉ line.toList := h.1 _ (by decide)
    rw [toList_unlines_cons, lines_append hfeed, closeLine_reverse _ hreturn, ih h.2]
    rfl

theorem toList_append (cs : List Char) (s : String) :
    (String.ofList cs ++ s).toList = cs ++ s.toList := by
  rw [String.toList_append, String.toList_ofList]

/-- A beginning that is within a line is not there when one of its characters is not. -/
theorem after?_line {start line : List Char} {c : Char} (hc : c ∈ start) (hfeed : '\n' ∉ start)
    (hline : c ∉ line) (rest : List Char) : after? start (line ++ '\n' :: rest) = none := by
  by_contra hsome
  obtain ⟨behind, hbehind⟩ := Option.ne_none_iff_exists'.mp hsome
  rcases List.append_eq_append_iff.mp (eq_of_after? hbehind) with
    ⟨between, hstart, hrest⟩ | ⟨between, hstart, _⟩
  · cases between with
    | nil =>
      rw [List.append_nil] at hstart
      exact hline (hstart ▸ hc)
    | cons d between =>
      rw [List.cons_append, List.cons.injEq] at hrest
      rw [hstart, ← hrest.1] at hfeed
      exact hfeed (List.mem_append_right _ List.mem_cons_self)
  · exact hline (hstart ▸ List.mem_append_left _ hc)

end Text

namespace Crate

open Identifier (IsDeclarable)
open Text (Lacks lacks_ofList lacks_number toList_cons toList_append)

theorem isDeclarable_templateModule (index : ℕ) : IsDeclarable (templateModule index) := by
  have hchars : (templateModule index).toList =
      '_' :: '_' :: ("template_".toList ++ (toString index).toList) := by
    rw [templateModule, toList_append, String.toList_ofList]
    rfl
  constructor
  · rw [hchars]
    refine Identifier.isSegment_cons (by decide) fun c hc => ?_
    rw [List.mem_cons, List.mem_append] at hc
    rcases hc with rfl | hc | hc
    · decide
    · have hletters : "template_".toList.all Identifier.continuesName = true := by
        rw [String.toList_ofList]
        rfl
      exact List.all_eq_true.mp hletters c hc
    · exact Identifier.continuesName_of_isDigit (Text.isDigit_of_mem_number hc)
  · intro h
    rw [h, String.toList_ofList] at hchars
    cases hchars

section Names
variable {cs : List Char} {name : String} (hcs : cs.all fun c => !Identifier.continuesName c)
include hcs

theorem lacks_of_declarable (h : IsDeclarable name) : Lacks cs name := by
  intro c hc
  have hother := List.all_eq_true.mp hcs c hc
  rw [Bool.not_eq_true'] at hother
  exact h.isSegment.not_mem hother

theorem lacks_templateModule (index : ℕ) : Lacks cs (templateModule index) :=
  lacks_of_declarable hcs (isDeclarable_templateModule index)

theorem lacks_typeName (hcolon : ':' ∉ cs) (h : IsDeclarable name) (index : ℕ) :
    Lacks cs (templateModule index ++ "::" ++ name) := by
  refine (lacks_templateModule hcs index).around (lacks_ofList ?_) (lacks_of_declarable hcs h)
  simpa using hcolon

end Names

/-- The lines in front of the entries of the manifest. -/
def frontLines (sources : List Source) (references : List Reference) : List String :=
  headLines ++ references.flatMap referenceLines ++ [""] ++ forSources sourceLines sources
  ++ ["", "pub static __RENDERGEN_MANIFEST: &[__rendergen_runtime::ManifestEntry] = &["]

theorem rootLines_eq (sources : List Source) (references : List Reference) :
    rootLines sources references =
      frontLines sources references ++ forSources entryLines sources ++ ["];"] :=
  rfl

/-- The line is one line and begins no entry: it has no brace, or at least no capital letter that
the name of the type of entries begins with. -/
def IsPlain (line : String) : Prop :=
  Lacks ['\n', '\r', '\x7b'] line ∨ Lacks ['\n', '\r', 'M'] line

theorem isPlain_referenceLines {r : Reference} (h : IsDeclarable r.name) :
    ∀ line ∈ referenceLines r, IsPlain line := by
  cases r with
  | external name path => exact fun _ hline => absurd hline List.not_mem_nil
  | source name text =>
    have hname : Lacks ['\n', '\r', '\x7b'] name := lacks_of_declarable rfl h
    have hfile : Lacks ['\n', '\r', '\x7b'] (referenceFile name) :=
      (lacks_ofList rfl).around hname (lacks_ofList rfl)
    simp only [referenceLines, List.mem_cons, List.not_mem_nil, or_false, forall_eq_or_imp,
      forall_eq]
    exact ⟨Or.inl ((lacks_ofList rfl).around hfile (lacks_ofList rfl)),
      Or.inl ((lacks_ofList rfl).around hname (lacks_ofList rfl))⟩

theorem isPlain_sourceLines {s : Source} (h : ∀ name ∈ s.renderables, IsDeclarable name)
    (index : ℕ) : ∀ line ∈ sourceLines s index, IsPlain line := by
  have hnumber : Lacks ['\n', '\r', '\x7b'] (toString index) := lacks_number rfl index
  have hfile : Lacks ['\n', '\r', '\x7b'] (templateFile index) :=
    (lacks_ofList rfl).around hnumber (lacks_ofList rfl)
  have hmodule : Lacks ['\n', '\r', 'M'] (templateModule index) :=
    (lacks_ofList rfl).append (lacks_number rfl index)
  simp only [sourceLines, List.forall_mem_append, List.forall_mem_map, List.mem_cons,
    List.not_mem_nil, or_false, forall_eq_or_imp, forall_eq]
  refine ⟨⟨⟨?_, ?_, ?_, ?_⟩, ?_⟩, ?_, ?_, ?_⟩
  · exact Or.inr ((lacks_ofList rfl).around hmodule (lacks_ofList rfl))
  · exact Or.inl (lacks_ofList rfl)
  · exact Or.inl (lacks_ofList rfl)
  · exact Or.inr (lacks_ofList rfl)
  · intro name hname
    have hname : Lacks ['\n', '\r', '\x7b'] name :=
      lacks_of_declarable rfl (h name hname)
    exact Or.inl ((lacks_ofList rfl).around hname (lacks_ofList rfl))
  · exact Or.inl (lacks_ofList rfl)
  · exact Or.inl ((lacks_ofList rfl).around hfile (lacks_ofList rfl))
  · exact Or.inl (lacks_ofList rfl)

theorem isPlain_headLines : ∀ line ∈ headLines, IsPlain line := by
  have hempty : IsPlain "" := Or.inl (lacks_ofList rfl)
  simp only [headLines, List.forall_mem_cons]
  refine ⟨Or.inl ((lacks_ofList rfl).append (lacks_ofList rfl)), hempty, ?_, ?_, ?_, ?_, hempty,
    by simp⟩
  all_goals exact Or.inl ((lacks_ofList rfl).around (lacks_ofList rfl) (lacks_ofList rfl))

section Accepted
variable {sources : List Source} {references : List Reference}
  (h : validate sources references = [])
include h

theorem isDeclarable_of_mem {s : Source × ℕ} (hs : s ∈ sources.zipIdx) :
    ∀ name ∈ s.1.renderables, IsDeclarable name :=
  ((validate_eq_nil_iff sources references).mp h).2.2.1 s.1 (List.fst_mem_of_mem_zipIdx hs)

theorem isPlain_frontLines : ∀ line ∈ frontLines sources references, IsPlain line := by
  have hreferences := ((validate_eq_nil_iff sources references).mp h).1
  have hempty : IsPlain "" := Or.inl (lacks_ofList rfl)
  simp only [frontLines, forSources, List.forall_mem_append, List.forall_mem_flatMap, List.mem_cons,
    List.not_mem_nil, or_false, forall_eq_or_imp, forall_eq]
  refine ⟨⟨⟨⟨isPlain_headLines, ?_⟩, hempty⟩, ?_⟩, hempty, Or.inl (lacks_ofList rfl)⟩
  · exact fun r hr => isPlain_referenceLines (hreferences r hr)
  · exact fun s hs => isPlain_sourceLines (isDeclarable_of_mem h hs) s.2

theorem forall_mem_entryLines {P : String → Prop}
    (hentry : ∀ index name, IsDeclarable name → P (entryLine index name)) :
    ∀ line ∈ forSources entryLines sources, P line := by
  simp only [forSources, entryLines, List.forall_mem_flatMap, List.forall_mem_map]
  exact fun s hs name hname => hentry s.2 name (isDeclarable_of_mem h hs name hname)

theorem lines_root : Text.lines (root sources references).toList =
    (rootLines sources references).map String.toList := by
  refine Text.lines_unlines ?_
  rw [rootLines_eq, List.forall_mem_append, List.forall_mem_append]
  refine ⟨⟨fun line hline => ?_, forall_mem_entryLines h fun index name hname => ?_⟩, ?_⟩
  · rcases isPlain_frontLines h line hline with hplain | hplain
    · exact hplain.of_subset (by decide)
    · exact hplain.of_subset (by decide)
  · have hline : Lacks ['\n', '\r'] name := lacks_of_declarable rfl hname
    have htype : Lacks ['\n', '\r'] (templateModule index ++ "::" ++ name) :=
      lacks_typeName rfl (by decide) hname index
    exact (((lacks_ofList rfl).around hline (lacks_ofList rfl)).around htype
      (lacks_ofList rfl)).around htype (lacks_ofList rfl)
  · rw [List.forall_mem_singleton]
    exact lacks_ofList rfl

end Accepted

/-- Somewhere on the line begins an entry of the manifest. -/
def BeginsEntry (line : List Char) : Prop := "ManifestEntry \x7b".toList <:+: line

instance (line : List Char) : Decidable (BeginsEntry line) := inferInstanceAs (Decidable (_ <:+: _))

/-- What an entry of the manifest is made of: its name and the types that tell whether there is
something to render and how to render it. -/
structure EntryText where
  name : String
  defined : String
  render : String
  deriving DecidableEq, Repr

/-- The text in front of `stop` and what is left behind `stop` and `ending`. -/
def readUntil? (stop : Char) (ending line : List Char) : Option (String × List Char) :=
  (Text.after? (stop :: ending) (line.dropWhile (· != stop))).map fun rest =>
    (String.ofList (line.takeWhile (· != stop)), rest)

/-- What stands in front of the name of an entry. -/
def beforeName : List Char := "    __rendergen_runtime::ManifestEntry \x7b name: \"".toList

/-- What stands between the quote behind the name and the first type. -/
def beforeDefined : List Char := ", defined: <".toList

/-- What stands between the blank behind the first type and the second one. -/
def beforeRender : List Char :=
  "as __rendergen_runtime::Template>::DEFINED, render: __rendergen_runtime::render::<".toList

/-- The parts of the entry that the line is made of, and of nothing else. -/
def readEntry? (line : List Char) : Option EntryText := do
  let line ← Text.after? beforeName line
  let (name, line) ← readUntil? '"' beforeDefined line
  let (defined, line) ← readUntil? ' ' beforeRender line
  let (render, line) ← readUntil? '>' " \x7d,".toList line
  if line = [] then some ⟨name, defined, render⟩ else none

theorem readUntil?_append (a : String) {stop : Char} (ending rest : List Char)
    (h : stop ∉ a.toList) :
    readUntil? stop ending (a.toList ++ stop :: (ending ++ rest)) = some (a, rest) := by
  rw [readUntil?, Text.dropWhile_ne_append h, Text.takeWhile_ne_append h, ← List.cons_append,
    Text.after?_append, Option.map_some, String.ofList_toList]

theorem toList_entryLine (index : ℕ) (name : String) :
    let type := (templateModule index ++ "::" ++ name).toList
    (entryLine index name).toList = beforeName ++ (name.toList ++ '"' :: (beforeDefined ++
      (type ++ ' ' :: (beforeRender ++ (type ++ '>' :: (" \x7d,".toList ++ [])))))) := by
  intro type
  have hstart : "    __rendergen_runtime::ManifestEntry \x7b name: \"".toList = beforeName := rfl
  have hdefined : "\", defined: <".toList = '"' :: beforeDefined := toList_cons _ _
  have hrender :
      " as __rendergen_runtime::Template>::DEFINED, render: __rendergen_runtime::render::<".toList =
        ' ' :: beforeRender :=
    toList_cons _ _
  have hend : "> \x7d,".toList = '>' :: " \x7d,".toList := toList_cons _ _
  unfold entryLine
  simp only [String.toList_append, hstart, hdefined, hrender, hend, List.append_assoc,
    List.cons_append, List.append_nil, type]

/-- The entry of a name that may be declared tells the name, and its type under the number of its
source both times. -/
theorem readEntry?_entryLine {name : String} (h : IsDeclarable name) (index : ℕ) :
    let type := templateModule index ++ "::" ++ name
    readEntry? (entryLine index name).toList = some ⟨name, type, type⟩ := by
  have hquote : '"' ∉ name.toList := h.isSegment.not_mem (by decide)
  have htype : Lacks [' ', '>'] (templateModule index ++ "::" ++ name) :=
    lacks_typeName rfl (by decide) h index
  have hblank := htype ' ' (by decide)
  have hangle := htype '>' (by decide)
  unfold readEntry?
  simp only [toList_entryLine, Text.after?_append, readUntil?_append _ _ _ hquote,
    readUntil?_append _ _ _ hblank, readUntil?_append _ _ _ hangle, Option.bind_eq_bind,
    Option.bind_some, if_true]

theorem not_beginsEntry {line : String} (h : IsPlain line) : ¬ BeginsEntry line.toList := by
  intro hbegins
  have hletter : 'M' ∈ "ManifestEntry \x7b".toList := by
    rw [String.toList_ofList]
    decide
  have hbrace : '\x7b' ∈ "ManifestEntry \x7b".toList := by
    rw [String.toList_ofList]
    decide
  rcases h with hlacks | hlacks
  · exact hlacks _ (by decide) (hbegins.subset hbrace)
  · exact hlacks _ (by decide) (hbegins.subset hletter)

theorem beginsEntry_entryLine (index : ℕ) (name : String) :
    BeginsEntry (entryLine index name).toList := by
  have hinfix {a b : List Char} (h : a <:+: b) :
      (String.ofList a).toList <:+: (String.ofList b).toList := by
    rwa [String.toList_ofList, String.toList_ofList]
  have hname : BeginsEntry beforeName := hinfix (by decide)
  rw [toList_entryLine]
  exact hname.trans (List.prefix_append _ _).isInfix

/-- The lines that begin an entry are those that were written for the entries. -/
theorem filter_beginsEntry {sources : List Source} {references : List Reference}
    (h : validate sources references = []) :
    (Text.lines (root sources references).toList).filter (fun line => BeginsEntry line) =
      (forSources entryLines sources).map String.toList := by
  have hplain {lines : List String} (hlines : ∀ line ∈ lines, IsPlain line) :
      (lines.map String.toList).filter (fun line => BeginsEntry line) = [] := by
    rw [List.filter_eq_nil_iff, List.forall_mem_map]
    exact fun line hline hbegins =>
      not_beginsEntry (hlines line hline) (of_decide_eq_true hbegins)
  have hentries : ((forSources entryLines sources).map String.toList).filter
      (fun line => BeginsEntry line) = (forSources entryLines sources).map String.toList := by
    rw [List.filter_eq_self, List.forall_mem_map]
    exact forall_mem_entryLines h fun index name _ =>
      decide_eq_true (beginsEntry_entryLine index name)
  have hend : ∀ line ∈ ["];"], IsPlain line :=
    List.forall_mem_singleton.mpr (Or.inl (lacks_ofList rfl))
  rw [lines_root h, rootLines_eq, List.map_append, List.map_append, List.filter_append,
    List.filter_append, hplain (isPlain_frontLines h), hentries, hplain hend, List.nil_append,
    List.append_nil]

/-- What a line in front of the entries tells. -/
inductive Mark where
  /-- A file becomes the module of this name. -/
  | file (name : String)
  /-- A template begins. -/
  | template
  /-- The template that began last declares this name. -/
  | renderable (name : String)
  deriving DecidableEq, Repr

/-- A module that ends its line is a file, and another one a template. -/
def readMark? (line : List Char) : Option Mark :=
  match Text.after? "pub mod ".toList line with
  | some rest =>
    if rest.getLast? = some ';' then some (.file (String.ofList rest.dropLast)) else some .template
  | none =>
    (Text.after? "        pub type ".toList line).map fun rest =>
      .renderable (String.ofList (rest.takeWhile (· != ' ')))

def mark? (line : String) : Option Mark := readMark? line.toList

/-- The name of a reference that becomes a file of the crate. -/
def sourceName? : Reference → Option String
  | .source name _ => some name
  | .external .. => none

def templateMarks (names : List (List String)) : List Mark :=
  names.flatMap fun names => .template :: names.map .renderable

/-- What the lines in front of the entries tell altogether. -/
def marks (sources : List Source) (references : List Reference) : List Mark :=
  ("__rendergen_runtime" :: "__rendergen_ambient" :: references.filterMap sourceName?).map .file ++
    templateMarks (sources.map Source.renderables)

theorem mark?_moduleLine (name : String) : mark? (moduleLine name) = some (.file name) := by
  have hend : ";".toList = [';'] := String.toList_ofList
  unfold mark? readMark? moduleLine
  rw [String.append_assoc, String.toList_append, Text.after?_append, String.toList_append, hend]
  simp

theorem mark?_pathLine (file : String) : mark? (pathLine file) = none := by
  unfold mark? pathLine
  rw [String.append_assoc, toList_append]
  rfl

theorem mark?_fallbackLine {name : String} (h : IsDeclarable name) :
    mark? (fallbackLine name) = some (.renderable name) := by
  have hblank : ' ' ∉ name.toList := h.isSegment.not_mem (by decide)
  have hnone (rest : List Char) :
      Text.after? "pub mod ".toList ("        pub type ".toList ++ rest) = none := by
    rw [String.toList_ofList, String.toList_ofList]
    rfl
  have hend : " = crate::__rendergen_runtime::Undefined;".toList =
      ' ' :: "= crate::__rendergen_runtime::Undefined;".toList :=
    toList_cons _ _
  unfold mark? readMark? fallbackLine
  rw [String.append_assoc, String.toList_append, hnone, Text.after?_append, String.toList_append,
    hend, Option.map_some, Text.takeWhile_ne_append hblank, String.ofList_toList]

theorem mark?_templateLine (index : ℕ) :
    mark? ("pub mod " ++ templateModule index ++ " \x7b") = some .template := by
  have hend : " \x7b".toList = [' ', '\x7b'] := String.toList_ofList
  unfold mark? readMark?
  rw [String.append_assoc, String.toList_append, Text.after?_append, String.toList_append, hend]
  simp

theorem mark?_includeLine (file : String) :
    mark? ("    include!(\"" ++ file ++ "\");") = none := by
  rw [mark?, String.append_assoc, toList_append]
  rfl

theorem mark?_entryLine (index : ℕ) (name : String) : mark? (entryLine index name) = none := by
  obtain ⟨rest, hrest⟩ : ∃ rest, beforeName = ' ' :: ' ' :: ' ' :: ' ' :: '_' :: rest :=
    ⟨_, String.toList_ofList⟩
  rw [mark?, toList_entryLine, hrest]
  rfl

theorem mark?_ofList {cs : List Char} (h : readMark? cs = none) :
    mark? (String.ofList cs) = none := by
  rwa [mark?, String.toList_ofList]

theorem filterMap_referenceLines (references : List Reference) :
    (references.flatMap referenceLines).filterMap mark? =
      (references.filterMap sourceName?).map .file := by
  induction references with
  | nil => rfl
  | cons r references ih =>
    rw [List.flatMap_cons, List.filterMap_append, ih]
    cases r with
    | external name path => rfl
    | source name text =>
      simp [referenceLines, mark?_pathLine, mark?_moduleLine, sourceName?]

theorem filterMap_headLines : headLines.filterMap mark? =
    [.file "__rendergen_runtime", .file "__rendergen_ambient"] := by
  have hallow : mark?
      ("#![allow(dead_code, unused_imports, unused_variables, unused_mut, non_snake_case, " ++
        "non_camel_case_types, non_upper_case_globals)]") = none := by
    rw [mark?, toList_append]
    rfl
  have hempty : mark? "" = none := mark?_ofList rfl
  rw [headLines, List.filterMap_cons_none hallow, List.filterMap_cons_none hempty,
    List.filterMap_cons_none (mark?_pathLine _), List.filterMap_cons_some (mark?_moduleLine _),
    List.filterMap_cons_none (mark?_pathLine _), List.filterMap_cons_some (mark?_moduleLine _),
    List.filterMap_cons_none hempty, List.filterMap_nil]

theorem filterMap_sourceLines {s : Source} (h : ∀ name ∈ s.renderables, IsDeclarable name)
    (index : ℕ) :
    (sourceLines s index).filterMap mark? = .template :: s.renderables.map .renderable := by
  have hrenderables : (s.renderables.map fallbackLine).filterMap mark? =
      s.renderables.map .renderable := by
    rw [List.filterMap_map, ← List.filterMap_eq_map]
    exact List.filterMap_congr fun name hname => mark?_fallbackLine (h name hname)
  have himport : mark? "    use super::__rendergen_ambient::*;" = none := mark?_ofList rfl
  have hfallback : mark? "    pub use self::__rendergen_fallback::*;" = none := mark?_ofList rfl
  have hopen : mark? "    mod __rendergen_fallback \x7b" = none := mark?_ofList rfl
  have hclose : mark? "    \x7d" = none := mark?_ofList rfl
  have hend : mark? "\x7d" = none := mark?_ofList rfl
  rw [sourceLines, List.filterMap_append, List.filterMap_append, hrenderables]
  simp only [List.filterMap_cons, mark?_templateLine, mark?_includeLine, himport, hfallback,
    hopen, hclose, hend, List.filterMap_nil, List.append_nil, List.singleton_append]

section Accepted
variable {sources : List Source} {references : List Reference}
  (h : validate sources references = [])
include h

theorem filterMap_frontLines :
    (frontLines sources references).filterMap mark? = marks sources references := by
  have hsources : (forSources sourceLines sources).filterMap mark? =
      templateMarks (sources.map Source.renderables) := by
    rw [forSources, List.filterMap_flatMap, templateMarks, List.flatMap_map]
    conv_rhs => rw [← List.zipIdx_map_fst 0 sources, List.flatMap_map]
    exact List.flatMap_congr fun s hs => filterMap_sourceLines (isDeclarable_of_mem h hs) s.2
  have hempty : mark? "" = none := mark?_ofList rfl
  have hstatic : mark?
      "pub static __RENDERGEN_MANIFEST: &[__rendergen_runtime::ManifestEntry] = &[" = none :=
    mark?_ofList rfl
  rw [frontLines, List.filterMap_append, List.filterMap_append, List.filterMap_append,
    List.filterMap_append, filterMap_headLines, filterMap_referenceLines, hsources,
    List.filterMap_cons_none hempty, List.filterMap_cons_none hempty,
    List.filterMap_cons_none hstatic]
  simp only [List.filterMap_nil, List.append_nil, marks, List.map_cons, List.cons_append,
    List.nil_append]

/-- The lines of the root tell the files and the renderables of each template, and no line of the
manifest tells anything of that kind. -/
theorem filterMap_readMark? :
    (Text.lines (root sources references).toList).filterMap readMark? =
      marks sources references := by
  have hentries : (forSources entryLines sources).filterMap mark? = [] := by
    rw [List.filterMap_eq_nil_iff]
    exact forall_mem_entryLines h fun index name _ => mark?_entryLine index name
  have hend : ["];"].filterMap mark? = [] := List.filterMap_cons_none (mark?_ofList rfl)
  rw [lines_root h, rootLines_eq, List.filterMap_map, List.filterMap_append, List.filterMap_append]
  exact (congrArg₂ (· ++ ·) (congrArg₂ (· ++ ·) (filterMap_frontLines h) hentries) hend).trans
    (by rw [List.append_nil, List.append_nil])

end Accepted

def Mark.file? : Mark → Option String
  | .file name => some name
  | _ => none

/-- The renderables in front of the first template, and those of each template. -/
def readTemplates : List Mark → List String × List (List String)
  | [] => ([], [])
  | .file _ :: marks => readTemplates marks
  | .template :: marks => ([], (readTemplates marks).1 :: (readTemplates marks).2)
  | .renderable name :: marks => (name :: (readTemplates marks).1, (readTemplates marks).2)

theorem readTemplates_files (names : List String) (marks : List Mark) :
    readTemplates (names.map .file ++ marks) = readTemplates marks := by
  induction names with
  | nil => rfl
  | cons name names ih => exact ih

theorem readTemplates_renderables (names : List String) (marks : List Mark) :
    readTemplates (names.map .renderable ++ marks) =
      (names ++ (readTemplates marks).1, (readTemplates marks).2) := by
  induction names with
  | nil => rfl
  | cons name names ih => rw [List.map_cons, List.cons_append, readTemplates, ih, List.cons_append]

theorem readTemplates_templateMarks (names : List (List String)) :
    readTemplates (templateMarks names) = ([], names) := by
  induction names with
  | nil => rfl
  | cons first names ih =>
    have hcons : templateMarks (first :: names) =
        .template :: (first.map .renderable ++ templateMarks names) := by
      rw [templateMarks, List.flatMap_cons, List.cons_append]
      rfl
    rw [hcons, readTemplates, readTemplates_renderables, ih, List.append_nil]

theorem readTemplates_marks (sources : List Source) (references : List Reference) :
    (readTemplates (marks sources references)).2 = sources.map Source.renderables := by
  rw [marks, readTemplates_files, readTemplates_templateMarks]

theorem filterMap_file?_marks (sources : List Source) (references : List Reference) :
    (marks sources references).filterMap Mark.file? =
      "__rendergen_runtime" :: "__rendergen_ambient" :: references.filterMap sourceName? := by
  have hfiles (names : List String) : (names.map Mark.file).filterMap Mark.file? = names := by
    rw [List.filterMap_map]
    exact List.filterMap_some
  have htemplates (names : List (List String)) :
      (templateMarks names).filterMap Mark.file? = [] := by
    rw [List.filterMap_eq_nil_iff, templateMarks, List.forall_mem_flatMap]
    intro names _
    rw [List.forall_mem_cons, List.forall_mem_map]
    exact ⟨rfl, fun _ _ => rfl⟩
  rw [marks, List.filterMap_append, hfiles, htemplates, List.append_nil]

/-- The lines of the root that begin an entry of the manifest are made of one entry each, and tell
the renderables in order: each under its name, with its type under the number of its source both for
whether it is defined and for how it is rendered. And the text of the root is that of no other input
that was accepted, as far as the renderables of each source and the names of the references that
become files are concerned. -/
theorem root_exact {sources : List Source} {references : List Reference}
    (h : validate sources references = []) :
    let lines := Text.lines (root sources references).toList
    (lines.filter fun line => BeginsEntry line).map readEntry? =
      (sources.zipIdx.flatMap fun s => s.1.renderables.map fun name =>
        let type := "__template_" ++ toString s.2 ++ "::" ++ name
        some ⟨name, type, type⟩) ∧
    ∀ sources' references', validate sources' references' = [] →
      root sources' references' = root sources references →
        sources'.map Source.renderables = sources.map Source.renderables ∧
        references'.filterMap sourceName? = references.filterMap sourceName? := by
  intro lines
  constructor
  · rw [filter_beginsEntry h, forSources, List.map_flatMap, List.map_flatMap]
    refine List.flatMap_congr fun s hs => ?_
    rw [entryLines, List.map_map, List.map_map]
    refine List.map_congr_left fun name hname => ?_
    exact readEntry?_entryLine (isDeclarable_of_mem h hs name hname) s.2
  · intro sources' references' h' hroot
    have hmarks : marks sources' references' = marks sources references := by
      rw [← filterMap_readMark? h', hroot, filterMap_readMark? h]
    constructor
    · rw [← readTemplates_marks sources' references', hmarks, readTemplates_marks]
    · have hfiles := filterMap_file?_marks sources' references'
      rw [hmarks, filterMap_file?_marks, List.cons.injEq, List.cons.injEq] at hfiles
      exact hfiles.2.2.symm

namespace RootSample

/-- A name that is that of a generated module is a name like others. -/
def sources : List Source := [⟨"a.rtpl", "", ["__template_1", "Gen"]⟩, ⟨"b.rtpl", "", []⟩]

def references : List Reference := [.source "text" "", .external "helpers" ⟨"/libhelpers.rlib"⟩]

/-- Neither paths nor texts are written to the root. -/
def otherSources : List Source := [⟨"c.rtpl", "x", ["__template_1", "Gen"]⟩, ⟨"d.rtpl", "y", []⟩]

def otherReferences : List Reference := [.source "text" "z"]

end RootSample

theorem root_exact_sample :
    validate RootSample.sources RootSample.references = [] ∧
    validate RootSample.otherSources RootSample.otherReferences = [] ∧
    root RootSample.otherSources RootSample.otherReferences =
      root RootSample.sources RootSample.references ∧
    ((Text.lines (root RootSample.sources RootSample.references).toList).filter
        fun line => BeginsEntry line).map readEntry? =
      [some ⟨"__template_1", "__template_0::__template_1", "__template_0::__template_1"⟩,
        some ⟨"Gen", "__template_0::Gen", "__template_0::Gen"⟩] ∧
    RootSample.otherReferences.filterMap sourceName? =
      RootSample.references.filterMap sourceName? := by
  have hvalid : validate RootSample.sources RootSample.references = [] := by decide +kernel
  have hother : validate RootSample.otherSources RootSample.otherReferences = [] := by
    decide +kernel
  have hroot : root RootSample.otherSources RootSample.otherReferences =
      root RootSample.sources RootSample.references :=
    rfl
  obtain ⟨hentries, hunique⟩ := root_exact hvalid
  exact ⟨hvalid, hother, hroot, hentries.trans (by decide +kernel),
    (hunique _ _ hother hroot).2⟩

end Crate
end TemplateBatch
