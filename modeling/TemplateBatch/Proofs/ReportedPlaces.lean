import TemplateBatch.Batch
import TemplateBatch.Proofs.CrateFiles
import TemplateBatch.Proofs.PathComponents
import TemplateBatch.Proofs.ReportLines

/-!
Where the messages of the compiler are placed. The map of a crate sends the file of each template to
the source that the template was written from and knows no other name. A message about a file is
told at the source whose template has the name that the file's path ends in, whatever directory the
path leads through, with the line and the column of the span that the message is mainly about.
-/
namespace TemplateBatch

namespace Path

/-- The last component of the path is this name. -/
def EndsIn (p : Path) (name : String) : Prop :=
  p.components.getLast? = some (.name name.toList)

instance (p : Path) (name : String) : Decidable (p.EndsIn name) :=
  inferInstanceAs (Decidable (_ = _))

theorem getLast?_openingComponents (cs name : List Char) :
    (openingComponents cs).getLast? ≠ some (.name name) := by
  unfold openingComponents
  split
  · simp
  · split_ifs
    · simp
    · simp

theorem getLast?_spine (p : Path) : p.spine.getLast? = (counted p.chars).getLast? := by
  rw [counted_chars, counted, ← filter_dropIdleEnd, spine]
  obtain hnil | ⟨before, piece, hlast, hcounts⟩ :=
    dropIdleEnd_cases (pieces (opening p.chars).2)
  · rw [hnil]
    rfl
  · rw [hlast, List.filter_append, List.getLast?_append, List.getLast?_append]
    simp [hcounts]

/-- The file that a path names is its last component, if that is a name. -/
theorem fileName?_eq_some_iff (p : Path) (name : String) :
    p.fileName? = some name ↔ p.EndsIn name := by
  have hname : p.fileName? = some name ↔ p.fileNameChars? = some name.toList := by
    rw [fileName?, Option.map_eq_some_iff]
    constructor
    · rintro ⟨cs, hcs, rfl⟩
      rw [hcs, String.toList_ofList]
    · exact fun h => ⟨name.toList, h, String.ofList_toList⟩
  rw [hname, EndsIn, components_eq, fileNameChars?, getLast?_spine]
  cases hlast : (counted p.chars).getLast? with
  | none =>
    rw [List.getLast?_eq_none_iff.mp hlast, List.map_nil, List.append_nil]
    simpa using getLast?_openingComponents p.chars name.toList
  | some piece =>
    rw [List.getLast?_append, List.getLast?_map, hlast]
    by_cases hparent : piece = ['.', '.']
    · simp [hparent, component]
    · simp [hparent, component]

/-- A path ends in a name that it consists of or that follows its last separator. -/
theorem endsIn_of_counted {p : Path} {name : String} (h : IsName name)
    (before : List (List Char)) (hp : counted p.chars = before ++ [name.toList]) :
    p.EndsIn name := by
  rw [EndsIn, components_eq, hp, List.map_append, List.map_singleton, component_name h,
    ← List.append_assoc, List.getLast?_concat]

theorem endsIn_self {name : String} (h : IsName name) : (Path.mk name).EndsIn name :=
  endsIn_of_counted h [] (counted_name h)

theorem endsIn_within (directory : String) {name : String} (h : IsName name) :
    (Path.mk (directory ++ "/" ++ name)).EndsIn name := by
  have hchars : (Path.mk (directory ++ "/" ++ name)).chars =
      directory.toList ++ '/' :: name.toList := by
    have hseparator : "/".toList = ['/'] := String.toList_ofList
    rw [chars, String.toList_append, String.toList_append, hseparator, List.append_assoc,
      List.singleton_append]
  refine endsIn_of_counted h (counted directory.toList) ?_
  rw [hchars, counted_separator, counted_name h]

end Path

namespace SourceMap
variable {m : SourceMap} {file : String}

/-- A path that ends in a name of the map stands for what the map says of the name, if it says one
thing only. -/
theorem resolve_of_mem {name : String} {path : Path} (hfile : (Path.mk file).EndsIn name)
    (hmem : (name, path) ∈ m.files) (hunique : ∀ path', (name, path') ∈ m.files → path' = path) :
    m.resolve file = path := by
  have hkey : (Path.mk file).fileName?.getD file = name := by
    rw [(Path.fileName?_eq_some_iff _ name).mpr hfile, Option.getD_some]
  simp only [resolve, hkey]
  cases hfind : m.files.find? fun f => f.1 == name with
  | none =>
    have hnone := List.find?_eq_none.mp hfind _ hmem
    exact absurd (beq_self_eq_true name) hnone
  | some found =>
    obtain ⟨name', path'⟩ := found
    obtain rfl : name' = name := by simpa using List.find?_some hfind
    exact hunique path' (List.mem_of_find?_eq_some hfind)

/-- A path that ends in no name of the map stands for itself, also when its text is one. -/
theorem resolve_of_not_endsIn (h : ∀ f ∈ m.files, ¬ (Path.mk file).EndsIn f.1 ∧ file ≠ f.1) :
    m.resolve file = ⟨file⟩ := by
  have hnone : (m.files.find? fun f => f.1 == (Path.mk file).fileName?.getD file) = none := by
    refine List.find?_eq_none.mpr fun f hf hbeq => ?_
    have hkey : f.1 = (Path.mk file).fileName?.getD file := eq_of_beq hbeq
    cases hname : (Path.mk file).fileName? with
    | none =>
      rw [hname, Option.getD_none] at hkey
      exact (h f hf).2 hkey.symm
    | some name =>
      rw [hname, Option.getD_some] at hkey
      exact (h f hf).1 (hkey ▸ (Path.fileName?_eq_some_iff _ name).mp hname)
  simp only [resolve, hnone]

end SourceMap

theorem Crate.isName_templateFile (index : ℕ) : Path.IsName (templateFile index) := by
  have hstart : '/' ∉ ("template_" ++ toString index).toList := by
    rw [String.toList_append, List.mem_append, not_or]
    exact ⟨by decide, Path.noSeparator_number index⟩
  refine Path.IsName.append hstart ⟨by decide, 'r', by decide, by decide⟩

namespace ModuleCompiler

theorem files_sourceMap (sources : List Source) :
    (sourceMap sources).files =
      (sources.zipIdx.map fun s => (Crate.templateFile s.2, Path.mk s.1.path)).reverse := by
  suffices hfold : ∀ (numbered : List (Source × ℕ)) (m : SourceMap),
      (numbered.foldl (fun m s => m.insert (Crate.templateFile s.2) ⟨s.1.path⟩) m).files =
        (numbered.map fun s => (Crate.templateFile s.2, Path.mk s.1.path)).reverse ++ m.files by
    rw [sourceMap, hfold]
    exact List.append_nil _
  intro numbered
  induction numbered with
  | nil => exact fun m => rfl
  | cons s numbered ih =>
    intro m
    rw [List.foldl_cons, ih, List.map_cons, List.reverse_cons, List.append_assoc]
    rfl

theorem mem_files_sourceMap {sources : List Source} {f : String × Path} :
    f ∈ (sourceMap sources).files ↔
      ∃ i, ∃ h : i < sources.length, f = (Crate.templateFile i, ⟨sources[i].path⟩) := by
  rw [files_sourceMap, List.mem_reverse, List.mem_map]
  constructor
  · rintro ⟨⟨s, i⟩, hs, rfl⟩
    obtain ⟨h, hsource⟩ := List.mem_zipIdx' hs
    exact ⟨i, h, by rw [hsource]⟩
  · rintro ⟨i, h, rfl⟩
    exact ⟨(sources[i], i), List.mk_mem_zipIdx_iff_getElem?.mpr (List.getElem?_eq_getElem h), rfl⟩

section Resolve
variable {sources : List Source} {file : String}

/-- The file of a template stands for its source and for no other. -/
theorem resolve_template {i : ℕ} (h : i < sources.length)
    (hfile : (Path.mk file).EndsIn (Crate.templateFile i)) :
    (sourceMap sources).resolve file = ⟨sources[i].path⟩ := by
  refine SourceMap.resolve_of_mem hfile (mem_files_sourceMap.mpr ⟨i, h, rfl⟩) fun path' hpath => ?_
  obtain ⟨j, hj, heq⟩ := mem_files_sourceMap.mp hpath
  obtain ⟨hname, rfl⟩ := Prod.mk.inj heq
  obtain rfl : i = j := Crate.templateFile_injective hname
  rfl

theorem resolve_other
    (hfile : ∀ i < sources.length, ¬ (Path.mk file).EndsIn (Crate.templateFile i)) :
    (sourceMap sources).resolve file = ⟨file⟩ := by
  refine SourceMap.resolve_of_not_endsIn fun f hf => ?_
  obtain ⟨i, hi, rfl⟩ := mem_files_sourceMap.mp hf
  refine ⟨hfile i hi, ?_⟩
  rintro rfl
  exact hfile i hi (Path.endsIn_self (Crate.isName_templateFile i))

end Resolve

end ModuleCompiler

namespace CompilerReport

/-- The span that a message is mainly about: its first primary one, or the first of all when none
is primary. -/
def Entry.IsAbout (e : Entry) (s : Span) : Prop :=
  (∃ before after, e.spans = before ++ s :: after ∧ s.isPrimary = true ∧
    ∀ t ∈ before, t.isPrimary = false) ∨
  ((∀ t ∈ e.spans, t.isPrimary = false) ∧ ∃ after, e.spans = s :: after)

theorem Entry.span_eq_some_iff {e : Entry} {s : Span} : e.span = some s ↔ e.IsAbout s := by
  rw [Entry.span, Entry.IsAbout]
  cases hfind : e.spans.find? Span.isPrimary with
  | none =>
    have hnone : ∀ t ∈ e.spans, t.isPrimary = false := by
      simpa using List.find?_eq_none.mp hfind
    rw [List.head?_eq_some_iff, and_iff_right hnone]
    refine ⟨Or.inr, fun h => h.resolve_left ?_⟩
    rintro ⟨before, after, hspans, hprimary, -⟩
    have hmem : s ∈ e.spans := hspans ▸ List.mem_append_right before List.mem_cons_self
    rw [hnone s hmem] at hprimary
    cases hprimary
  | some t =>
    have ht := List.find?_some hfind
    constructor
    · rintro ⟨⟩
      obtain ⟨-, before, after, hspans, hbefore⟩ := List.find?_eq_some_iff_append.mp hfind
      exact Or.inl ⟨before, after, hspans, ht, by simpa using hbefore⟩
    · rintro (⟨before, after, hspans, hprimary, hbefore⟩ | ⟨hnone, -⟩)
      · have hfind' : e.spans.find? Span.isPrimary = some s :=
          List.find?_eq_some_iff_append.mpr
            ⟨hprimary, before, after, hspans, by simpa using hbefore⟩
        exact hfind.symm.trans hfind'
      · rw [hnone t (List.mem_of_find?_eq_some hfind)] at ht
        cases ht

instance (e : Entry) (s : Span) : Decidable (e.IsAbout s) :=
  decidable_of_iff (e.span = some s) Entry.span_eq_some_iff

/-- A message of the compiler gives one diagnostic, wherever its line stands in a report. When the
file of the span that it is mainly about ends in the name of a template's file, the diagnostic is
placed at that template's source, at the line and the column of the span, and the host tells it of
that source. When the file ends in no such name, it is kept as it was reported. -/
theorem messages_placed_at_sources (sources : List Source) {line : String}
    (hline : '\n' ∉ line.toList) {e : Entry} (he : message? line = some e)
    (htold : ¬ e.SaysNothing) {s : Span} (hs : e.IsAbout s) :
    (∀ directory i, (Path.mk (directory ++ "/" ++ Crate.templateFile i)).EndsIn
      (Crate.templateFile i)) ∧
    ∃ d, read (ModuleCompiler.sourceMap sources) line = [d] ∧
      (∀ a b, read (ModuleCompiler.sourceMap sources) (a ++ "\n" ++ line ++ "\n" ++ b) =
        read (ModuleCompiler.sourceMap sources) a ++
          d :: read (ModuleCompiler.sourceMap sources) b) ∧
      (∀ i, ∀ h : i < sources.length, (Path.mk s.file).EndsIn (Crate.templateFile i) →
        d.place = some ⟨⟨sources[i].path⟩, s.line, s.column⟩ ∧
        (HostDiagnostic.ofCompiler d).templatePath = some sources[i].path) ∧
      ((∀ i < sources.length, ¬ (Path.mk s.file).EndsIn (Crate.templateFile i)) →
        d.place = some ⟨⟨s.file⟩, s.line, s.column⟩ ∧
        (HostDiagnostic.ofCompiler d).templatePath = some s.file) := by
  have hread : read (ModuleCompiler.sourceMap sources) line =
      [e.diagnostic (ModuleCompiler.sourceMap sources)] := by
    rw [read_message _ hline he, if_neg (mt e.isRemark_iff.mp htold)]
  have hplace : (e.diagnostic (ModuleCompiler.sourceMap sources)).place =
      some ⟨(ModuleCompiler.sourceMap sources).resolve s.file, s.line, s.column⟩ := by
    rw [Entry.diagnostic, Entry.span_eq_some_iff.mpr hs]
    rfl
  refine ⟨fun directory i => Path.endsIn_within directory (Crate.isName_templateFile i),
    _, hread, fun a b => ?_, fun i h hfile => ?_, fun hfile => ?_⟩
  · rw [read_append_feed, read_append_feed, hread, List.append_assoc, List.singleton_append]
  · rw [ModuleCompiler.resolve_template h hfile] at hplace
    rw [HostDiagnostic.ofCompiler, hplace]
    exact ⟨rfl, rfl⟩
  · rw [ModuleCompiler.resolve_other hfile] at hplace
    rw [HostDiagnostic.ofCompiler, hplace]
    exact ⟨rfl, rfl⟩

namespace PlaceSample

def sources : List Source := [⟨"a.rtpl", "x", ["A"]⟩, ⟨"b.rtpl", "y", ["B"]⟩]

/-- A message whose primary span is not its first one. -/
def line : String :=
  "\x7b\"message\":\"m\",\"level\":\"error\",\"spans\":[" ++
    "\x7b\"file_name\":\"lib.rs\",\"line_start\":1,\"column_start\":2\x7d," ++
    "\x7b\"file_name\":\"/tmp/r-1/template_1.rs\",\"line_start\":3,\"column_start\":7," ++
    "\"is_primary\":true\x7d]\x7d"

def span : Span := ⟨"/tmp/r-1/template_1.rs", 3, 7, true⟩

def entry : Entry :=
  ⟨none, "m", none, "error", [⟨"lib.rs", 1, 2, false⟩, span], none⟩

end PlaceSample

open PlaceSample in
theorem messages_placed_at_sources_sample :
    '\n' ∉ line.toList ∧ message? line = some entry ∧ ¬ entry.SaysNothing ∧ entry.IsAbout span ∧
    ∃ d, read (ModuleCompiler.sourceMap sources) line = [d] ∧
      d.place = some ⟨⟨"b.rtpl"⟩, 3, 7⟩ ∧
      (HostDiagnostic.ofCompiler d).templatePath = some "b.rtpl" := by
  have hline : '\n' ∉ line.toList := by decide +kernel
  have he : message? line = some entry := by decide +kernel
  have htold : ¬ entry.SaysNothing := by decide +kernel
  have hs : entry.IsAbout span := by decide
  have hfile : (Path.mk span.file).EndsIn (Crate.templateFile 1) := by decide +kernel
  obtain ⟨-, d, hread, -, hplace, -⟩ := messages_placed_at_sources sources hline he htold hs
  obtain ⟨hsource, hhost⟩ := hplace 1 (by decide) hfile
  exact ⟨hline, he, htold, hs, d, hread, hsource, hhost⟩

end CompilerReport
end TemplateBatch
