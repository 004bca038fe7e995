import TemplateBatch.Crate.Root
import TemplateBatch.Crate.Validation
import TemplateBatch.Proofs.Correlation
import TemplateBatch.Proofs.FaultClassification
import TemplateBatch.Proofs.Identifiers
import TemplateBatch.Proofs.ManifestDiscovery
import TemplateBatch.Proofs.PathPieces

/-!
The names of a batch hold from end to end. When no name of a batch is in doubt, the manifest that is
written for it lists every type once, so the worker can tell its templates apart, the response names
each of them at most once, and every text goes back to the one template that asked for it.
-/
namespace TemplateBatch

open Worker

namespace Text

theorem toList_cons (c : Char) (cs : List Char) :
    (String.ofList (c :: cs)).toList = c :: (String.ofList cs).toList := by
  rw [String.toList_ofList, String.toList_ofList]

theorem count_ofList {cs : List Char} {c : Char} {k : ℕ} (h : cs.count c = k) :
    (String.ofList cs).toList.count c = k := by
  rwa [String.toList_ofList]

end Text

namespace Crate

/-- What the manifest of the root lists: each renderable under the number of its source. -/
def listing (sources : List Source) : List (ℕ × String) :=
  sources.zipIdx.flatMap fun s => s.1.renderables.map fun name => (s.2, name)

theorem forSources_entryLines (sources : List Source) :
    forSources entryLines sources = (listing sources).map fun e => entryLine e.1 e.2 := by
  simp only [forSources, listing, List.map_flatMap, List.map_map]
  rfl

theorem names_listing (sources : List Source) :
    (listing sources).map Prod.snd = (declared sources).map Prod.snd := by
  have hsources : sources.zipIdx.map Prod.fst = sources := List.zipIdx_map_fst 0 sources
  have hname : ∀ (s : Source × ℕ), Prod.snd ∘ (fun name : String => (s.2, name)) = id := by
    intro s
    rfl
  have hnamed : ∀ (s : Source), Prod.snd ∘ (fun name : String => (s.path, name)) = id := by
    intro s
    rfl
  simp only [listing, declared, List.map_flatMap, List.map_map, hname, hnamed]
  conv_rhs => rw [← hsources, List.flatMap_map]

theorem names_declared (templates : List Template) :
    (declared (templates.map Template.source)).map Prod.snd = templates.map Template.className := by
  induction templates with
  | nil => rfl
  | cons t templates ih => simpa [declared, Template.source] using ih

/-- A group without problems holds distinct identifiers that are not among those seen before. -/
theorem accepted_of_problems {α : Type} (name : α → String) (bad repeated : α → Diagnostic)
    (seen : List String) (xs : List α) (h : problems name bad repeated seen xs = []) :
    (∀ x ∈ xs, Identifier.isIdentifier (name x) = true ∧ name x ∉ seen) ∧
      (xs.map name).Nodup := by
  induction xs generalizing seen with
  | nil => exact ⟨fun x hx => absurd hx List.not_mem_nil, List.nodup_nil⟩
  | cons x xs ih =>
    rw [problems] at h
    split at h
    case isTrue => cases h
    case isFalse hname =>
    split at h
    case isTrue => cases h
    case isFalse hseen =>
    obtain ⟨hrest, hnodup⟩ := ih (name x :: seen) h
    refine ⟨List.forall_mem_cons.mpr ⟨⟨by simpa using hname, by simpa using hseen⟩, ?_⟩, ?_⟩
    · intro y hy
      exact ⟨(hrest y hy).1, fun hmem => (hrest y hy).2 (List.mem_cons_of_mem _ hmem)⟩
    · rw [List.map_cons, List.nodup_cons]
      refine ⟨fun hmem => ?_, hnodup⟩
      obtain ⟨y, hy, heq⟩ := List.mem_map.mp hmem
      exact (hrest y hy).2 (heq ▸ List.mem_cons_self)

theorem accepted_of_validate {sources : List Source} {references : List Reference}
    (h : validate sources references = []) :
    (∀ name ∈ (declared sources).map Prod.snd, Identifier.isIdentifier name = true) ∧
      ((declared sources).map Prod.snd).Nodup := by
  obtain ⟨hnames, hnodup⟩ := accepted_of_problems _ _ _ [] _ (List.append_eq_nil_iff.mp h).2
  refine ⟨fun name hname => ?_, hnodup⟩
  obtain ⟨r, hr, rfl⟩ := List.mem_map.mp hname
  exact (hnames r hr).1

theorem quote_not_mem_number (k : ℕ) : '"' ∉ (toString k).toList :=
  fun h => absurd (Text.isDigit_of_mem_number h) (by decide)

theorem count_quote_entryLine (index : ℕ) (name : String) :
    (entryLine index name).toList.count '"' = 2 + 3 * name.toList.count '"' := by
  have hnumber := List.count_eq_zero.mpr (quote_not_mem_number index)
  have hopen : "    __rendergen_runtime::ManifestEntry \x7b name: \"".toList.count '"' = 1 :=
    Text.count_ofList rfl
  have hclose : "\", defined: <".toList.count '"' = 1 := Text.count_ofList rfl
  have hcast : List.count '"'
      " as __rendergen_runtime::Template>::DEFINED, render: __rendergen_runtime::render::<".toList =
        0 :=
    Text.count_ofList rfl
  have hend : "> \x7d,".toList.count '"' = 0 := Text.count_ofList rfl
  have htype : (templateModule index ++ "::" ++ name).toList.count '"' =
      name.toList.count '"' := by
    have hstart : "__template_".toList.count '"' = 0 := Text.count_ofList rfl
    have hcolons : "::".toList.count '"' = 0 := Text.count_ofList rfl
    rw [templateModule, String.toList_append, String.toList_append, String.toList_append,
      List.count_append, List.count_append, List.count_append, hstart, hnumber, hcolons]
    omega
  unfold entryLine
  simp only [String.toList_append, List.count_append] at htype ⊢
  omega

theorem name_eq_of_entryLine {i j : ℕ} {name name' : String}
    (hname : Identifier.isIdentifier name = true) (h : entryLine i name = entryLine j name') :
    name' = name := by
  have hquote : '"' ∉ name.toList := Identifier.not_mem_of_isIdentifier hname (by decide)
  have hcount := congrArg (fun line => line.toList.count '"') h
  simp only [count_quote_entryLine, List.count_eq_zero.mpr hquote] at hcount
  have hquote' : '"' ∉ name'.toList := List.count_eq_zero.mp (by omega)
  have hclose : "\", defined: <".toList = '"' :: ", defined: <".toList := Text.toList_cons _ _
  have hchars := congrArg String.toList h
  unfold entryLine at hchars
  simp only [String.toList_append, List.append_assoc, hclose, List.cons_append] at hchars
  have htake := congrArg (List.takeWhile (· != '"')) (List.append_cancel_left hchars)
  rw [Text.takeWhile_ne_append hquote, Text.takeWhile_ne_append hquote'] at htake
  exact (String.toList_inj.mp htake).symm

end Crate

namespace Stub.Manifest

/-- The root for `sources` writes this manifest: its lines are those of the entries in order. -/
def WrittenFor (m : Manifest) (sources : List Source) : Prop :=
  ∃ numbered : List (ℕ × Entry), numbered.map Prod.snd = m ∧
    Crate.forSources Crate.entryLines sources =
      numbered.map fun e => Crate.entryLine e.1 e.2.name

/-- A manifest that was written for accepted names lists them as they were declared. -/
theorem WrittenFor.names_eq {m : Manifest} {sources : List Source} (h : m.WrittenFor sources)
    (hnames : ∀ name ∈ (Crate.declared sources).map Prod.snd,
      Identifier.isIdentifier name = true) :
    m.map Entry.name = (Crate.declared sources).map Prod.snd := by
  obtain ⟨numbered, rfl, hlines⟩ := h
  rw [Crate.forSources_entryLines] at hlines
  rw [← Crate.names_listing] at hnames ⊢
  rw [List.map_map]
  generalize Crate.listing sources = listing at hlines hnames
  induction listing generalizing numbered with
  | nil =>
    obtain rfl := List.map_eq_nil_iff.mp hlines.symm
    rfl
  | cons e listing ih =>
    obtain ⟨e', numbered', rfl, he, hrest⟩ := List.map_eq_cons_iff.mp hlines.symm
    rw [List.map_cons, List.forall_mem_cons] at hnames
    rw [List.map_cons, List.map_cons, ih numbered' hrest.symm hnames.2]
    exact congrArg (· :: _) (Crate.name_eq_of_entryLine hnames.1 he.symm)

/-- Reading the names of a module cannot fail when its manifest lists no name twice. -/
theorem names_library (m : Manifest) (hnodup : (m.map Entry.name).Nodup) (p : Path)
    (l : LoadedModule) (h : LoadedModule.ofLibrary p m.library = .ok l) :
    l.names = .ok ((m.filter Entry.defined).map Entry.name) := by
  obtain ⟨l', hl', hexposes⟩ := ofLibrary_library m p
  rw [h, Except.ok.injEq] at hl'
  subst hl'
  exact hexposes.names_eq (hnodup.sublist (List.filter_sublist.map Entry.name))

end Stub.Manifest

namespace Worker

theorem className_itemsFrom (l : LoadedModule) (index : ℕ) (names : List String) :
    (l.itemsFrom index names).map RenderedItem.className = names := by
  induction names generalizing index with
  | nil => rfl
  | cons name names ih => rw [LoadedModule.itemsFrom, List.map_cons, ih]

/-- A response names the defined entries of the manifest that it came from. -/
theorem className_rendered (words : Wording) (loader : Loader) (t : FileTree)
    (base : Location) (preload : List Path) (q : Request) (m : Stub.Manifest)
    (hnodup : (m.map Stub.Entry.name).Nodup)
    (hmodule : findLibrary loader t base q.compiled = some m.library) (r : Response)
    (h : rendered words loader t base preload q = .ok r) :
    r.items.map RenderedItem.className = (m.filter Stub.Entry.defined).map Stub.Entry.name := by
  rcases refuses_or_fulfils words loader t base preload q with
    ⟨e, opens, k, _, hanswer⟩ | ⟨l, names, hvalid, _, hanswer⟩
  · rw [rendered_of_does words loader t base preload q _ _ hanswer] at h
    cases h
  · rw [rendered_of_does words loader t base preload q _ _ hanswer, Except.ok.injEq] at h
    subst h
    rw [className_itemsFrom]
    have hlibrary := Option.some.inj (hmodule.symm.trans hvalid.compiled)
    have hload : LoadedModule.ofLibrary q.compiled m.library = .ok l := by
      rw [hlibrary]
      rfl
    have hnames := Stub.Manifest.names_library m hnodup q.compiled l hload
    have hnamed := LoadedModule.named_of_names l _ hnames
    apply List.ext_getElem?
    intro i
    by_cases hi : i < l.count
    · rw [← hvalid.named.name?_eq i hi, hnamed.name?_eq i hi]
    · rw [List.getElem?_eq_none (by rw [hvalid.named.length_eq]; omega),
        List.getElem?_eq_none (by rw [hnamed.length_eq]; omega)]

end Worker

namespace Response

/-- The place of the first item under a class name. -/
def place? (r : Response) (className : String) : Option ℕ :=
  r.items.findIdx? fun item => item.className == className

theorem place?_of_firstText {r : Response} {className text : String}
    (h : r.FirstText className text) :
    ∃ k, r.place? className = some k ∧ r.items[k]? = some ⟨className, text⟩ := by
  obtain ⟨before, after, hitems, hbefore⟩ := h
  refine ⟨before.length, ?_, by rw [hitems]; simp⟩
  rw [place?, hitems, List.findIdx?_append,
    List.findIdx?_eq_none_iff.mpr fun item hitem => by simpa using hbefore item hitem]
  simp [List.findIdx?_cons]

theorem className_of_place? {r : Response} {className : String} {k : ℕ}
    (h : r.place? className = some k) :
    r.items[k]?.map RenderedItem.className = some className := by
  obtain ⟨hk, hname, _⟩ := List.findIdx?_eq_some_iff_getElem.mp h
  rw [List.getElem?_eq_getElem hk, Option.map_some, beq_iff_eq.mp hname]

theorem place?_eq_none {r : Response} {className : String} (h : r.text? className = none) :
    r.place? className = none := by
  rw [text?, Option.map_eq_none_iff, List.find?_eq_none] at h
  exact List.findIdx?_eq_none_iff.mpr fun item hitem => by simpa using h item hitem

theorem nodup_places (r : Response) {names : List String} (h : names.Nodup) :
    (names.filterMap r.place?).Nodup := by
  apply h.filterMap
  intro name name' k hk hk'
  have hname := (className_of_place? hk).symm.trans (className_of_place? hk')
  exact Option.some.inj hname

end Response

namespace BatchReport

/-- The output `o` has the text of the item that stands at `k` in the response. -/
def TakenFrom (r : Response) (options : OutputOptions) (k : ℕ) (o : RenderedOutput) : Prop :=
  ∃ item, r.items[k]? = some item ∧ o.text = outputText options item.text

theorem taken_of_renders {r : Response} {options : OutputOptions} {templates : List Template}
    {outputs : List RenderedOutput} (h : List.Forall₂ (Renders r options) templates outputs) :
    List.Forall₂ (TakenFrom r options)
      (templates.filterMap fun t => r.place? t.className) outputs := by
  induction h with
  | nil => exact List.Forall₂.nil
  | @cons t o templates outputs hone _ ih =>
    obtain ⟨text, hfirst, htext⟩ := hone.text_eq
    obtain ⟨k, hk, hitem⟩ := Response.place?_of_firstText hfirst
    simp only [List.filterMap_cons, hk]
    exact List.Forall₂.cons ⟨_, hitem, htext⟩ ih

/-- The outputs of a batch are taken from the places of its templates, in the order of the batch. -/
theorem taken_correlate (n : ℕ) (templates : List Template) (r : Response)
    (options : OutputOptions) :
    List.Forall₂ (TakenFrom r options) (templates.filterMap fun t => r.place? t.className)
      (correlate templates (.success r) options (empty n)).outputs := by
  obtain ⟨outputs, houtputs, hrenders⟩ :=
    outputs_correlateFrom r options templates .empty (empty n)
  have hplaces : templates.filterMap (fun t => r.place? t.className) =
      (templates.filter (isAnswered r)).filterMap fun t => r.place? t.className := by
    rw [List.filterMap_filter]
    apply List.filterMap_congr
    intro t _
    cases htext : r.text? t.className with
    | none => simp [isAnswered, htext, Response.place?_eq_none htext]
    | some text => simp [isAnswered, htext]
  rw [hplaces, correlate, houtputs]
  exact taken_of_renders hrenders

end BatchReport

theorem existsUnique_getElem? {α : Type} {xs : List α} (h : xs.Nodup) {x : α} (hx : x ∈ xs) :
    ∃! i : ℕ, xs[i]? = some x := by
  obtain ⟨i, hi⟩ := List.mem_iff_getElem?.mp hx
  refine ⟨i, hi, fun j hj => ?_⟩
  obtain ⟨hlt, _⟩ := List.getElem?_eq_some_iff.mp hj
  exact (List.getElem?_inj hlt h).mp (hj.trans hi.symm)

/-- A batch whose names were accepted keeps its templates apart from end to end: the worker reads
all names of the module that was built for it, a response has at most one item for each template
and none besides, and no item of a response goes to two templates. -/
theorem accepted_names_match (templates : List Template) (references : List Reference)
    (manifest : Stub.Manifest)
    (haccepted : Crate.validate (templates.map Template.source) references = [])
    (hmanifest : manifest.WrittenFor (templates.map Template.source)) :
    let names := templates.map Template.className
    let defined := (manifest.filter Stub.Entry.defined).map Stub.Entry.name
    (∀ p, ∃ l, LoadedModule.ofLibrary p manifest.library = .ok l ∧ l.names = .ok defined) ∧
    (∀ words loader t base preload (q : Request),
      findLibrary loader t base q.compiled = some manifest.library →
      ∀ r, rendered words loader t base preload q = .ok r →
        (r.items.map RenderedItem.className).Nodup ∧
        ∀ item ∈ r.items, ∃! i : ℕ, names[i]? = some item.className) ∧
    ∀ r options n,
      let places := templates.filterMap fun t => r.place? t.className
      places.Nodup ∧
      List.Forall₂ (BatchReport.TakenFrom r options) places
        (BatchReport.correlate templates (.success r) options (.empty n)).outputs := by
  intro names defined
  obtain ⟨hidentifiers, hnodup⟩ := Crate.accepted_of_validate haccepted
  have hlisted : manifest.map Stub.Entry.name = names :=
    (hmanifest.names_eq hidentifiers).trans (Crate.names_declared templates)
  rw [Crate.names_declared] at hnodup
  have hmodule : (manifest.map Stub.Entry.name).Nodup := hlisted ▸ hnodup
  have hdefined : defined.Sublist names := hlisted ▸ List.filter_sublist.map Stub.Entry.name
  refine ⟨?_, ?_, ?_⟩
  · intro p
    obtain ⟨l, hl, _⟩ := Stub.Manifest.ofLibrary_library manifest p
    exact ⟨l, hl, Stub.Manifest.names_library manifest hmodule p l hl⟩
  · intro words loader t base preload q hq r hr
    have hclasses := className_rendered words loader t base preload q manifest hmodule hq r hr
    rw [hclasses]
    refine ⟨hnodup.sublist hdefined, fun item hitem => ?_⟩
    have hmem : item.className ∈ r.items.map RenderedItem.className := List.mem_map_of_mem hitem
    rw [hclasses] at hmem
    exact existsUnique_getElem? hnodup (hdefined.mem hmem)
  · intro r options n places
    refine ⟨?_, BatchReport.taken_correlate n templates r options⟩
    have hplaces := r.nodup_places hnodup
    rwa [List.filterMap_map] at hplaces

namespace MatchingSample

/-- Two templates of which the second was never defined. -/
def templates : List Template := [.ofCode "a.rtpl" "", .ofCode "b.rtpl" ""]

def manifest : Stub.Manifest :=
  [{ name := "T_a_rtpl", typeName := "A", actions := [.step (.literal "A")] },
    { name := "T_b_rtpl", typeName := "B", defined := false, actions := [] }]

def loader : Loader := ⟨fun _ => some manifest.library, fun _ => none⟩

def tree : FileTree := ⟨[(["m.so"], .file [] 0o600)]⟩

def request : Request := ⟨⟨"/m.so"⟩, []⟩

def response : Response := ⟨[⟨"T_a_rtpl", "A"⟩]⟩

theorem writtenFor : manifest.WrittenFor (templates.map Template.source) :=
  ⟨[0, 1].zip manifest, rfl, by decide +kernel⟩

end MatchingSample

theorem accepted_names_match_sample :
    Crate.validate (MatchingSample.templates.map Template.source) [] = [] ∧
    MatchingSample.manifest.WrittenFor (MatchingSample.templates.map Template.source) ∧
    rendered .silent MatchingSample.loader MatchingSample.tree [] [] MatchingSample.request =
      .ok MatchingSample.response ∧
    ∃! i : ℕ, (MatchingSample.templates.map Template.className)[i]? = some "T_a_rtpl" := by
  have haccepted : Crate.validate (MatchingSample.templates.map Template.source) [] = [] := by
    decide +kernel
  have hfound : findLibrary MatchingSample.loader MatchingSample.tree []
      MatchingSample.request.compiled = some MatchingSample.manifest.library := rfl
  have hrendered : rendered .silent MatchingSample.loader MatchingSample.tree [] []
      MatchingSample.request = .ok MatchingSample.response := by
    decide +kernel
  obtain ⟨_, hresponses, _⟩ := accepted_names_match MatchingSample.templates []
    MatchingSample.manifest haccepted MatchingSample.writtenFor
  obtain ⟨_, hitems⟩ := hresponses _ _ _ _ _ _ hfound _ hrendered
  exact ⟨haccepted, MatchingSample.writtenFor, hrendered,
    hitems ⟨"T_a_rtpl", "A"⟩ (List.mem_singleton.mpr rfl)⟩

end TemplateBatch
