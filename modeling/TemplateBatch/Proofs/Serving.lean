import TemplateBatch.Proofs.WireFormat
import TemplateBatch.Proofs.WorkerStages
import Mathlib.Data.List.TakeWhile

/-!
Serving is all or nothing. A worker that fails has written nothing, one that was asked for nothing
writes nothing, and any other answers with one whole line that lists every template of the module.
Nothing is rendered before all checks have passed, and an outcome is released before the next one is
made.
-/
namespace TemplateBatch.Worker

/-- The first line is a text with nothing but white space in it. -/
def BlankLine (input : Bytes) : Prop :=
  ∃ line, Text.Utf8.decode? (firstLine input) = some line ∧ Text.isBlankText line = true

/-- The response tells of all templates in order, each of which was rendered well. -/
structure Lists (l : LoadedModule) (r : Response) : Prop where
  length_eq : r.items.length = l.count
  item : ∀ i item, r.items[i]? = some item →
    l.name? i = some item.className ∧ l.Renders i ∧
      item.text = LoadedModule.textOf (l.render i)

/-- What has been checked when the templates of the module `l` are rendered for the request `q`. -/
structure Validated (loader : Loader) (t : FileTree) (base : Location)
    (preload : List Path) (q : Request) (l : LoadedModule) (names : List String) : Prop where
  files : ∀ p ∈ q.compiled :: q.references, t.isFile base p = true
  opened : ∀ p ∈ preload ++ q.references, Opens loader t base p
  compiled : findLibrary loader t base q.compiled =
    some ⟨some Library.supportedVersion, some l.count, some l.name, some l.render, true⟩
  named : l.Named names

theorem lists_itemsFrom (l : LoadedModule) (names : List String) (hnames : l.Named names)
    (hall : ∀ i, i < names.length → l.Renders i) : Lists l ⟨l.itemsFrom 0 names⟩ := by
  have hget : ∀ i : ℕ, (l.itemsFrom 0 names)[i]? =
      names[i]?.map fun name => ⟨name, LoadedModule.textOf (l.render i)⟩ := by
    intro i
    rw [LoadedModule.getElem?_itemsFrom, Nat.zero_add]
  constructor
  · rw [LoadedModule.length_itemsFrom, hnames.length_eq]
  · intro i item hitem
    rw [hget] at hitem
    obtain ⟨name, hname, rfl⟩ := Option.map_eq_some_iff.mp hitem
    have hi : i < names.length := (List.getElem?_eq_some_iff.mp hname).1
    refine ⟨?_, hall i hi, rfl⟩
    rw [hnames.name?_eq i (hnames.length_eq ▸ hi), hname]

theorem trim_eq_empty_iff (line : String) :
    Text.trim line = "" ↔ Text.isBlankText line = true := by
  have hchars : Text.trim line = "" ↔ Text.trimChars line.toList = [] := by
    rw [Text.trim, ← String.toList_inj, String.toList_ofList]
    rfl
  rw [hchars, Text.trimChars, Text.dropBlankEnd, List.reverse_eq_nil_iff, List.dropWhile_eq_nil_iff,
    Text.isBlankText, List.all_eq_true]
  simp only [List.mem_reverse]
  constructor
  · intro hrest x hx
    by_contra hblank
    have hne : Text.dropBlank line.toList ≠ [] := by
      intro hnil
      exact hblank (List.dropWhile_eq_nil_iff.mp hnil x hx)
    have hhead : Text.isBlank ((Text.dropBlank line.toList).head hne) = false :=
      List.head_dropWhile_not Text.isBlank hne
    rw [hrest _ (List.head_mem hne)] at hhead
    exact Bool.noConfusion hhead
  · intro hall x hx
    exact hall x ((List.dropWhile_sublist _).mem hx)

theorem readRequest_none_iff (words : Wording) (input : Bytes) :
    readRequest words input = .ok none ↔ BlankLine input := by
  unfold readRequest BlankLine
  cases hline : Text.Utf8.decode? (firstLine input) with
  | none => simp
  | some line =>
    have hblank := trim_eq_empty_iff line
    by_cases htrim : Text.trim line = ""
    · simp [htrim, ← hblank]
    · cases hq : Request.ofText? (Text.trim line) <;> simp [htrim, hq, ← hblank]

section Runs
variable (words : Wording) (loader : Loader) (t : FileTree) (base : Location)
  (preload : List Path)

theorem serve_of_does (input : Bytes) (r : Except WorkerError Unit) (events : List Event)
    (h : (handle words loader t base preload input).Does r events) :
    serve words loader t base preload input = ⟨events, r⟩ := by
  have hrun : (handle words loader t base preload input).run [] = (r, [] ++ events) := h []
  rw [serve, hrun, List.nil_append]

theorem does_handle_error (input : Bytes) (e : WorkerError)
    (h : readRequest words input = .error e) :
    (handle words loader t base preload input).Does (.error e) [] :=
  Noted.does_bind_error (Noted.does_ofExcept_of_eq h)

theorem does_handle_none (input : Bytes) (h : readRequest words input = .ok none) :
    (handle words loader t base preload input).Does (.ok ()) [] := by
  have hread := Noted.does_ofExcept_of_eq h
  exact Noted.does_bind hread (Noted.does_pure ())

theorem does_handle_answer_error (input : Bytes) (q : Request) (e : WorkerError)
    (events : List Event) (h : readRequest words input = .ok (some q))
    (hanswer : (answer words loader t base preload q).Does (.error e) events) :
    (handle words loader t base preload input).Does (.error e) events := by
  have hread := Noted.does_ofExcept_of_eq h
  change (handle words loader t base preload input).Does _ ([] ++ events)
  exact Noted.does_bind hread (Noted.does_bind_error hanswer)

theorem does_respond (r : Response) :
    (respond r).Does (.ok ()) [.wrote (Text.Utf8.encode r.toJson.compact), .wrote [10]] := by
  change (respond r).Does _ ([.wrote (Text.Utf8.encode r.toJson.compact)] ++ [.wrote [10]])
  exact Noted.does_bind (Noted.does_note _) (Noted.does_note _)

theorem does_handle_answer (input : Bytes) (q : Request) (r : Response) (events : List Event)
    (h : readRequest words input = .ok (some q))
    (hanswer : (answer words loader t base preload q).Does (.ok r) events) :
    (handle words loader t base preload input).Does (.ok ())
      (events ++ [.wrote (Text.Utf8.encode r.toJson.compact), .wrote [10]]) := by
  have hread := Noted.does_ofExcept_of_eq h
  change (handle words loader t base preload input).Does _
    ([] ++ (events ++ [.wrote (Text.Utf8.encode r.toJson.compact), .wrote [10]]))
  exact Noted.does_bind hread (Noted.does_bind hanswer (does_respond r))

/-- `k` templates have been rendered behind the openings, none of them before all checks. -/
def AfterChecks (q : Request) (opens : List Path) (k : ℕ) : Prop :=
  0 < k → ∃ l names, Validated loader t base preload q l names ∧
    opens = preload ++ q.references ++ [q.compiled] ∧ k ≤ l.count

theorem afterChecks_zero (q : Request) (opens : List Path) :
    AfterChecks loader t base preload q opens 0 :=
  fun h => absurd h (Nat.lt_irrefl 0)

/-- The request is refused, and nothing has been rendered before all checks. -/
def Refuses (q : Request) : Prop :=
  ∃ e opens k, AfterChecks loader t base preload q opens k ∧
    (answer words loader t base preload q).Does (.error e)
      (opens.map .opened ++ LoadedModule.renderings 0 k)

/-- All templates of the requested module are rendered. -/
def Fulfils (q : Request) : Prop :=
  ∃ l names, Validated loader t base preload q l names ∧
    (∀ i, i < names.length → l.Renders i) ∧
    (answer words loader t base preload q).Does (.ok ⟨l.itemsFrom 0 names⟩)
      ((preload ++ q.references ++ [q.compiled]).map .opened ++
        LoadedModule.renderings 0 l.count)

theorem refuses_unrendered (q : Request) (e : WorkerError) (opens : List Path)
    (h : (answer words loader t base preload q).Does (.error e) (opens.map .opened)) :
    Refuses words loader t base preload q := by
  refine ⟨e, opens, 0, afterChecks_zero loader t base preload q opens, ?_⟩
  rwa [LoadedModule.renderings, List.range'_zero, List.flatMap_nil, List.append_nil]

theorem does_answer_missing (q : Request) (before after : List Path) (p : Path)
    (hsplit : q.compiled :: q.references = before ++ p :: after)
    (hbefore : ∀ p ∈ before, t.isFile base p = true) (hp : ¬ t.isFile base p = true) :
    (answer words loader t base preload q).Does (.error (.fileNotFound p)) [] := by
  have hmissing := requireFiles_error t base before after p hbefore (by simpa using hp)
  rw [← hsplit] at hmissing
  exact Noted.does_bind_error (Noted.does_ofExcept_of_eq hmissing)

section Present
variable (q : Request) (hfiles : ∀ p ∈ q.compiled :: q.references, t.isFile base p = true)
include hfiles

theorem does_required :
    (Noted.ofExcept (requireFiles t base (q.compiled :: q.references))).Does (.ok ()) [] :=
  Noted.does_ofExcept_of_eq (requireFiles_ok t base _ hfiles)

theorem does_answer_unopened (before after : List Path) (p : Path)
    (hsplit : preload ++ q.references = before ++ p :: after)
    (hbefore : ∀ p ∈ before, Opens loader t base p) (hp : ¬ Opens loader t base p) :
    (answer words loader t base preload q).Does (.error (.load p (words.library p)))
      (before.map .opened) := by
  have hopen := does_openAll_error words loader t base before after p hbefore hp
  rw [← hsplit] at hopen
  exact Noted.does_bind (does_required t base q hfiles) (Noted.does_bind_error hopen)

variable (hopened : ∀ p ∈ preload ++ q.references, Opens loader t base p)
include hopened

theorem does_answer_opened (r : Except WorkerError Response) (events : List Event)
    (hrest : (openModule words loader t base q.compiled >>= LoadedModule.renderAll).Does r
      events) :
    (answer words loader t base preload q).Does r
      ((preload ++ q.references).map .opened ++ events) := by
  have hopen := does_openAll words loader t base (preload ++ q.references) hopened
  change (answer words loader t base preload q).Does r
    ([] ++ ((preload ++ q.references).map .opened ++ events))
  exact Noted.does_bind (does_required t base q hfiles) (Noted.does_bind hopen hrest)

theorem does_answer_unloaded (hmodule : ¬ Opens loader t base q.compiled) :
    (answer words loader t base preload q).Does
      (.error (.load q.compiled (words.library q.compiled)))
      ((preload ++ q.references).map .opened) := by
  have hload := does_openModule_error words loader t base q.compiled hmodule
  rw [← List.append_nil ((preload ++ q.references).map Event.opened)]
  exact does_answer_opened words loader t base preload q hfiles hopened _ _
    (Noted.does_bind_error hload)

section Loaded
variable (library : Library) (hlibrary : findLibrary loader t base q.compiled = some library)
include hlibrary

theorem does_answer_refused (e : WorkerError)
    (h : LoadedModule.ofLibrary q.compiled library = .error e) :
    (answer words loader t base preload q).Does (.error e)
      ((preload ++ q.references ++ [q.compiled]).map .opened) := by
  have hload := does_openModule words loader t base q.compiled library hlibrary
  rw [h] at hload
  rw [List.map_append]
  exact does_answer_opened words loader t base preload q hfiles hopened _ _
    (Noted.does_bind_error hload)

theorem does_answer_loaded (l : LoadedModule) (r : Except WorkerError Response)
    (events : List Event) (h : LoadedModule.ofLibrary q.compiled library = .ok l)
    (hrender : l.renderAll.Does r events) :
    (answer words loader t base preload q).Does r
      ((preload ++ q.references ++ [q.compiled]).map .opened ++ events) := by
  have hload := does_openModule words loader t base q.compiled library hlibrary
  rw [h] at hload
  rw [List.map_append, List.append_assoc]
  exact does_answer_opened words loader t base preload q hfiles hopened _ _
    (Noted.does_bind hload hrender)

theorem refuses_or_fulfils_loaded (l : LoadedModule)
    (h : LoadedModule.ofLibrary q.compiled library = .ok l) :
    Refuses words loader t base preload q ∨ Fulfils words loader t base preload q := by
  have hanswer := fun r events => does_answer_loaded words loader t base preload q hfiles
    hopened library hlibrary l r events h
  cases hnames : l.names with
  | error e =>
    have hrefused := hanswer _ _ (LoadedModule.does_renderAll_names_error l e hnames)
    rw [List.append_nil] at hrefused
    exact Or.inl (refuses_unrendered words loader t base preload q e _ hrefused)
  | ok names =>
    have hnamed := LoadedModule.named_of_names l names hnames
    have hvalid : Validated loader t base preload q l names := by
      refine ⟨hfiles, hopened, ?_, hnamed⟩
      rw [hlibrary, LoadedModule.ofLibrary_ok q.compiled library l h]
    rcases all_or_least l.Renders names.length with hall | ⟨k, hk, hbefore, hfail⟩
    · refine Or.inr ⟨l, names, hvalid, hall, ?_⟩
      rw [← hnamed.length_eq]
      exact hanswer _ _ (LoadedModule.does_renderAll l names hnames hall)
    · have hrefused := LoadedModule.does_renderAll_error l names k names[k] hnames
        (List.getElem?_eq_getElem hk) hbefore hfail
      refine Or.inl ⟨_, _, k + 1, fun _ => ?_, hanswer _ _ hrefused⟩
      exact ⟨l, names, hvalid, rfl, hnamed.length_eq ▸ hk⟩

end Loaded
end Present

theorem refuses_or_fulfils (q : Request) :
    Refuses words loader t base preload q ∨ Fulfils words loader t base preload q := by
  have hrefuses := fun e opens => refuses_unrendered words loader t base preload q e opens
  -- The stages in the order in which the worker goes through them; the first to fail decides.
  rcases all_or_first (fun p => t.isFile base p = true) (q.compiled :: q.references) with
    hfiles | ⟨before, p, after, hsplit, hbefore, hp⟩
  swap
  · exact Or.inl (hrefuses _ [] (does_answer_missing words loader t base preload q before after
      p hsplit hbefore hp))
  rcases all_or_first (Opens loader t base) (preload ++ q.references) with
    hopened | ⟨before, p, after, hsplit, hbefore, hp⟩
  swap
  · exact Or.inl (hrefuses _ before (does_answer_unopened words loader t base preload q hfiles
      before after p hsplit hbefore hp))
  by_cases hmodule : Opens loader t base q.compiled
  swap
  · exact Or.inl (hrefuses _ _ (does_answer_unloaded words loader t base preload q hfiles
      hopened hmodule))
  obtain ⟨library, hlibrary⟩ := hmodule
  cases hl : LoadedModule.ofLibrary q.compiled library with
  | error e =>
    exact Or.inl (hrefuses e _ (does_answer_refused words loader t base preload q hfiles hopened
      library hlibrary e hl))
  | ok l =>
    exact refuses_or_fulfils_loaded words loader t base preload q hfiles hopened library hlibrary
      l hl

theorem octets_opened (opens : List Path) :
    (opens.map Event.opened).flatMap Event.octets = [] := by
  simp [List.flatMap_eq_nil_iff, Event.octets]

theorem octets_renderings (index count : ℕ) :
    (LoadedModule.renderings index count).flatMap Event.octets = [] := by
  rw [List.flatMap_eq_nil_iff]
  intro e he
  obtain ⟨i, _, he⟩ := List.mem_flatMap.mp he
  simp only [List.mem_cons, List.not_mem_nil, or_false] at he
  rcases he with rfl | rfl <;> rfl

theorem output_silent (opens : List Path) (k : ℕ) (r : Except WorkerError Unit) :
    Served.output ⟨opens.map .opened ++ LoadedModule.renderings 0 k, r⟩ = [] := by
  rw [Served.output, List.flatMap_append, octets_opened, octets_renderings, List.append_nil]

theorem output_response (opens : List Path) (k : ℕ) (response : Response)
    (r : Except WorkerError Unit) :
    Served.output ⟨opens.map .opened ++ LoadedModule.renderings 0 k ++
      [.wrote (Text.Utf8.encode response.toJson.compact), .wrote [10]], r⟩ =
      Text.Utf8.encode response.toLine := by
  have hfeed : Text.Utf8.encode "\n" = [10] := rfl
  rw [Served.output, List.flatMap_append, List.flatMap_append, octets_opened, octets_renderings,
    Response.toLine, Text.Utf8.encode_append, hfeed]
  simp [Event.octets]

/-- The request was read and its templates are listed in the response `r`. -/
def Answered (input : Bytes) (r : Response) : Prop :=
  ∃ q l names, readRequest words input = .ok (some q) ∧
    Validated loader t base preload q l names ∧ Lists l r

/-- `k` templates have been rendered behind the openings, none of them before a request was read and
everything it names was checked. -/
def RenderedAfterChecks (input : Bytes) (opens : List Path) (k : ℕ) : Prop :=
  0 < k → ∃ q l names, readRequest words input = .ok (some q) ∧
    Validated loader t base preload q l names ∧
    opens = preload ++ q.references ++ [q.compiled] ∧ k ≤ l.count

/-- The three ways serving can end. -/
inductive Ends (input : Bytes) : Served → Prop
  | failed (e : WorkerError) (opens : List Path) (k : ℕ) (nonblank : ¬ BlankLine input)
      (checked : RenderedAfterChecks words loader t base preload input opens k) :
      Ends input ⟨opens.map .opened ++ LoadedModule.renderings 0 k, .error e⟩
  | idle (blank : BlankLine input) : Ends input ⟨[], .ok ()⟩
  | answered (opens : List Path) (k : ℕ) (r : Response)
      (listed : Answered words loader t base preload input r)
      (checked : RenderedAfterChecks words loader t base preload input opens k) :
      Ends input ⟨opens.map .opened ++ LoadedModule.renderings 0 k ++
        [.wrote (Text.Utf8.encode r.toJson.compact), .wrote [10]], .ok ()⟩

theorem serve_ends (input : Bytes) :
    Ends words loader t base preload input (serve words loader t base preload input) := by
  have hblank := readRequest_none_iff words input
  cases hread : readRequest words input with
  | error e =>
    rw [serve_of_does words loader t base preload input _ _
      (does_handle_error words loader t base preload input e hread)]
    refine Ends.failed e [] 0 ?_ fun h => absurd h (Nat.lt_irrefl 0)
    rw [← hblank, hread]
    simp
  | ok request =>
    cases request with
    | none =>
      rw [serve_of_does words loader t base preload input _ _
        (does_handle_none words loader t base preload input hread)]
      exact Ends.idle (hblank.mp hread)
    | some q =>
      have hnonblank : ¬ BlankLine input := by
        rw [← hblank, hread]
        simp
      rcases refuses_or_fulfils words loader t base preload q with
        ⟨e, opens, k, hk, hanswer⟩ | ⟨l, names, hvalid, hall, hanswer⟩
      · rw [serve_of_does words loader t base preload input _ _
          (does_handle_answer_error words loader t base preload input q e _ hread hanswer)]
        refine Ends.failed e opens k hnonblank fun hpos => ?_
        obtain ⟨l, names, hvalid, hopens, hcount⟩ := hk hpos
        exact ⟨q, l, names, hread, hvalid, hopens, hcount⟩
      · rw [serve_of_does words loader t base preload input _ _
          (does_handle_answer words loader t base preload input q _ _ hread hanswer)]
        have hlists := lists_itemsFrom l names hvalid.named hall
        exact Ends.answered _ l.count _ ⟨q, l, names, hread, hvalid, hlists⟩
          fun _ => ⟨q, l, names, hread, hvalid, rfl, Nat.le_refl _⟩

section Ending
variable {words loader t base preload} {input : Bytes} {s : Served}

theorem not_blankLine_of_answered (r : Response)
    (h : Answered words loader t base preload input r) : ¬ BlankLine input := by
  obtain ⟨q, _, _, hread, _, _⟩ := h
  rw [← readRequest_none_iff words input, hread]
  simp

theorem Ends.outcome (h : Ends words loader t base preload input s) :
    (∃ e, s.result = .error e ∧ s.output = []) ∨
      (s.result = .ok () ∧ s.output = [] ∧ BlankLine input) ∨
      (s.result = .ok () ∧ ∃ r, Answered words loader t base preload input r ∧
        s.output = Text.Utf8.encode r.toLine) := by
  cases h with
  | failed e opens k hnonblank hchecked => exact Or.inl ⟨e, rfl, output_silent opens k _⟩
  | idle hline => exact Or.inr (Or.inl ⟨rfl, rfl, hline⟩)
  | answered opens k r hlisted hchecked =>
    exact Or.inr (Or.inr ⟨rfl, r, hlisted, output_response opens k r _⟩)

theorem Ends.idle_iff (h : Ends words loader t base preload input s) :
    s.result = .ok () ∧ s.output = [] ↔ BlankLine input := by
  constructor
  · rintro ⟨hresult, houtput⟩
    rcases h.outcome with ⟨e, he, _⟩ | ⟨_, _, hline⟩ | ⟨_, r, _, hr⟩
    · rw [hresult] at he
      simp at he
    · exact hline
    · obtain ⟨body, hbody, _⟩ := Response.isLine_toLine r
      rw [houtput, hbody] at hr
      simp at hr
  · intro hline
    cases h with
    | failed e opens k hnonblank hchecked => exact absurd hline hnonblank
    | idle _ => exact ⟨rfl, rfl⟩
    | answered opens k r hlisted hchecked =>
      exact absurd hline (not_blankLine_of_answered r hlisted)

theorem Ends.events_eq (h : Ends words loader t base preload input s) :
    ∃ (opens : List Path) (k : ℕ) (writes : List Bytes),
      s.events = opens.map .opened ++ LoadedModule.renderings 0 k ++ writes.map .wrote ∧
        RenderedAfterChecks words loader t base preload input opens k := by
  cases h with
  | failed e opens k hnonblank hchecked =>
    exact ⟨opens, k, [], (List.append_nil _).symm, hchecked⟩
  | idle hline => exact ⟨[], 0, [], rfl, fun h => absurd h (Nat.lt_irrefl 0)⟩
  | answered opens k r hlisted hchecked =>
    exact ⟨opens, k, [Text.Utf8.encode r.toJson.compact, [10]], rfl, hchecked⟩

end Ending

/-- A worker writes one whole response or nothing, and renders only after all checks. -/
theorem serve_all_or_nothing (input : Bytes) :
    let served := serve words loader t base preload input
    ((∃ e, served.result = .error e ∧ served.output = []) ∨
      (served.result = .ok () ∧ served.output = [] ∧ BlankLine input) ∨
      (served.result = .ok () ∧ ∃ r, Answered words loader t base preload input r ∧
        served.output = Text.Utf8.encode r.toLine ∧ Bytes.IsLine served.output)) ∧
    (served.result = .ok () ∧ served.output = [] ↔ BlankLine input) ∧
    ∃ (opens : List Path) (k : ℕ) (writes : List Bytes), served.events =
        opens.map .opened ++ LoadedModule.renderings 0 k ++ writes.map .wrote ∧
      RenderedAfterChecks words loader t base preload input opens k := by
  intro served
  have hends : Ends words loader t base preload input served :=
    serve_ends words loader t base preload input
  refine ⟨?_, hends.idle_iff, hends.events_eq⟩
  rcases hends.outcome with hfailed | hidle | ⟨hresult, r, hlisted, houtput⟩
  · exact Or.inl hfailed
  · exact Or.inr (Or.inl hidle)
  · refine Or.inr (Or.inr ⟨hresult, r, hlisted, houtput, ?_⟩)
    rw [houtput]
    exact Response.isLine_toLine r

end Runs

end TemplateBatch.Worker
