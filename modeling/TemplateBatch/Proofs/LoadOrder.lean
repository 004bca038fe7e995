import TemplateBatch.Proofs.Serving
import TemplateBatch.Proofs.BatchRuns
import TemplateBatch.Worker.Program

/-!
The order in which a worker opens libraries. The shared standard library comes first if there is
one, then the dynamic libraries among the references of the batch as they were added, and the module
last. A file that is missing is noticed before anything is opened, and a library that does not open
is the end.
-/
namespace TemplateBatch

namespace Worker

def Event.opened? : Event → Option Path
  | .opened p => some p
  | _ => none

/-- The libraries that were opened, in order. -/
def openings (events : List Event) : List Path := events.filterMap Event.opened?

def Ending.openings (e : Ending) : List Path := Worker.openings e.events

theorem openings_append (es es' : List Event) :
    openings (es ++ es') = openings es ++ openings es' :=
  List.filterMap_append

theorem openings_opened (ps : List Path) : openings (ps.map .opened) = ps := by
  induction ps with
  | nil => rfl
  | cons p ps ih => exact congrArg (List.cons p) ih

theorem openings_renderings (index count : ℕ) :
    openings (LoadedModule.renderings index count) = [] := by
  rw [openings, List.filterMap_eq_nil_iff]
  intro e he
  obtain ⟨i, _, he⟩ := List.mem_flatMap.mp he
  simp only [List.mem_cons, List.not_mem_nil, or_false] at he
  rcases he with rfl | rfl <;> rfl

theorem LoadedModule.exists_does_renderAll (l : LoadedModule) :
    ∃ r k, l.renderAll.Does r (renderings 0 k) := by
  cases hnames : l.names with
  | error e => exact ⟨_, 0, does_renderAll_names_error l e hnames⟩
  | ok names =>
    rcases all_or_least l.Renders names.length with hall | ⟨k, hk, hbefore, hfail⟩
    · exact ⟨_, _, does_renderAll l names hnames hall⟩
    · exact ⟨_, _, does_renderAll_error l names k names[k] hnames (List.getElem?_eq_getElem hk)
        hbefore hfail⟩

section Serving
variable (words : Wording) (loader : Loader) (t : FileTree) (base : Location)
  (preload : List Path) (q : Request)

/-- Whether the library under `p` can be opened. -/
def opens (p : Path) : Bool := (findLibrary loader t base p).isSome

theorem opens_iff (p : Path) : opens loader t base p = true ↔ Opens loader t base p :=
  Option.isSome_iff_exists

/-- What a worker opens for a request: nothing while a file is missing, and else everything up to
the first library that cannot be opened. -/
def openedFor : List Path :=
  if (q.compiled :: q.references).all (t.isFile base) then
    (preload ++ q.references ++ [q.compiled]).takeWhile (opens loader t base)
  else []

theorem does_answer_opens :
    ∃ r events, (answer words loader t base preload q).Does r events ∧
      openings events = openedFor loader t base preload q := by
  rcases all_or_first (fun p => t.isFile base p = true) (q.compiled :: q.references) with
    hfiles | ⟨before, p, after, hsplit, hbefore, hp⟩
  swap
  · refine ⟨_, _, does_answer_missing words loader t base preload q before after p hsplit hbefore
      hp, ?_⟩
    rw [openedFor, hsplit, if_neg]
    · rfl
    · simp [hp]
  have hpresent : openedFor loader t base preload q =
      (preload ++ q.references ++ [q.compiled]).takeWhile (opens loader t base) :=
    if_pos (List.all_eq_true.mpr hfiles)
  rw [hpresent]
  rcases all_or_first (Opens loader t base) (preload ++ q.references) with
    hopened | ⟨before, p, after, hsplit, hbefore, hp⟩
  swap
  · refine ⟨_, _, does_answer_unopened words loader t base preload q hfiles before after p hsplit
      hbefore hp, ?_⟩
    rw [openings_opened, hsplit, List.append_assoc, List.takeWhile_append_of_pos, List.cons_append,
      List.takeWhile_cons_of_neg, List.append_nil]
    · rwa [opens_iff]
    · exact fun x hx => (opens_iff ..).mpr (hbefore x hx)
  rw [List.takeWhile_append_of_pos fun x hx => (opens_iff ..).mpr (hopened x hx)]
  by_cases hmodule : Opens loader t base q.compiled
  swap
  · refine ⟨_, _, does_answer_unloaded words loader t base preload q hfiles hopened hmodule, ?_⟩
    rw [openings_opened, List.takeWhile_cons_of_neg, List.append_nil]
    rwa [opens_iff]
  rw [List.takeWhile_cons_of_pos ((opens_iff ..).mpr hmodule), List.takeWhile_nil]
  obtain ⟨library, hlibrary⟩ := hmodule
  cases hl : LoadedModule.ofLibrary q.compiled library with
  | error e =>
    refine ⟨_, _, does_answer_refused words loader t base preload q hfiles hopened library
      hlibrary e hl, ?_⟩
    exact openings_opened _
  | ok l =>
    obtain ⟨r, k, hrender⟩ := l.exists_does_renderAll
    refine ⟨_, _, does_answer_loaded words loader t base preload q hfiles hopened library
      hlibrary l r _ hl hrender, ?_⟩
    rw [openings_append, openings_opened, openings_renderings, List.append_nil]

theorem openings_serve :
    openings (serve words loader t base preload (Text.Utf8.encode q.toLine)).events =
      openedFor loader t base preload q := by
  have hread : readRequest words (Text.Utf8.encode q.toLine) = .ok (some q) := by
    have h := readRequest_toLine words q []
    rwa [List.append_nil] at h
  obtain ⟨r | r, events, hanswer, hopens⟩ := does_answer_opens words loader t base preload q
  · rw [serve_of_does words loader t base preload _ _ _
      (does_handle_answer_error words loader t base preload _ q r events hread hanswer)]
    exact hopens
  · rw [serve_of_does words loader t base preload _ _ _
      (does_handle_answer words loader t base preload _ q r events hread hanswer)]
    rw [openings_append, hopens]
    exact List.append_nil _

/-- A worker that finds its runtime opens libraries, and no other. -/
theorem openings_run (vs : Variables) (executable : Except SystemError Path) :
    (run words loader t base vs executable (Text.Utf8.encode q.toLine)).openings =
      match resolveRuntime words t base vs executable with
      | .error _ => []
      | .ok runtime => openedFor loader t base runtime.preload q := by
  rw [run]
  cases resolveRuntime words t base vs executable with
  | error e =>
    dsimp only
    split <;> rfl
  | ok runtime =>
    dsimp only
    rw [← openings_serve words loader t base runtime.preload q]
    generalize serve words loader t base runtime.preload (Text.Utf8.encode q.toLine) = served
    cases served.result <;> rfl

variable {loader t base preload q}

theorem openedFor_prefix :
    openedFor loader t base preload q <+: preload ++ q.references ++ [q.compiled] := by
  rw [openedFor]
  split
  · exact List.takeWhile_prefix _
  · exact List.nil_prefix

theorem openedFor_of_missing (h : ∃ p ∈ q.compiled :: q.references, t.isFile base p = false) :
    openedFor loader t base preload q = [] := by
  obtain ⟨p, hp, hmissing⟩ := h
  rw [openedFor, if_neg]
  intro hall
  rw [List.all_eq_true.mp hall p hp] at hmissing
  cases hmissing

/-- All libraries are opened when the files are there and each of them opens, and only then. -/
theorem openedFor_eq_iff :
    openedFor loader t base preload q = preload ++ q.references ++ [q.compiled] ↔
      (∀ p ∈ q.compiled :: q.references, t.isFile base p = true) ∧
        ∀ p ∈ preload ++ q.references ++ [q.compiled], Opens loader t base p := by
  rw [openedFor, ← List.all_eq_true]
  by_cases hfiles : (q.compiled :: q.references).all (t.isFile base) = true
  · rw [if_pos hfiles, List.takeWhile_eq_self_iff]
    simp only [hfiles, opens_iff, true_and]
  · rw [if_neg hfiles]
    have hne : preload ++ q.references ++ [q.compiled] ≠ [] :=
      List.append_ne_nil_of_right_ne_nil _ (List.cons_ne_nil _ _)
    exact ⟨fun h => absurd h.symm hne, fun h => absurd h.1 hfiles⟩

end Serving
end Worker

namespace Reference

/-- The dynamic libraries among references, by their extension. -/
def dynamicLibraries (rs : List Reference) : List Path :=
  ((rs.filterMap externalPath?).map Prod.snd).filter fun p => p.extension? = some "so"

theorem filterMap_runtimePath? (rs : List Reference) :
    rs.filterMap runtimePath? = dynamicLibraries rs := by
  induction rs with
  | nil => rfl
  | cons r rs ih =>
    cases r with
    | source name text => exact ih
    | external name path =>
      by_cases hso : path.extension? = some "so"
      · simp [dynamicLibraries, externalPath?, runtimePath?, hso, ih]
      · simp [dynamicLibraries, externalPath?, runtimePath?, hso, ih]

end Reference

namespace Pipeline

theorem references_withReferences (p : Pipeline) (rs : List Reference) :
    (rs.foldl withReference p).references = p.references ++ rs := by
  induction rs generalizing p with
  | nil => exact (List.append_nil _).symm
  | cons r rs ih =>
    rw [List.foldl_cons, ih, withReference, List.append_assoc]
    rfl

/-- Whatever references a pipeline was given, a worker of its batches, wherever it is started and
whatever it finds, opens the standard library if it found one, the dynamic libraries among the
references in their order, and the module that was built, for as long as they open. It opens all of
them exactly when the files are there and each opens, and nothing when a file is missing. -/
theorem opened_in_order (m : Machine) (p : Pipeline) (rs : List Reference)
    (templates : List Template) (w : World) :
    let q := rs.foldl withReference p
    let dynamic := Reference.dynamicLibraries (p.references ++ rs)
    World.Ran (fun r => r.invocation.arguments = [] → ∃ built path,
        (q.compiler.compile m (templates.map Template.source) q.references w).1.result =
          .ok (some built) ∧
        r.before.read m.directory path = .ok built.content ∧
        ∀ words loader t base vs executable,
          let opened :=
            (Worker.run words loader t base vs executable r.invocation.input).openings
          match Worker.resolveRuntime words t base vs executable with
          | .error _ => opened = []
          | .ok runtime =>
            let libraries := runtime.standardLibrary.toList ++ dynamic ++ [path]
            opened <+: libraries ∧
            (opened = libraries ↔ (∀ l ∈ path :: dynamic, t.isFile base l = true) ∧
              ∀ l ∈ libraries, Worker.Opens loader t base l) ∧
            ((∃ l ∈ path :: dynamic, t.isFile base l = false) → opened = []))
      w (ExceptT.run (q.renderBatch m templates) w).2 := by
  intro q dynamic
  refine (ran_renderBatch m q templates w).mono fun r hr hnone => ?_
  obtain ⟨built, hbuilt, _, path, hinput, hread⟩ := hr.exists_serving hnone
  refine ⟨built, path, hbuilt, hread, fun words loader t base vs executable => ?_⟩
  have hpaths : q.runtimePaths = dynamic := by
    rw [runtimePaths, references_withReferences, Reference.filterMap_runtimePath?]
  rw [hpaths] at hinput
  rw [hinput, Worker.openings_run]
  cases Worker.resolveRuntime words t base vs executable with
  | error e => rfl
  | ok runtime =>
    let request : Request := ⟨path, dynamic⟩
    exact ⟨Worker.openedFor_prefix, Worker.openedFor_eq_iff (q := request),
      Worker.openedFor_of_missing (q := request)⟩

end Pipeline
end TemplateBatch
