import TemplateBatch.Proofs.WorkerStages
import TemplateBatch.Stub.Manifest
import Mathlib.Data.List.Forall2

/-!
The worker finds exactly the templates that a module defines. Count, names and renderings number the
defined entries of the manifest alike, so that the worker renders them in order under their names,
unless a name comes twice or an entry fails.
-/
namespace TemplateBatch

open Worker

namespace Stub

namespace Entry

/-- Rendering the entry gives the text `s`. -/
def Gives (e : Entry) (s : String) : Prop := e.render = .text s

/-- Rendering the entry gives no text. -/
def Fails (e : Entry) : Prop := ∀ s, ¬ e.Gives s

end Entry

namespace Manifest

theorem outcome_of_gives (e : Entry) (s : String) (h : e.Gives s) :
    outcome e = (Library.statusOk, s) := by
  have hrender : e.render = .text s := h
  rw [outcome, hrender]

/-- A failure of any kind, a panic among them, becomes a status and a message. -/
theorem outcome_of_fails (e : Entry) (h : e.Fails) :
    outcome e = (Library.statusFailed, (outcome e).2) := by
  cases hrender : e.render with
  | text s => exact absurd hrender (h s)
  | failure message => rw [outcome, hrender]
  | panicked p => rw [outcome, hrender]

/-- The calls of `l` number the entries `defined` in order. -/
structure Exposes (defined : List Entry) (l : LoadedModule) : Prop where
  count_eq : l.count = defined.length
  name_eq : ∀ i e, defined[i]? = some e → l.name i = some (Text.Utf8.encode e.name)
  given : ∀ i e s, defined[i]? = some e → e.Gives s →
    l.render i = ⟨Library.statusOk, some (Text.Utf8.encode s)⟩
  failed : ∀ i e, defined[i]? = some e → e.Fails →
    ∃ message, l.render i = ⟨Library.statusFailed, some (Text.Utf8.encode message)⟩
  beyond : ∀ i, defined.length ≤ i →
    l.name i = none ∧ (l.render i).status = Library.statusNoSuchTemplate

/-- The worker loads the module of any manifest, and finds its defined entries. -/
theorem ofLibrary_library (m : Manifest) (p : Path) :
    ∃ l, LoadedModule.ofLibrary p m.library = .ok l ∧ Exposes (m.filter Entry.defined) l := by
  refine ⟨_, rfl, rfl, ?_, ?_, ?_, ?_⟩
  · intro i e he
    simp only [name?, listed, he, Option.map_some]
  · intro i e s he hs
    simp only [render, listed, he, outcome_of_gives e s hs]
  · intro i e he hfails
    refine ⟨(outcome e).2, ?_⟩
    simp only [render, listed, he]
    rw [outcome_of_fails e hfails]
  · intro i hi
    simp only [name?, render, listed, List.getElem?_eq_none hi, Option.map_none, and_self]

namespace Exposes
variable {defined : List Entry} {l : LoadedModule} (h : Exposes defined l)
include h

theorem name?_eq (i : ℕ) : i < (defined.map Entry.name).length →
    l.name? i = (defined.map Entry.name)[i]? := by
  intro hi
  rw [List.length_map] at hi
  have he := List.getElem?_eq_getElem hi
  rw [LoadedModule.name?, h.name_eq i defined[i] he, List.getElem?_map, he]
  exact Text.Utf8.decode?_encode _

theorem count_eq_names : l.count = (defined.map Entry.name).length := by
  rw [h.count_eq, List.length_map]

theorem renders_of_gives (i : ℕ) (e : Entry) (s : String) (he : defined[i]? = some e)
    (hs : e.Gives s) : l.Renders i := by
  rw [LoadedModule.Renders, h.given i e s he hs]

theorem not_renders_of_fails (i : ℕ) (e : Entry) (he : defined[i]? = some e) (hfails : e.Fails) :
    ¬ l.Renders i := by
  obtain ⟨message, hmessage⟩ := h.failed i e he hfails
  have hstatus : Library.statusFailed ≠ Library.statusOk := by decide
  rw [LoadedModule.Renders, hmessage]
  exact hstatus

theorem textOf_of_gives (i : ℕ) (e : Entry) (s : String) (he : defined[i]? = some e)
    (hs : e.Gives s) : LoadedModule.textOf (l.render i) = s := by
  rw [h.given i e s he hs]
  exact Text.Utf8.decodeLossy_encode s

theorem refusal_of_fails (i : ℕ) (e : Entry) (he : defined[i]? = some e) (hfails : e.Fails) :
    l.render i = ⟨Library.statusFailed,
      some (Text.Utf8.encode (LoadedModule.refusal i (l.render i)))⟩ := by
  obtain ⟨message, hmessage⟩ := h.failed i e he hfails
  have hother : Library.statusFailed ≠ Library.statusNoSuchTemplate := by decide
  rw [hmessage]
  simp only [LoadedModule.refusal, hother, if_false, LoadedModule.textOf,
    Text.Utf8.decodeLossy_encode]

theorem names_eq (hnodup : (defined.map Entry.name).Nodup) :
    l.names = .ok (defined.map Entry.name) :=
  LoadedModule.names_of_nodup l _ h.count_eq_names h.name?_eq hnodup

theorem does_renderAll (hnodup : (defined.map Entry.name).Nodup)
    (hall : ∀ e ∈ defined, ∃ s, e.Gives s) :
    ∃ r, l.renderAll.Does (.ok r) (LoadedModule.renderings 0 defined.length) ∧
      List.Forall₂ (fun e item => item.className = e.name ∧ e.Gives item.text) defined r.items := by
  have hrenders : ∀ i, i < (defined.map Entry.name).length → l.Renders i := by
    intro i hi
    rw [List.length_map] at hi
    obtain ⟨s, hs⟩ := hall defined[i] (List.getElem_mem hi)
    exact h.renders_of_gives i _ s (List.getElem?_eq_getElem hi) hs
  have hdoes := LoadedModule.does_renderAll l _ (h.names_eq hnodup) hrenders
  rw [List.length_map] at hdoes
  refine ⟨_, hdoes, List.forall₂_iff_get.mpr ⟨?_, ?_⟩⟩
  · rw [LoadedModule.length_itemsFrom, List.length_map]
  · intro i hi hitem
    have he := List.getElem?_eq_getElem hi
    obtain ⟨s, hs⟩ := hall defined[i] (List.getElem_mem hi)
    have hget := LoadedModule.getElem?_itemsFrom l 0 (defined.map Entry.name) i
    rw [List.getElem?_map, he, Nat.zero_add, h.textOf_of_gives i _ s he hs] at hget
    obtain ⟨_, hitem'⟩ := List.getElem?_eq_some_iff.mp hget
    rw [List.get_eq_getElem, List.get_eq_getElem, hitem']
    exact ⟨rfl, hs⟩

theorem does_renderAll_repeated (hrepeated : ¬ (defined.map Entry.name).Nodup) :
    ∃ before e after, defined = before ++ e :: after ∧ (before.map Entry.name).Nodup ∧
      e.name ∈ before.map Entry.name ∧
      l.renderAll.Does (.error (.duplicateTemplate e.name)) [] := by
  obtain ⟨names, name, rest, hsplit, hnodup, hmem⟩ :=
    LoadedModule.exists_first_repeat _ hrepeated
  obtain ⟨before, tail, hdefined, hbefore, htail⟩ := List.map_eq_append_iff.mp hsplit
  obtain ⟨e, after, rfl, rfl, hafter⟩ := List.map_eq_cons_iff.mp htail
  refine ⟨before, e, after, hdefined, hbefore ▸ hnodup, hbefore ▸ hmem, ?_⟩
  apply LoadedModule.does_renderAll_names_error
  apply LoadedModule.names_of_repeated l names rest e.name
  · rw [← hsplit]
    exact h.count_eq_names
  · rw [← hsplit]
    exact h.name?_eq
  · exact hnodup
  · exact hmem

theorem does_renderAll_failed (hnodup : (defined.map Entry.name).Nodup)
    (hfailed : ¬ ∀ e ∈ defined, ∃ s, e.Gives s) :
    ∃ i e message, defined[i]? = some e ∧ e.Fails ∧
      (∀ j e', j < i → defined[j]? = some e' → ∃ s, e'.Gives s) ∧
      l.render i = ⟨Library.statusFailed, some (Text.Utf8.encode message)⟩ ∧
      l.renderAll.Does (.error (.render e.name message)) (LoadedModule.renderings 0 (i + 1)) := by
  rcases all_or_least (fun i => ∀ e, defined[i]? = some e → ∃ s, e.Gives s) defined.length with
    hall | ⟨i, hi, hbefore, hfail⟩
  · exfalso
    apply hfailed
    intro e he
    obtain ⟨i, hi, rfl⟩ := List.mem_iff_getElem.mp he
    exact hall i hi _ (List.getElem?_eq_getElem hi)
  · have he := List.getElem?_eq_getElem hi
    have hfails : defined[i].Fails := by
      intro s hs
      apply hfail
      intro e he'
      rw [he, Option.some.injEq] at he'
      exact ⟨s, he' ▸ hs⟩
    have hname : (defined.map Entry.name)[i]? = some defined[i].name := by
      rw [List.getElem?_map, he, Option.map_some]
    have hrenders : ∀ j, j < i → l.Renders j := by
      intro j hj
      have he' := List.getElem?_eq_getElem (Nat.lt_trans hj hi)
      obtain ⟨s, hs⟩ := hbefore j hj _ he'
      exact h.renders_of_gives j _ s he' hs
    refine ⟨i, defined[i], LoadedModule.refusal i (l.render i), he, hfails,
      fun j e' hj => hbefore j hj e', h.refusal_of_fails i _ he hfails, ?_⟩
    exact LoadedModule.does_renderAll_error l _ i defined[i].name (h.names_eq hnodup) hname
      hrenders (h.not_renders_of_fails i _ he hfails)

end Exposes

end Manifest
end Stub
end TemplateBatch
