import TemplateBatch.Proofs.Utf8
import TemplateBatch.Worker.Serve
import Mathlib.Data.List.Induction
import Mathlib.Data.List.Nodup
import Mathlib.Tactic.Common

/-!
What each stage of serving a request comes to and which events it adds. A stage never takes back an
event, so that its behaviour is one result and one list of new events, and the behaviours of stages
in sequence compose. A stage that goes through a list either does the whole of it or stops at the
first member that fails.
-/
namespace TemplateBatch.Worker

/-- Members have a property up to the first that has not, if there is one. -/
theorem all_or_first {α : Type} (P : α → Prop) (xs : List α) :
    (∀ x ∈ xs, P x) ∨
      ∃ before x after, xs = before ++ x :: after ∧ (∀ y ∈ before, P y) ∧ ¬ P x := by
  classical
  induction xs with
  | nil => exact Or.inl (by simp)
  | cons x xs ih =>
    by_cases hx : P x
    · rcases ih with hall | ⟨before, y, after, rfl, hbefore, hy⟩
      · exact Or.inl (List.forall_mem_cons.mpr ⟨hx, hall⟩)
      · exact Or.inr ⟨x :: before, y, after, rfl, List.forall_mem_cons.mpr ⟨hx, hbefore⟩, hy⟩
    · exact Or.inr ⟨[], x, xs, rfl, by simp, hx⟩

theorem all_or_least (P : ℕ → Prop) (n : ℕ) :
    (∀ i, i < n → P i) ∨ ∃ k, k < n ∧ (∀ i, i < k → P i) ∧ ¬ P k := by
  induction n with
  | zero => exact Or.inl fun i hi => absurd hi (Nat.not_lt_zero i)
  | succ n ih =>
    rcases ih with hall | ⟨k, hk, hbefore, hfail⟩
    · by_cases hn : P n
      · left
        intro i hi
        rcases Nat.lt_succ_iff_lt_or_eq.mp hi with hlt | rfl
        · exact hall i hlt
        · exact hn
      · exact Or.inr ⟨n, Nat.lt_succ_self n, hall, hn⟩
    · exact Or.inr ⟨k, Nat.lt_succ_of_lt hk, hbefore, hfail⟩

namespace Noted

variable {α β : Type}

/-- From whatever happened before, `x` comes to `r` and adds `events`. -/
def Does (x : Noted α) (r : Except WorkerError α) (events : List Event) : Prop :=
  ∀ before, ExceptT.run x before = (r, before ++ events)

theorem does_pure (a : α) : Does (pure a) (.ok a) [] := by
  intro before
  rw [List.append_nil]
  rfl

theorem does_throw (e : WorkerError) : Does (throw e : Noted α) (.error e) [] := by
  intro before
  rw [List.append_nil]
  rfl

theorem does_ofExcept (r : Except WorkerError α) : Does (ofExcept r) r [] := by
  cases r with
  | error e => exact does_throw e
  | ok a => exact does_pure a

theorem does_ofExcept_of_eq {r s : Except WorkerError α} (h : r = s) :
    Does (ofExcept r) s [] :=
  h ▸ does_ofExcept r

theorem does_note (e : Event) : Does (note e) (.ok ()) [e] := by
  intro before
  rfl

theorem does_bind {x : Noted α} {f : α → Noted β} {a : α} {r : Except WorkerError β}
    {first second : List Event} (hx : x.Does (.ok a) first) (hf : (f a).Does r second) :
    (x >>= f).Does r (first ++ second) := by
  intro before
  have hstep : ExceptT.run (x >>= f) before = ExceptT.run (f a) (before ++ first) := by
    change ExceptT.bindCont f (ExceptT.run x before).1 (ExceptT.run x before).2 = _
    rw [hx before]
    rfl
  rw [hstep, hf (before ++ first), List.append_assoc]

theorem does_bind_error {x : Noted α} {f : α → Noted β} {e : WorkerError} {events : List Event}
    (hx : x.Does (.error e) events) : (x >>= f).Does (.error e) events := by
  intro before
  change ExceptT.bindCont f (ExceptT.run x before).1 (ExceptT.run x before).2 = _
  rw [hx before]
  rfl

end Noted

section Opening
variable (words : Wording) (loader : Loader) (t : FileTree) (base : Location)

theorem requireFiles_ok (ps : List Path) (hps : ∀ p ∈ ps, t.isFile base p = true) :
    requireFiles t base ps = .ok () := by
  induction ps with
  | nil => rfl
  | cons p ps ih =>
    rw [List.forall_mem_cons] at hps
    simp only [requireFiles, hps.1, if_true, ih hps.2]

theorem requireFiles_error (before after : List Path) (p : Path)
    (hbefore : ∀ q ∈ before, t.isFile base q = true) (hp : t.isFile base p = false) :
    requireFiles t base (before ++ p :: after) = .error (.fileNotFound p) := by
  induction before with
  | nil => simp [requireFiles, hp]
  | cons q before ih =>
    rw [List.forall_mem_cons] at hbefore
    simp only [List.cons_append, requireFiles, hbefore.1, if_true, ih hbefore.2]

/-- The library under `p` can be opened. -/
def Opens (p : Path) : Prop := ∃ l, findLibrary loader t base p = some l

theorem does_openLibrary (p : Path) (l : Library)
    (hl : findLibrary loader t base p = some l) :
    (openLibrary words loader t base p).Does (.ok l) [.opened p] := by
  simp only [openLibrary, hl]
  exact Noted.does_bind (Noted.does_note (.opened p)) (Noted.does_pure l)

theorem does_openLibrary_error (p : Path) (hp : ¬ Opens loader t base p) :
    (openLibrary words loader t base p).Does (.error (.load p (words.library p))) [] := by
  have hnone : findLibrary loader t base p = none := by
    cases h : findLibrary loader t base p with
    | none => rfl
    | some l => exact absurd ⟨l, h⟩ hp
  simp only [openLibrary, hnone]
  exact Noted.does_throw _

theorem does_openAll (ps : List Path) (hps : ∀ p ∈ ps, Opens loader t base p) :
    (openAll words loader t base ps).Does (.ok ()) (ps.map .opened) := by
  induction ps with
  | nil => exact Noted.does_pure ()
  | cons p ps ih =>
    rw [List.forall_mem_cons] at hps
    obtain ⟨l, hl⟩ := hps.1
    exact Noted.does_bind (does_openLibrary words loader t base p l hl) (ih hps.2)

/-- Those before the first library that cannot be opened have been opened, and no other. -/
theorem does_openAll_error (before after : List Path) (p : Path)
    (hbefore : ∀ q ∈ before, Opens loader t base q) (hp : ¬ Opens loader t base p) :
    (openAll words loader t base (before ++ p :: after)).Does
      (.error (.load p (words.library p))) (before.map .opened) := by
  induction before with
  | nil => exact Noted.does_bind_error (does_openLibrary_error words loader t base p hp)
  | cons q before ih =>
    rw [List.forall_mem_cons] at hbefore
    obtain ⟨l, hl⟩ := hbefore.1
    exact Noted.does_bind (does_openLibrary words loader t base q l hl) (ih hbefore.2)

theorem does_openModule (p : Path) (l : Library) (hl : findLibrary loader t base p = some l) :
    (openModule words loader t base p).Does (LoadedModule.ofLibrary p l) [.opened p] := by
  change (openModule words loader t base p).Does _ ([.opened p] ++ [])
  exact Noted.does_bind (does_openLibrary words loader t base p l hl) (Noted.does_ofExcept _)

theorem does_openModule_error (p : Path) (hp : ¬ Opens loader t base p) :
    (openModule words loader t base p).Does (.error (.load p (words.library p))) [] :=
  Noted.does_bind_error (does_openLibrary_error words loader t base p hp)

end Opening

namespace LoadedModule

/-- A library is taken for a module only if it has the supported version and all calls. -/
theorem ofLibrary_ok (p : Path) (library : Library) (l : LoadedModule)
    (h : ofLibrary p library = .ok l) :
    library = ⟨some Library.supportedVersion, some l.count, some l.name, some l.render, true⟩ := by
  obtain ⟨version, count, name, render, release⟩ := library
  cases version with
  | none => simp [ofLibrary] at h
  | some found =>
    by_cases hfound : found = Library.supportedVersion
    · subst hfound
      cases count <;> cases name <;> cases render <;> cases release <;>
        simp [ofLibrary] at h
      subst h
      rfl
    · simp [ofLibrary, hfound] at h

/-- `names` are those of all templates, in order and each once. -/
structure Named (l : LoadedModule) (names : List String) : Prop where
  length_eq : names.length = l.count
  nodup : names.Nodup
  name?_eq : ∀ i, i < l.count → l.name? i = names[i]?

/-- What reading names comes to, when `seen` came before them. -/
theorem namesFrom_ok (l : LoadedModule) (left index : ℕ) (seen names : List String)
    (hseen : seen.Nodup) (h : l.namesFrom left index seen = .ok names) :
    ∃ more, names = seen ++ more ∧ more.length = left ∧ names.Nodup ∧
      ∀ i, i < left → l.name? (index + i) = more[i]? := by
  induction left generalizing index seen with
  | zero =>
    simp only [namesFrom, Except.ok.injEq] at h
    subst h
    exact ⟨[], by simp, rfl, hseen, fun i hi => absurd hi (Nat.not_lt_zero i)⟩
  | succ left ih =>
    rw [namesFrom] at h
    cases hname : l.name? index with
    | none => simp [hname] at h
    | some name =>
      by_cases hmem : name ∈ seen
      · simp [hname, hmem] at h
      · have hseen' : (seen ++ [name]).Nodup := by
          rw [List.nodup_append_comm]
          exact List.nodup_cons.mpr ⟨hmem, hseen⟩
        simp only [hname, List.contains_eq_mem, hmem, decide_false, Bool.false_eq_true,
          if_false] at h
        obtain ⟨more, hnames, hlength, hnodup, hmore⟩ := ih (index + 1) (seen ++ [name]) hseen' h
        refine ⟨name :: more, by simp [hnames], by simp [hlength], hnodup, ?_⟩
        intro i hi
        cases i with
        | zero => simpa using hname
        | succ i =>
          have hi' := hmore i (by omega)
          simpa [Nat.add_assoc, Nat.add_comm 1] using hi'

theorem named_of_names (l : LoadedModule) (names : List String) (h : l.names = .ok names) :
    l.Named names := by
  obtain ⟨more, hnames, hlength, hnodup, hmore⟩ :=
    namesFrom_ok l l.count 0 [] names List.nodup_nil h
  rw [List.nil_append] at hnames
  subst hnames
  exact ⟨hlength, hnodup, fun i hi => by simpa using hmore i hi⟩

theorem namesFrom_append (l : LoadedModule) (left index : ℕ) (seen more : List String)
    (hmore : ∀ i, i < more.length → l.name? (index + i) = more[i]?)
    (hnodup : (seen ++ more).Nodup) :
    l.namesFrom (more.length + left) index seen =
      l.namesFrom left (index + more.length) (seen ++ more) := by
  induction more generalizing index seen with
  | nil => simp
  | cons name more ih =>
    have hname : l.name? index = some name := by simpa using hmore 0 (Nat.succ_pos _)
    have hsplit : seen ++ name :: more = (seen ++ [name]) ++ more := by simp
    have hmem : name ∉ seen := by
      intro h
      exact (List.nodup_append.mp hnodup).2.2 name h name List.mem_cons_self rfl
    have hrest := ih (index + 1) (seen ++ [name])
      (fun i hi => by
        rw [show index + 1 + i = index + (i + 1) by omega, hmore (i + 1) (Nat.succ_lt_succ hi)]
        rfl)
      (hsplit ▸ hnodup)
    rw [hsplit, List.length_cons, show more.length + 1 + left = more.length + left + 1 by omega,
      show index + (more.length + 1) = index + 1 + more.length by omega, ← hrest, namesFrom]
    simp only [hname, List.contains_eq_mem, hmem, decide_false, Bool.false_eq_true, if_false]

theorem names_of_nodup (l : LoadedModule) (names : List String) (hcount : l.count = names.length)
    (hnames : ∀ i, i < names.length → l.name? i = names[i]?) (hnodup : names.Nodup) :
    l.names = .ok names := by
  have h := namesFrom_append l 0 0 [] names (by simpa using hnames) (by simpa using hnodup)
  rw [LoadedModule.names, hcount]
  simpa [namesFrom] using h

theorem names_of_repeated (l : LoadedModule) (before after : List String) (name : String)
    (hcount : l.count = (before ++ name :: after).length)
    (hnames : ∀ i, i < (before ++ name :: after).length →
      l.name? i = (before ++ name :: after)[i]?)
    (hnodup : before.Nodup) (hmem : name ∈ before) :
    l.names = .error (.duplicateTemplate name) := by
  have hbefore : ∀ i, i < before.length → l.name? (0 + i) = before[i]? := by
    intro i hi
    rw [Nat.zero_add, hnames i (by rw [List.length_append]; omega), List.getElem?_append_left hi]
  have h := namesFrom_append l (after.length + 1) 0 [] before hbefore (by simpa using hnodup)
  have hname : l.name? before.length = some name := by
    rw [hnames before.length (by simp), List.getElem?_append_right (Nat.le_refl _)]
    simp
  rw [names, hcount, List.length_append, List.length_cons, h, List.nil_append, Nat.zero_add,
    namesFrom]
  simp [hname, hmem]

theorem exists_first_repeat {α : Type} (xs : List α) (h : ¬ xs.Nodup) :
    ∃ before x after, xs = before ++ x :: after ∧ before.Nodup ∧ x ∈ before := by
  induction xs using List.reverseRecOn with
  | nil => exact absurd List.nodup_nil h
  | append_singleton xs x ih =>
    by_cases hxs : xs.Nodup
    · refine ⟨xs, x, [], rfl, hxs, ?_⟩
      by_contra hx
      apply h
      rw [List.nodup_append_comm]
      exact List.nodup_cons.mpr ⟨hx, hxs⟩
    · obtain ⟨before, y, after, rfl, hbefore, hy⟩ := ih hxs
      exact ⟨before, y, after ++ [x], by simp, hbefore, hy⟩

/-- Templates rendered one after the other, each outcome released before the next is made. -/
def renderings (index count : ℕ) : List Event :=
  (List.range' index count).flatMap fun i => [.rendered i, .released i]

theorem renderings_succ (index count : ℕ) :
    renderings index (count + 1) =
      [.rendered index, .released index] ++ renderings (index + 1) count := by
  rw [renderings, List.range'_succ, List.flatMap_cons]
  rfl

def Renders (l : LoadedModule) (index : ℕ) : Prop := (l.render index).status = Library.statusOk

/-- What is told about an outcome whose status is not the good one. -/
def refusal (index : ℕ) (r : Rendered) : String :=
  if r.status = Library.statusNoSuchTemplate then
    "module has no template at index " ++ toString index
  else textOf r

def itemsFrom (l : LoadedModule) : ℕ → List String → List RenderedItem
  | _, [] => []
  | index, name :: names =>
    ⟨name, textOf (l.render index)⟩ :: itemsFrom l (index + 1) names

theorem length_itemsFrom (l : LoadedModule) (index : ℕ) (names : List String) :
    (l.itemsFrom index names).length = names.length := by
  induction names generalizing index with
  | nil => rfl
  | cons name names ih => rw [itemsFrom, List.length_cons, List.length_cons, ih]

theorem getElem?_itemsFrom (l : LoadedModule) (index : ℕ) (names : List String) (i : ℕ) :
    (l.itemsFrom index names)[i]? =
      names[i]?.map fun name => ⟨name, textOf (l.render (index + i))⟩ := by
  induction names generalizing index i with
  | nil => rfl
  | cons name names ih =>
    cases i with
    | zero => rfl
    | succ i =>
      have hindex : index + 1 + i = index + (i + 1) := by omega
      simp only [itemsFrom, List.getElem?_cons_succ, ih, hindex]

variable (l : LoadedModule)

theorem does_renderOne (index : ℕ) (name : String) :
    (l.renderOne index name).Does (judge index name (l.render index))
      [.rendered index, .released index] := by
  change (l.renderOne index name).Does _ ([.rendered index] ++ ([.released index] ++ []))
  exact Noted.does_bind (Noted.does_note _)
    (Noted.does_bind (Noted.does_note _) (Noted.does_ofExcept _))

theorem judge_ok (index : ℕ) (name : String) (h : l.Renders index) :
    judge index name (l.render index) = .ok (textOf (l.render index)) := by
  have hstatus : (l.render index).status = Library.statusOk := h
  simp only [judge, hstatus, if_true]

theorem judge_error (index : ℕ) (name : String) (h : ¬ l.Renders index) :
    judge index name (l.render index) =
      .error (.render name (refusal index (l.render index))) := by
  have hstatus : (l.render index).status ≠ Library.statusOk := h
  by_cases hnone : (l.render index).status = Library.statusNoSuchTemplate
  · have hne : Library.statusNoSuchTemplate ≠ Library.statusOk := by decide
    simp only [judge, refusal, hnone, hne, if_true, if_false]
  · simp only [judge, refusal, hstatus, hnone, if_false]

theorem does_renderFrom (index : ℕ) (names : List String) (done : Response)
    (hall : ∀ i, i < names.length → l.Renders (index + i)) :
    (l.renderFrom index names done).Does (.ok ⟨done.items ++ l.itemsFrom index names⟩)
      (renderings index names.length) := by
  induction names generalizing index done with
  | nil =>
    rw [itemsFrom, List.append_nil]
    exact Noted.does_pure done
  | cons name names ih =>
    have hone := does_renderOne l index name
    rw [judge_ok l index name (hall 0 (Nat.succ_pos _))] at hone
    have hrest := ih (index + 1) (done.push name (textOf (l.render index))) fun i hi => by
      rw [show index + 1 + i = index + (i + 1) by omega]
      exact hall (i + 1) (Nat.succ_lt_succ hi)
    have hitems : (done.push name (textOf (l.render index))).items ++
        l.itemsFrom (index + 1) names = done.items ++ l.itemsFrom index (name :: names) := by
      simp [Response.push, itemsFrom]
    rw [hitems] at hrest
    rw [List.length_cons, renderings_succ]
    exact Noted.does_bind hone hrest

/-- The first outcome that is no text ends it; what lies behind it is not rendered. -/
theorem does_renderFrom_error (index k : ℕ) (names : List String) (name : String) (done : Response)
    (hname : names[k]? = some name) (hbefore : ∀ i, i < k → l.Renders (index + i))
    (hk : ¬ l.Renders (index + k)) :
    (l.renderFrom index names done).Does
      (.error (.render name (refusal (index + k) (l.render (index + k)))))
      (renderings index (k + 1)) := by
  induction k generalizing index names done with
  | zero =>
    cases names with
    | nil => simp at hname
    | cons first names =>
      obtain rfl : first = name := by simpa using hname
      have hone := does_renderOne l index first
      rw [judge_error l index first hk] at hone
      exact Noted.does_bind_error hone
  | succ k ih =>
    cases names with
    | nil => simp at hname
    | cons first names =>
      have hone := does_renderOne l index first
      rw [judge_ok l index first (hbefore 0 (Nat.succ_pos _))] at hone
      have hindex : ∀ i, index + 1 + i = index + (i + 1) := by
        intro i
        omega
      have hrest := ih (index + 1) names (done.push first (textOf (l.render index)))
        (by simpa using hname)
        (fun i hi => by rw [hindex]; exact hbefore (i + 1) (Nat.succ_lt_succ hi))
        (by rwa [hindex])
      rw [hindex] at hrest
      rw [renderings_succ]
      exact Noted.does_bind hone hrest

theorem does_renderAll_names_error (e : WorkerError) (h : l.names = .error e) :
    l.renderAll.Does (.error e) [] :=
  Noted.does_bind_error (Noted.does_ofExcept_of_eq h)

theorem does_renderAll (names : List String) (hnames : l.names = .ok names)
    (hall : ∀ i, i < names.length → l.Renders i) :
    l.renderAll.Does (.ok ⟨l.itemsFrom 0 names⟩) (renderings 0 names.length) := by
  have hread := Noted.does_ofExcept_of_eq hnames
  have hrender := does_renderFrom l 0 names .empty (by simpa using hall)
  change l.renderAll.Does _ ([] ++ renderings 0 names.length)
  exact Noted.does_bind hread hrender

theorem does_renderAll_error (names : List String) (k : ℕ) (name : String)
    (hnames : l.names = .ok names) (hname : names[k]? = some name)
    (hbefore : ∀ i, i < k → l.Renders i) (hk : ¬ l.Renders k) :
    l.renderAll.Does (.error (.render name (refusal k (l.render k)))) (renderings 0 (k + 1)) := by
  have hread := Noted.does_ofExcept_of_eq hnames
  have hrender := does_renderFrom_error l 0 k names name .empty hname (by simpa using hbefore)
    (by simpa using hk)
  rw [Nat.zero_add] at hrender
  change l.renderAll.Does _ ([] ++ renderings 0 (k + 1))
  exact Noted.does_bind hread hrender

end LoadedModule
end TemplateBatch.Worker
