import TemplateBatch.CommandLine.Render
import TemplateBatch.Proofs.WorkResults

/-!
The templates among the files of a list. All files are read, one after the other, before their names
are looked at. So a file that is no template by its name adds nothing to the templates, but like any
other it must be a text: where it is not, the whole list is refused for it, unless a file in front
of it is refused already.
-/
namespace TemplateBatch

/-- The name alone keeps the file from being a template: its extension is another one or none at
all, or it starts with an underscore. -/
def Path.IsOther (p : Path) (extension : String) : Prop :=
  (∀ e, p.extension? = some e → Text.lowerAscii e ≠ Text.lowerAscii extension) ∨
    ∃ name, p.fileName? = some name ∧ name.toList.head? = some '_'

theorem Path.extension?_of_fileName? {p : Path} (h : p.fileName? = none) : p.extension? = none := by
  have hchars : p.fileNameChars? = none := Option.map_eq_none_iff.mp h
  rw [extension?, hchars]

/-- These are the files that are no templates whatever they hold. -/
theorem Path.isOther_iff (p : Path) (extension : String) :
    p.IsOther extension ↔ ∀ text, isTemplateCandidate p text extension = false := by
  constructor
  · rintro (hextension | ⟨name, hname, hhead⟩) text
    · cases he : p.extension? with
      | none => simp [isTemplateCandidate, he]
      | some e => simp [isTemplateCandidate, he, hextension e he]
    · simp [isTemplateCandidate, hname, hhead]
  · intro h
    by_contra hother
    rw [IsOther, not_or] at hother
    obtain ⟨hextension, hname⟩ := hother
    push Not at hextension hname
    obtain ⟨e, he, hsame⟩ := hextension
    cases hfile : p.fileName? with
    | none =>
      rw [extension?_of_fileName? hfile] at he
      cases he
    | some name =>
      have hcandidate := h "x"
      have hblank : Text.isBlankText "x" = false := by decide
      simp [isTemplateCandidate, he, hsame, hfile, hname name hfile, hblank] at hcandidate

namespace CommandLine

section Reading
variable (t : FileTree) (base : Location)

/-- The file is there and what it holds is a text. -/
def IsReadable (p : Path) : Prop := ∃ text, t.readText base p = .ok text

/-- Why the list is refused for a file, if it is. -/
def refusal? (p : Path) : Option Failure :=
  match t.readText base p with
  | .ok _ => none
  | .error e => some (.template p e)

/-- The template that a file is, if it is one. -/
def template? (extension : String) (p : Path) : Option Template :=
  match t.readText base p with
  | .ok text =>
    if isTemplateCandidate p text extension then some (.ofCode p.text text) else none
  | .error _ => none

/-- What the files of a list come to. -/
def templatesOf (extension : String) (files : List Path) : Except Failure (List Template) :=
  match files.findSome? (refusal? t base) with
  | some failure => .error failure
  | none => .ok (files.filterMap (template? t base extension))

variable {t base}

theorem refusal?_eq_none_iff {p : Path} : refusal? t base p = none ↔ IsReadable t base p := by
  rw [refusal?, IsReadable]
  cases t.readText base p with
  | ok text => simp
  | error e => simp

theorem refusal?_of_error {p : Path} {e : SystemError} (h : t.readText base p = .error e) :
    refusal? t base p = some (.template p e) := by
  rw [refusal?, h]

theorem path_of_refusal? {p q : Path} (h : refusal? t base p = refusal? t base q)
    (hp : ¬ IsReadable t base p) : p = q := by
  cases hread : t.readText base p with
  | ok text => exact absurd ⟨text, hread⟩ hp
  | error e =>
    rw [refusal?_of_error hread] at h
    cases hother : t.readText base q with
    | ok text => simp [refusal?, hother] at h
    | error e' =>
      rw [refusal?_of_error hother, Option.some.injEq, Failure.template.injEq] at h
      exact h.1

theorem template?_of_isOther {extension : String} {p : Path} (h : p.IsOther extension) :
    template? t base extension p = none := by
  rw [template?]
  split
  · next text _ => rw [(p.isOther_iff extension).mp h text, if_neg Bool.false_ne_true]
  · rfl

end Reading

theorem run_loadTemplates (m : Machine) (extension : String) (files : List Path) (w : World) :
    ExceptT.run (loadTemplates m extension files) w =
      (templatesOf w.tree m.directory extension files, w) := by
  induction files with
  | nil => rfl
  | cons p files ih =>
    rw [loadTemplates, Work.run_bind, Work.run_reading, templatesOf, List.findSome?_cons, refusal?]
    cases hread : w.tree.readText m.directory p with
    | error e => rfl
    | ok text =>
      simp only [Except.mapError]
      rw [Work.run_bind, ih, templatesOf]
      cases files.findSome? (refusal? w.tree m.directory) with
      | some failure => rfl
      | none =>
        have htemplate : template? w.tree m.directory extension p =
            if isTemplateCandidate p text extension then some (.ofCode p.text text) else none := by
          rw [template?, hread]
        by_cases hcandidate : isTemplateCandidate p text extension = true
        · simp [hcandidate, htemplate, Work.run_pure]
        · simp [hcandidate, htemplate, Work.run_pure]

section Insertion
variable {t : FileTree} {base : Location} {extension : String} {p : Path}

theorem findSome?_refusal?_eq_none_iff {files : List Path} :
    files.findSome? (refusal? t base) = none ↔ ∀ q ∈ files, IsReadable t base q := by
  simp only [List.findSome?_eq_none_iff, refusal?_eq_none_iff]

/-- The first file that is refused is `p`, unless `p` is not among the files at all. -/
theorem findSome?_eq_refusal?_iff {files : List Path} (hp : ¬ IsReadable t base p) :
    files.findSome? (refusal? t base) = refusal? t base p ↔
      ∃ front back, files = front ++ p :: back ∧ ∀ q ∈ front, IsReadable t base q := by
  cases hrefusal : refusal? t base p with
  | none => exact absurd (refusal?_eq_none_iff.mp hrefusal) hp
  | some failure =>
    rw [List.findSome?_eq_some_iff]
    constructor
    · rintro ⟨front, q, back, hfiles, hq, hfront⟩
      obtain rfl : p = q := path_of_refusal? (hrefusal.trans hq.symm) hp
      exact ⟨front, back, hfiles, fun q hq => refusal?_eq_none_iff.mp (hfront q hq)⟩
    · rintro ⟨front, back, hfiles, hfront⟩
      exact ⟨front, p, back, hfiles, hrefusal, fun q hq => refusal?_eq_none_iff.mpr (hfront q hq)⟩

theorem templatesOf_insert_of_isReadable (hother : p.IsOther extension)
    (hp : IsReadable t base p) (before after : List Path) :
    templatesOf t base extension (before ++ p :: after) =
      templatesOf t base extension (before ++ after) := by
  have hnone := refusal?_eq_none_iff.mpr hp
  rw [templatesOf, templatesOf, List.findSome?_append, List.findSome?_append, List.findSome?_cons,
    hnone, List.filterMap_append, List.filterMap_append,
    List.filterMap_cons_none (template?_of_isOther hother)]

/-- Behind a file that is refused nothing matters. -/
theorem templatesOf_append_of_refused {before : List Path} (files : List Path)
    (h : ∃ q ∈ before, ¬ IsReadable t base q) :
    templatesOf t base extension (before ++ files) = templatesOf t base extension before := by
  obtain ⟨q, hq, hrefused⟩ := h
  rw [templatesOf, templatesOf, List.findSome?_append]
  cases hbefore : before.findSome? (refusal? t base) with
  | none => exact absurd (findSome?_refusal?_eq_none_iff.mp hbefore q hq) hrefused
  | some failure => rfl

/-- Behind files that are all texts, a list is refused as it is without them. -/
theorem templatesOf_append_eq_error_iff {before files : List Path} {failure : Failure}
    (h : ∀ q ∈ before, IsReadable t base q) :
    templatesOf t base extension (before ++ files) = .error failure ↔
      files.findSome? (refusal? t base) = some failure := by
  rw [templatesOf, List.findSome?_append, findSome?_refusal?_eq_none_iff.mpr h, Option.none_or]
  cases files.findSome? (refusal? t base) with
  | none => simp
  | some other => simp

theorem templatesOf_insert_of_error {e : SystemError} {before : List Path} (after : List Path)
    (hp : t.readText base p = .error e) (h : ∀ q ∈ before, IsReadable t base q) :
    templatesOf t base extension (before ++ p :: after) = .error (.template p e) := by
  rw [templatesOf_append_eq_error_iff h, List.findSome?_cons, refusal?_of_error hp]

theorem templatesOf_insert_iff (hother : p.IsOther extension) (before after : List Path) :
    templatesOf t base extension (before ++ p :: after) =
        templatesOf t base extension (before ++ after) ↔
      IsReadable t base p ∨ (∃ q ∈ before, ¬ IsReadable t base q) ∨
        ∃ front back, after = front ++ p :: back ∧ ∀ q ∈ front, IsReadable t base q := by
  by_cases hp : IsReadable t base p
  · exact iff_of_true (templatesOf_insert_of_isReadable hother hp before after) (Or.inl hp)
  by_cases hrefused : ∃ q ∈ before, ¬ IsReadable t base q
  · refine iff_of_true ?_ (Or.inr (Or.inl hrefused))
    rw [templatesOf_append_of_refused _ hrefused, templatesOf_append_of_refused _ hrefused]
  -- Now the longer list is refused for `p`, so the question is when the shorter one is, too.
  have hbefore : ∀ q ∈ before, IsReadable t base q := by
    push Not at hrefused
    exact hrefused
  obtain ⟨e, he⟩ : ∃ e, t.readText base p = .error e := by
    cases hread : t.readText base p with
    | ok text => exact absurd ⟨text, hread⟩ hp
    | error e => exact ⟨e, rfl⟩
  rw [templatesOf_insert_of_error after he hbefore, eq_comm,
    templatesOf_append_eq_error_iff hbefore, ← refusal?_of_error he,
    findSome?_eq_refusal?_iff hp]
  exact ⟨fun h => Or.inr (Or.inr h), fun h => (h.resolve_left hp).resolve_left hrefused⟩

end Insertion

/-- A file that is no template by its name may stand anywhere in a list without a trace exactly when
it is a text, when a file in front of it is not, or when the list is refused for it as it is. In all
other cases the list with it is refused for it. -/
theorem loadTemplates_insert_iff (m : Machine) (w : World) {extension : String} {p : Path}
    (hother : p.IsOther extension) (before after : List Path) :
    (ExceptT.run (loadTemplates m extension (before ++ p :: after)) w =
        ExceptT.run (loadTemplates m extension (before ++ after)) w ↔
      IsReadable w.tree m.directory p ∨ (∃ q ∈ before, ¬ IsReadable w.tree m.directory q) ∨
        ∃ front back, after = front ++ p :: back ∧
          ∀ q ∈ front, IsReadable w.tree m.directory q) ∧
    ∀ e, w.tree.readText m.directory p = .error e →
      (∀ q ∈ before, IsReadable w.tree m.directory q) →
      ExceptT.run (loadTemplates m extension (before ++ p :: after)) w =
        (.error (.template p e), w) := by
  constructor
  · rw [run_loadTemplates, run_loadTemplates, ← templatesOf_insert_iff hother before after]
    exact ⟨congrArg Prod.fst, fun h => congrArg (·, w) h⟩
  · intro e he hbefore
    rw [run_loadTemplates, templatesOf_insert_of_error after he hbefore]

namespace Listed

def machine : Machine where
  directory := []
  executable := ⟨"/r"⟩
  environment := []
  temporary := ⟨"/"⟩
  program := fun _ => .error .badFormat

/-- The picture holds octets that are no text. -/
def world : World where
  tree := ⟨[(["p.rtpl"], .file [120] 0o644), (["notes.txt"], .file [121] 0o644),
    (["logo.png"], .file [0x89, 0x50] 0o644)]⟩

def page : Path := ⟨"p.rtpl"⟩

def notes : Path := ⟨"notes.txt"⟩

def logo : Path := ⟨"logo.png"⟩

end Listed

/-- Notes among the files leave no trace, and a picture ends the list. -/
theorem loadTemplates_insert_iff_sample :
    Listed.notes.IsOther "rtpl" ∧
    ExceptT.run (loadTemplates Listed.machine "rtpl" [Listed.page, Listed.notes]) Listed.world =
      ExceptT.run (loadTemplates Listed.machine "rtpl" [Listed.page]) Listed.world := by
  have hother : Listed.notes.IsOther "rtpl" := by
    refine Or.inl fun e he => ?_
    obtain rfl : "txt" = e := Option.some.inj he
    decide
  have htext : IsReadable Listed.world.tree [] Listed.notes := ⟨"y", by decide +kernel⟩
  exact ⟨hother, (loadTemplates_insert_iff Listed.machine Listed.world hother
    [Listed.page] []).1.mpr (Or.inl htext)⟩

/-- A picture is no template by its name, and still a list that is read without it is refused as
soon as it is there. -/
theorem list_refused_for_picture :
    (∀ text, isTemplateCandidate Listed.logo text "rtpl" = false) ∧
    ExceptT.run (loadTemplates Listed.machine "rtpl" [Listed.page]) Listed.world =
      (.ok [.ofCode "p.rtpl" "x"], Listed.world) ∧
    ExceptT.run (loadTemplates Listed.machine "rtpl" [Listed.page, Listed.logo]) Listed.world =
      (.error (.template Listed.logo .notText), Listed.world) := by
  refine ⟨?_, ?_, ?_⟩
  · rw [← Path.isOther_iff]
    refine Or.inl fun e he => ?_
    obtain rfl : "png" = e := Option.some.inj he
    decide
  · rw [run_loadTemplates]
    exact congrArg (·, Listed.world) (by decide +kernel)
  · rw [run_loadTemplates]
    exact congrArg (·, Listed.world) (by decide +kernel)

end CommandLine
end TemplateBatch
