import TemplateBatch.Proofs.ReportedPlaces
import TemplateBatch.Proofs.RuntimeSearch

/-!
Which shared standard library a worker takes. Its directories are searched in order, those of its
configuration first, and the first one in which a library stands ends the search. A directory that
is missing or cannot be read is passed over, and where none has a library all of them are told.
-/
namespace TemplateBatch

theorem Path.endsIn_join (p : Path) {name : String} (h : IsName name) :
    (p.join name).EndsIn name := by
  rw [EndsIn, components_join p h, List.getLast?_concat]

theorem isName_of_isSharedStandardLibrary {name : String} (hseparator : '/' ∉ name.toList)
    (h : isSharedStandardLibrary name = true) : Path.IsName name := by
  refine ⟨hseparator, 's', ?_, by decide⟩
  rw [isSharedStandardLibrary, Bool.and_eq_true, Option.isSome_iff_exists] at h
  obtain ⟨⟨rest, hrest⟩, _⟩ := h
  have hstem := Text.eq_of_after? hrest
  have hs : 's' ∈ "std-".toList ++ rest := by simp
  cases hlib : Text.after? "lib".toList name.toList with
  | none =>
    rw [hlib, Option.getD_none] at hstem
    exact hstem ▸ hs
  | some stem =>
    rw [hlib, Option.getD_some] at hstem
    rw [Text.eq_of_after? hlib, hstem]
    exact List.mem_append_right _ hs

/-- A shared standard library stands in the directory. -/
def Offers (t : FileTree) (base : Location) (directory : Path) : Prop :=
  ∃ library, HoldsLibrary t base directory library

section Search
variable {t : FileTree} {base : Location} {directory library : Path}

theorem fileName?_library (directory : Path) {name : String} (hseparator : '/' ∉ name.toList)
    (h : isSharedStandardLibrary name = true) :
    (directory.join name).fileName? = some name := by
  rw [Path.fileName?_eq_some_iff]
  exact directory.endsIn_join (isName_of_isSharedStandardLibrary hseparator h)

theorem findStandardLibrary_eq_none_iff :
    findStandardLibrary t base directory = none ↔ ¬ Offers t base directory := by
  constructor
  · rintro hnone ⟨library, hholds⟩
    obtain ⟨found, hfound⟩ := hholds.exists_find
    rw [hnone] at hfound
    cases hfound
  · intro hoffers
    cases hfind : findStandardLibrary t base directory with
    | none => rfl
    | some library => exact absurd ⟨library, holdsLibrary_of_find hfind⟩ hoffers

variable (t base) in
/-- The search ends at the first directory in which a library stands. -/
theorem searched_cases (searched : List Path) :
    (searched.findSome? (findStandardLibrary t base) = none ∧
        ∀ d ∈ searched, ¬ Offers t base d) ∨
      ∃ before d after library, searched = before ++ d :: after ∧
        (∀ d' ∈ before, ¬ Offers t base d') ∧ HoldsLibrary t base d library ∧
        searched.findSome? (findStandardLibrary t base) = some library := by
  cases hfound : searched.findSome? (findStandardLibrary t base) with
  | none =>
    refine Or.inl ⟨rfl, fun d hd => ?_⟩
    exact findStandardLibrary_eq_none_iff.mp (List.findSome?_eq_none_iff.mp hfound d hd)
  | some library =>
    obtain ⟨before, d, after, hsearched, hd, hbefore⟩ := List.findSome?_eq_some_iff.mp hfound
    refine Or.inr ⟨before, d, after, library, hsearched, fun d' hd' => ?_,
      holdsLibrary_of_find hd, rfl⟩
    exact findStandardLibrary_eq_none_iff.mp (hbefore d' hd')

end Search

namespace Worker

/-- A worker whose modules share the standard library takes it from the first directory that has
one, its search directories coming before the further ones, and goes on with the configuration that
it was given. It misses the runtime exactly when no directory has a library, and then it tells all
of them in the order of the search. -/
theorem resolve_takes_first (c : RunConfiguration) (hlinkage : c.linkage = .dynamic) (t : FileTree)
    (base : Location) (extra : List Path) :
    let searched := c.searchDirectories ++ extra
    ((∃ d ∈ searched, Offers t base d) →
      ∃ before d after names name, searched = before ++ d :: after ∧
        (∀ d' ∈ before, ¬ Offers t base d') ∧
        t.list base d = .ok names ∧ name ∈ names ∧ isSharedStandardLibrary name = true ∧
        ('/' ∉ name.toList → (d.join name).fileName? = some name) ∧
        resolve t base c extra = .ok ⟨c, some (d.join name)⟩) ∧
      (resolve t base c extra = .error (.runtimeMissing c.name searched) ↔
        ∀ d ∈ searched, ¬ Offers t base d) := by
  intro searched
  rcases searched_cases t base searched with ⟨hfound, hnone⟩ |
    ⟨before, d, after, library, hsearched, hbefore, hholds, hfound⟩
  · have hresolve : resolve t base c extra = .error (.runtimeMissing c.name searched) := by
      simp only [resolve, hlinkage]
      rw [hfound]
    rw [hresolve]
    refine ⟨?_, fun _ => hnone, fun _ => rfl⟩
    rintro ⟨d, hd, hoffers⟩
    exact absurd hoffers (hnone d hd)
  · have hresolve : resolve t base c extra = .ok ⟨c, some library⟩ := by
      simp only [resolve, hlinkage]
      rw [hfound]
    rw [hresolve]
    have hd : d ∈ searched := hsearched ▸ List.mem_append_right _ List.mem_cons_self
    have hoffers : Offers t base d := ⟨library, hholds⟩
    constructor
    · intro _
      obtain ⟨names, name, hlist, hname, hshared, rfl⟩ := hholds
      exact ⟨before, d, after, names, name, hsearched, hbefore, hlist, hname, hshared,
        fun hseparator => fileName?_library d hseparator hshared, rfl⟩
    · constructor
      · intro herror
        cases herror
      · intro hnone
        exact absurd hoffers (hnone d hd)

namespace Sample

/-- A directory without a library, one that nobody may list, and two that have one. -/
def shelves : FileTree :=
  ⟨[(["bare"], .directory 0o755), (["libcore-1.so", "bare"], .file [] 0o644),
    (["shut"], .directory 0o000), (["libstd-1.so", "shut"], .file [] 0o644),
    (["lib"], .directory 0o755), (["libstd-2.so", "lib"], .file [] 0o644),
    (["spare"], .directory 0o755), (["libstd-3.so", "spare"], .file [] 0o644)]⟩

def shared : RunConfiguration := .dynamic [⟨"/none"⟩, ⟨"/bare"⟩]

/-- Directories that are missing, bare or shut offer nothing. -/
theorem not_offers {d : Path} (hd : d ∈ [(⟨"/none"⟩ : Path), ⟨"/bare"⟩, ⟨"/shut"⟩]) :
    ¬ Offers shelves [] d := by
  rw [← findStandardLibrary_eq_none_iff]
  revert d
  decide +kernel

theorem offers_lib : Offers shelves [] ⟨"/lib"⟩ :=
  ⟨⟨"/lib/libstd-2.so"⟩, holdsLibrary_of_find (by decide +kernel)⟩

end Sample

/-- Three directories are passed over; they are told when there are no others. -/
theorem resolve_takes_first_sample :
    (∃ name, isSharedStandardLibrary name = true ∧
      resolve Sample.shelves [] Sample.shared [⟨"/shut"⟩, ⟨"/lib"⟩, ⟨"/spare"⟩] =
        .ok ⟨Sample.shared, some ((⟨"/lib"⟩ : Path).join name)⟩) ∧
    resolve Sample.shelves [] Sample.shared [⟨"/shut"⟩] =
      .error (.runtimeMissing "rust-std" [⟨"/none"⟩, ⟨"/bare"⟩, ⟨"/shut"⟩]) := by
  constructor
  · obtain ⟨before, d, after, names, name, hsearched, hbefore, hlist, hname, hshared, _,
      hresolve⟩ := (resolve_takes_first Sample.shared rfl Sample.shelves []
        [⟨"/shut"⟩, ⟨"/lib"⟩, ⟨"/spare"⟩]).1 ⟨⟨"/lib"⟩, by decide, Sample.offers_lib⟩
    have hoffers : Offers Sample.shelves [] d := ⟨_, names, name, hlist, hname, hshared, rfl⟩
    have hlib : ⟨"/lib"⟩ ∉ before := fun hmem => hbefore _ hmem Sample.offers_lib
    have hd : d ∉ [(⟨"/none"⟩ : Path), ⟨"/bare"⟩, ⟨"/shut"⟩] := fun hmem =>
      Sample.not_offers hmem hoffers
    simp only [Sample.shared, RunConfiguration.dynamic, List.cons_append, List.nil_append]
      at hsearched
    -- Only behind the three that offer nothing can the search have ended.
    rcases before with _ | ⟨_, _ | ⟨_, _ | ⟨_, _ | ⟨_, before⟩⟩⟩⟩
    · simp [← (List.cons.inj hsearched).1] at hd
    · simp_all
    · simp_all
    · obtain rfl : ⟨"/lib"⟩ = d := by simp_all
      exact ⟨name, hshared, hresolve⟩
    · simp_all
  · exact (resolve_takes_first Sample.shared rfl Sample.shelves [] [⟨"/shut"⟩]).2.mpr
      fun d hd => Sample.not_offers hd

end Worker
end TemplateBatch
