import TemplateBatch.Proofs.Entries
import TemplateBatch.Proofs.WireFormat
import TemplateBatch.Worker.Bootstrap

/-!
Where a worker looks for the shared standard library. Its run configuration is read back from the
document that was staged for it; the directories named there are searched first, in order, and those
that the environment names come behind them.
-/
namespace TemplateBatch

/-- The directory has a shared standard library, and `library` is its path. -/
def HoldsLibrary (t : FileTree) (base : Location) (directory library : Path) : Prop :=
  ∃ names name, t.list base directory = .ok names ∧ name ∈ names ∧
    isSharedStandardLibrary name = true ∧ library = directory.join name

section Libraries
variable {t : FileTree} {base : Location} {directory library : Path}

theorem holdsLibrary_of_find (h : findStandardLibrary t base directory = some library) :
    HoldsLibrary t base directory library := by
  rw [findStandardLibrary] at h
  cases hlist : t.list base directory with
  | error e => simp [hlist] at h
  | ok names =>
    simp only [hlist, Option.map_eq_some_iff] at h
    obtain ⟨name, hname, rfl⟩ := h
    exact ⟨names, name, hlist, List.mem_of_find?_eq_some hname, List.find?_some hname, rfl⟩

theorem HoldsLibrary.exists_find (h : HoldsLibrary t base directory library) :
    ∃ found, findStandardLibrary t base directory = some found := by
  obtain ⟨names, name, hlist, hname, hshared, _⟩ := h
  cases hfind : names.find? isSharedStandardLibrary with
  | none => exact absurd hshared (List.find?_eq_none.mp hfind name hname)
  | some first => exact ⟨directory.join first, by simp [findStandardLibrary, hlist, hfind]⟩

end Libraries

namespace Worker

theorem splitDirectories_ne_nil (s : String) : splitDirectories s ≠ [] := by
  simpa [splitDirectories] using Text.split_ne_nil _ s.toList

theorem colon_not_mem_of_mem_split {s : String} {d : Path} (h : d ∈ splitDirectories s) :
    ':' ∉ d.chars := by
  obtain ⟨piece, hpiece, rfl⟩ := List.mem_map.mp h
  rw [Path.ofChars, Path.chars, String.toList_ofList]
  exact Text.not_mem_of_mem_split hpiece

theorem splitDirectories_of_no_colon {s : String} (h : ':' ∉ s.toList) :
    splitDirectories s = [⟨s⟩] := by
  simp [splitDirectories, Text.split_of_not_mem h, Path.ofChars]

/-- The directories that a worker with this configuration searches, in order. -/
def searched (c : RunConfiguration) (vs : Variables) : List Path :=
  match c.linkage with
  | .static => []
  | .dynamic => c.searchDirectories ++ extraDirectories vs

section Bootstrap
variable (words : Wording) {t : FileTree} {base : Location} {vs : Variables} {executable : Path}
  {c : RunConfiguration}

theorem readText_of_under? {p : Path} {text : String} {mode : ℕ} (hmode : mode &&& 0o444 ≠ 0)
    (h : t.under? base p = some (.file (Text.Utf8.encode text) mode)) :
    t.readText base p = .ok text := by
  obtain ⟨l, hnames, hnode⟩ := FileTree.exists_names_of_under? h
  rw [FileTree.readText, FileTree.read, FileTree.find_file hnames hnode]
  simp [hmode, Text.Utf8.decode?_encode]

theorem loadRunConfiguration_of_readText {p : Path} {text : String}
    (hread : t.readText base p = .ok text) (htext : RunConfiguration.ofText? text = some c) :
    loadRunConfiguration words t base p = .ok c := by
  rw [loadRunConfiguration, hread]
  simp only [htext]

/-- What a configuration asks for is all that is left to find out when it has been loaded. -/
theorem bootstrap_of_load
    (hload : loadRunConfiguration words t base (RunConfiguration.beside executable) = .ok c) :
    bootstrap words t base vs executable = resolve t base c (extraDirectories vs) := by
  unfold bootstrap
  split
  · next e heq =>
    rw [hload] at heq
    cases heq
  · next c' heq =>
    rw [hload] at heq
    obtain rfl := Except.ok.inj heq
    rfl

theorem resolve_static (hlinkage : c.linkage = .static) (extra : List Path) :
    resolve t base c extra = .ok ⟨c, none⟩ := by
  simp only [resolve, hlinkage]

theorem resolve_dynamic (hlinkage : c.linkage = .dynamic) {library : Path}
    (hfound : (searched c vs).findSome? (findStandardLibrary t base) = some library) :
    resolve t base c (extraDirectories vs) = .ok ⟨c, some library⟩ := by
  simp only [searched, hlinkage] at hfound
  simp only [resolve, hlinkage, hfound]

/-- A worker that misses its runtime tells where it has searched. -/
theorem resolve_missing (hlinkage : c.linkage = .dynamic)
    (hnone : (searched c vs).findSome? (findStandardLibrary t base) = none) :
    resolve t base c (extraDirectories vs) = .error (.runtimeMissing c.name (searched c vs)) := by
  simp only [searched, hlinkage] at hnone ⊢
  simp only [resolve, hlinkage, hnone]

end Bootstrap
end Worker
end TemplateBatch
