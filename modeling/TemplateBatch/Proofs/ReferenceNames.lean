import TemplateBatch.Proofs.BundledLibraries
import TemplateBatch.Proofs.Identifiers
import TemplateBatch.Proofs.RootText

/-!
The names of bundled references. The resource of a reference is its name between a start that all
references share and an extension. Reading the name back takes away every copy of the start in
front and every copy of the extension behind it, so a name is kept when it is an identifier, and in
general exactly when it adds no copy to either. Names that do are read as shorter ones, so that two
resources may become references of one name.
-/
namespace TemplateBatch

namespace Reference

/-- A text several times in a row. -/
def copies (k : ℕ) (part : List Char) : List Char := (List.replicate k part).flatten

theorem copies_zero (part : List Char) : copies 0 part = [] := rfl

theorem copies_succ (k : ℕ) (part : List Char) : copies (k + 1) part = part ++ copies k part := by
  rw [copies, List.replicate_succ, List.flatten_cons, copies]

theorem copies_succ' (k : ℕ) (part : List Char) : copies (k + 1) part = copies k part ++ part := by
  rw [copies, List.replicate_succ', List.flatten_append, List.flatten_singleton, copies]

theorem reverse_copies (k : ℕ) (part : List Char) :
    (copies k part).reverse = copies k part.reverse := by
  rw [copies, List.reverse_flatten, List.map_replicate, List.reverse_replicate, copies]

theorem length_copies (k : ℕ) (part : List Char) : (copies k part).length = k * part.length := by
  rw [copies, List.length_flatten, List.map_replicate, List.sum_replicate_nat]

section Dropping
variable {start ending : List Char}

theorem dropStarts_append (fuel : ℕ) (cs : List Char) :
    dropStarts start (fuel + 1) (start ++ cs) = dropStarts start fuel cs := by
  rw [dropStarts, Text.after?_append]

theorem dropStarts_of_not_starts {cs : List Char} (h : ¬ start <+: cs) (fuel : ℕ) :
    dropStarts start fuel cs = cs := by
  cases fuel with
  | zero => rfl
  | succ fuel =>
    have hnone : Text.after? start cs = none := by
      rw [← Option.not_isSome_iff_eq_none]
      exact mt Text.isSome_after?_iff.mp h
    rw [dropStarts, hnone]

/-- A text is some copies of the start with what is left behind them, where none follows. -/
theorem exists_dropStarts (hne : start ≠ []) {fuel : ℕ} {cs : List Char} (h : cs.length ≤ fuel) :
    ∃ k, cs = copies k start ++ dropStarts start fuel cs ∧
      ¬ start <+: dropStarts start fuel cs := by
  induction fuel generalizing cs with
  | zero =>
    obtain rfl : cs = [] := List.length_eq_zero_iff.mp (Nat.le_zero.mp h)
    exact ⟨0, rfl, fun hstarts => hne (List.prefix_nil.mp hstarts)⟩
  | succ fuel ih =>
    by_cases hstarts : start <+: cs
    · obtain ⟨rest, rfl⟩ := hstarts
      have hpos := List.length_pos_iff.mpr hne
      have hfuel : rest.length ≤ fuel := by
        rw [List.length_append] at h
        omega
      obtain ⟨k, hrest, hend⟩ := ih hfuel
      rw [dropStarts_append]
      refine ⟨k + 1, ?_, hend⟩
      rw [copies_succ, List.append_assoc, ← hrest]
    · rw [dropStarts_of_not_starts hstarts]
      exact ⟨0, rfl, hstarts⟩

theorem exists_dropEndings (hne : ending ≠ []) (cs : List Char) :
    ∃ k, cs = dropEndings ending cs ++ copies k ending ∧
      ¬ ending <:+ dropEndings ending cs := by
  have hfuel : cs.reverse.length ≤ cs.length := by rw [List.length_reverse]
  obtain ⟨k, hcs, hend⟩ := exists_dropStarts (mt List.reverse_eq_nil_iff.mp hne) hfuel
  refine ⟨k, ?_, ?_⟩
  · have hreverse := congrArg List.reverse hcs
    rw [List.reverse_reverse, List.reverse_append, reverse_copies, List.reverse_reverse] at hreverse
    exact hreverse
  · rwa [dropEndings, ← List.reverse_prefix, List.reverse_reverse]

end Dropping

def extension : String := ".rs"

/-- The name of the resource that holds the reference `name`. -/
def resource (name : String) : String := Bundle.referencesStart ++ name ++ extension

/-- The name adds no copy to the start in front of it nor to the extension behind it. -/
def IsKept (name : String) : Prop :=
  ¬ Bundle.referencesStart.toList <+: name.toList ++ extension.toList ∧
    ¬ extension.toList <:+ name.toList

instance (name : String) : Decidable (IsKept name) := inferInstanceAs (Decidable (_ ∧ _))

theorem toList_resource (name : String) : (resource name).toList =
    Bundle.referencesStart.toList ++ (name.toList ++ extension.toList) := by
  rw [resource, String.toList_append, String.toList_append, List.append_assoc]

/-- Between the copies of the start and those of the extension stands the name that is read. -/
theorem exists_resourceName (name : String) :
    ∃ i j rest, name.toList ++ extension.toList =
        copies i Bundle.referencesStart.toList ++ rest ∧
      ¬ Bundle.referencesStart.toList <+: rest ∧
      rest = (resourceName (resource name)).toList ++ copies j extension.toList ∧
      ¬ extension.toList <:+ (resourceName (resource name)).toList := by
  have hstart : Bundle.referencesStart.toList ≠ [] := by decide
  have hextension : extension.toList ≠ [] := by decide
  have hread : (resourceName (resource name)).toList = dropEndings extension.toList
      (dropStarts Bundle.referencesStart.toList (resource name).toList.length
        (resource name).toList) :=
    String.toList_ofList
  obtain ⟨k, hchars, hrest⟩ := exists_dropStarts hstart (Nat.le_refl (resource name).toList.length)
  obtain ⟨j, hname, hend⟩ := exists_dropEndings hextension
    (dropStarts Bundle.referencesStart.toList (resource name).toList.length (resource name).toList)
  rw [← hread] at hname hend
  rw [toList_resource] at hchars hrest hname
  cases k with
  | zero =>
    rw [copies_zero, List.nil_append] at hchars
    rw [← hchars] at hrest
    exact absurd (List.prefix_append _ _) hrest
  | succ i =>
    rw [copies_succ, List.append_assoc, List.append_cancel_left_eq] at hchars
    exact ⟨i, j, _, hchars, hrest, hname, hend⟩

theorem resourceName_eq_iff (name : String) :
    resourceName (resource name) = name ↔ IsKept name := by
  obtain ⟨i, j, rest, hchars, hrest, hread, hend⟩ := exists_resourceName name
  constructor
  · intro hname
    rw [hname] at hread hend
    -- The lengths leave one copy of the extension and none of the start.
    have hlength := congrArg List.length hchars
    have hstart : Bundle.referencesStart.toList.length = 21 := by decide
    have hextension : extension.toList.length = 3 := by decide
    rw [hread] at hlength
    simp only [List.length_append, length_copies, hstart, hextension] at hlength
    obtain rfl : i = 0 := by omega
    rw [copies_zero, List.nil_append] at hchars
    rw [← hchars] at hrest
    exact ⟨hrest, hend⟩
  · rintro ⟨hfront, hback⟩
    cases i with
    | succ i =>
      rw [copies_succ, List.append_assoc] at hchars
      exact absurd ⟨_, hchars.symm⟩ hfront
    | zero =>
      rw [copies_zero, List.nil_append, hread] at hchars
      rcases j with _ | _ | j
      · rw [copies_zero, List.append_nil] at hchars
        exact absurd ⟨name.toList, hchars⟩ hend
      · rw [copies_succ, copies_zero, List.append_nil, List.append_cancel_right_eq] at hchars
        exact String.toList_inj.mp hchars.symm
      · rw [copies_succ', ← List.append_assoc, List.append_cancel_right_eq, copies_succ',
          ← List.append_assoc] at hchars
        exact absurd ⟨_, hchars.symm⟩ hback

/-- An identifier has no dot, and both the start and the extension have one. -/
theorem isKept_of_isDeclarable {name : String} (h : Identifier.IsDeclarable name) : IsKept name := by
  have hdot : '.' ∉ name.toList := h.isSegment.not_mem (by decide)
  constructor
  · intro hstarts
    have hcount := hstarts.sublist.count_le '.'
    rw [List.count_append, List.count_eq_zero_of_not_mem hdot] at hcount
    exact absurd hcount (by decide)
  · intro hends
    exact hdot (hends.mem (by decide))

theorem ofResources_encode (named : List (String × String)) :
    ofResources (named.map fun n => ⟨resource n.1, Text.Utf8.encode n.2⟩) =
      .ok (named.map fun n => .source (resourceName (resource n.1)) n.2) := by
  induction named with
  | nil => rfl
  | cons n named ih => simp only [List.map_cons, ofResources, ofResource_encode, ih]

theorem load_resources {b : Bundle} {named : List (String × String)} (hne : named ≠ [])
    (hb : b.startingWith Bundle.referencesStart =
      named.map fun n => ⟨resource n.1, Text.Utf8.encode n.2⟩) :
    load b = .ok (named.map fun n => .source (resourceName (resource n.1)) n.2) := by
  rw [load, hb, ofResources_encode]
  obtain ⟨n, rest, rfl⟩ := List.exists_cons_of_ne_nil hne
  rfl

theorem map_source_eq_iff (named : List (String × String)) :
    (named.map fun n => source (resourceName (resource n.1)) n.2) =
        (named.map fun n => source n.1 n.2) ↔ ∀ n ∈ named, IsKept n.1 := by
  simp only [List.map_inj_left, source.injEq, and_true, resourceName_eq_iff]

/-- References are loaded in the order of their resources and with their texts. Their names are kept
exactly when none of them adds a copy to the start in front of it or to the extension behind it, as
no identifier does, and names that are kept are as distinct as they were given. -/
theorem loaded_names_kept_iff (b : Bundle) (named : List (String × String)) (hne : named ≠ [])
    (hdistinct : (named.map Prod.fst).Nodup)
    (hb : b.startingWith Bundle.referencesStart =
      named.map fun n => ⟨resource n.1, Text.Utf8.encode n.2⟩) :
    ∃ references, load b = .ok references ∧
      references = named.map (fun n => .source (resourceName (resource n.1)) n.2) ∧
      (references = named.map (fun n => .source n.1 n.2) ↔ ∀ n ∈ named, IsKept n.1) ∧
      ((∀ n ∈ named, Identifier.isIdentifier n.1 = true) →
        references = named.map fun n => .source n.1 n.2) ∧
      ((∀ n ∈ named, IsKept n.1) → (references.map name).Nodup) := by
  refine ⟨_, load_resources hne hb, rfl, map_source_eq_iff named, ?_, ?_⟩
  · intro hnames
    rw [map_source_eq_iff]
    intro n hn
    exact isKept_of_isDeclarable ((Identifier.isIdentifier_iff n.1).mp (hnames n hn))
  · intro hkept
    rw [(map_source_eq_iff named).mpr hkept, List.map_map]
    exact hdistinct

namespace Sample

/-- A bundle with a worker between its two references. -/
def bundle : Bundle :=
  ((Bundle.empty.insert (resource "dates") [120]).insertWorker [0]).insert (resource "a.b") [121]

end Sample

/-- A name with a dot in it is kept, too, where the dot does not begin the extension. -/
theorem loaded_names_kept_iff_sample :
    Sample.bundle.startingWith Bundle.referencesStart =
        [⟨resource "dates", [120]⟩, ⟨resource "a.b", [121]⟩] ∧
      load Sample.bundle = .ok [.source "dates" "x", .source "a.b" "y"] := by
  have hb : Sample.bundle.startingWith Bundle.referencesStart =
      [⟨resource "dates", [120]⟩, ⟨resource "a.b", [121]⟩] := by
    decide +kernel
  obtain ⟨references, hload, -, hkept, -⟩ := loaded_names_kept_iff Sample.bundle
    [("dates", "x"), ("a.b", "y")] (List.cons_ne_nil _ _) (by decide) hb
  have hnames : ∀ n ∈ [("dates", "x"), ("a.b", "y")], IsKept n.1 := by decide +kernel
  rw [hkept.mpr hnames] at hload
  exact ⟨hb, hload⟩

/-- Two resources with names of their own become references of one name. -/
theorem resource_names_clash :
    resource "a" ≠ resource "a.rs" ∧
      load ((Bundle.empty.insert (resource "a") [120]).insert (resource "a.rs") [121]) =
        .ok [.source "a" "x", .source "a" "y"] := by
  decide +kernel

end Reference
end TemplateBatch
