import TemplateBatch.Proofs.OutputNames

/-!
Output names are the first that are free. The names of a whole batch are told by the names given
before: a candidate is given as it is unless it was given already, and else with the least number
that leads to a new name. The search for it has a round for a name that is taken each time, so that
it is over before a counter of 32 bits runs over.
-/
namespace TemplateBatch.OutputNames

/-- The search for a name that is free, in the given number of rounds. In each round the name at
hand is taken, the candidate with the number of the counter comes in its place, and the counter goes
up by one, for which it must not be at its end. -/
inductive Search (names : OutputNames) (candidate : String) :
    (rounds : ℕ) → (name : String) → (counter : UInt32) → (answer : String) → Prop
  | found {name counter} (hfree : name ∉ names.taken) : Search names candidate 0 name counter name
  | round {rounds name counter answer} (htaken : name ∈ names.taken)
      (hfits : counter.toNat + 1 < UInt32.size)
      (hrest : Search names candidate rounds (numbered candidate counter.toNat) (counter + 1)
        answer) :
      Search names candidate (rounds + 1) name counter answer

section Searching
variable {names : OutputNames} {candidate : String}

theorem Search.unique {rounds rounds' : ℕ} {name answer answer' : String} {counter : UInt32}
    (h : Search names candidate rounds name counter answer)
    (h' : Search names candidate rounds' name counter answer') :
    rounds = rounds' ∧ answer = answer' := by
  induction h generalizing rounds' with
  | found hfree =>
    cases h' with
    | found _ => exact ⟨rfl, rfl⟩
    | round htaken _ _ => exact absurd htaken hfree
  | round htaken _ _ ih =>
    cases h' with
    | found hfree => exact absurd htaken hfree
    | round _ _ hrest =>
      obtain ⟨hrounds, hanswer⟩ := ih hrest
      exact ⟨congrArg (· + 1) hrounds, hanswer⟩

/-- From a taken name on, the search passes the numbers that lead to taken names. -/
theorem search_numbered {name : String} (d j : ℕ) (hname : name ∈ names.taken)
    (htaken : ∀ i, j ≤ i → i < j + d → numbered candidate i ∈ names.taken)
    (hfree : numbered candidate (j + d) ∉ names.taken) (hfits : j + d + 1 < UInt32.size) :
    Search names candidate (d + 1) name (UInt32.ofNat j) (numbered candidate (j + d)) := by
  induction d generalizing j name with
  | zero =>
    have hcounter : (UInt32.ofNat j).toNat = j := UInt32.toNat_ofNat_of_lt (by omega)
    refine Search.round hname (by omega) ?_
    rw [hcounter]
    exact Search.found hfree
  | succ d ih =>
    have hcounter : (UInt32.ofNat j).toNat = j := UInt32.toNat_ofNat_of_lt (by omega)
    have hnext : UInt32.ofNat j + 1 = UInt32.ofNat (j + 1) := by
      rw [UInt32.ofNat_add]
      rfl
    have hsum : j + (d + 1) = j + 1 + d := by omega
    rw [hsum] at hfree hfits ⊢
    refine Search.round hname (by omega) ?_
    rw [hcounter, hnext]
    refine ih (j + 1) (htaken j (Nat.le_refl j) (by omega)) (fun i hi hlt => ?_) hfree hfits
    exact htaken i (by omega) (by omega)

theorem numbered_ne (candidate : String) (k : ℕ) : numbered candidate k ≠ candidate := by
  intro h
  have hchars := congrArg String.toList h
  rw [numbered, String.toList_append, List.append_right_eq_self] at hchars
  exact Nat.toDigits_ne_nil (Nat.toList_repr.symm.trans hchars)

variable (names candidate)

theorem firstFree_le_size (hreserved : candidate ∈ names.taken) :
    names.firstFree candidate names.size 1 ≤ names.size := by
  let passed := candidate ::
    (List.range' 1 (names.firstFree candidate names.size 1 - 1)).map (numbered candidate)
  have hsubset : passed ⊆ names.taken := by
    refine List.cons_subset.mpr ⟨hreserved, fun name hname => ?_⟩
    obtain ⟨j, hj, rfl⟩ := List.mem_map.mp hname
    rw [List.mem_range'_1] at hj
    exact names.reserved_of_lt_firstFree candidate names.size 1 j hj.1 (by omega)
  have hnodup : passed.Nodup := by
    refine List.nodup_cons.mpr ⟨fun hmem => ?_, ?_⟩
    · obtain ⟨j, _, hj⟩ := List.mem_map.mp hmem
      exact numbered_ne candidate j hj
    · exact List.Nodup.map (numbered_injective candidate) (List.nodup_range' 1)
  have hlength := (hnodup.subperm hsubset).length_le
  have hfirst := names.le_firstFree candidate names.size 1
  simp only [passed, List.length_cons, List.length_map, List.length_range'] at hlength
  rw [size] at *
  omega

/-- The name that is chosen is the one that the search ends with, after at most one round for each
name that is taken. -/
theorem search_choose (hsize : names.size + 1 < UInt32.size) :
    ∃ rounds ≤ names.size, Search names candidate rounds candidate 1 (names.choose candidate) := by
  rw [choose]
  by_cases hreserved : names.isReserved candidate = true
  · have hmem := (names.isReserved_iff candidate).mp hreserved
    have hle := names.firstFree_le_size candidate hmem
    have hfirst := names.le_firstFree candidate names.size 1
    have hfree := names.firstFree_not_mem candidate 1
    rw [if_pos hreserved]
    obtain ⟨d, hd⟩ := Nat.exists_eq_add_of_le hfirst
    rw [hd] at hfree hle ⊢
    refine ⟨d + 1, by omega, search_numbered d 1 hmem (fun i hi hlt => ?_) hfree (by omega)⟩
    exact names.reserved_of_lt_firstFree candidate names.size 1 i hi (by omega)
  · rw [if_neg hreserved]
    refine ⟨0, Nat.zero_le _, Search.found fun hmem => ?_⟩
    exact hreserved ((names.isReserved_iff candidate).mpr hmem)

end Searching

/-- The candidate itself if it is not among the names, and else the candidate with the least number
from one on that makes it differ from all of them. -/
def IsFirstFree (earlier : List String) (candidate answer : String) : Prop :=
  (candidate ∉ earlier ∧ answer = candidate) ∨
    (candidate ∈ earlier ∧ ∃ k, 1 ≤ k ∧ answer = numbered candidate k ∧ answer ∉ earlier ∧
      ∀ j, 1 ≤ j → j < k → numbered candidate j ∈ earlier)

theorem isFirstFree_choose (names : OutputNames) (candidate : String) :
    IsFirstFree names.taken candidate (names.choose candidate) := by
  rw [choose]
  by_cases hreserved : names.isReserved candidate = true
  · rw [if_pos hreserved]
    refine Or.inr ⟨(names.isReserved_iff candidate).mp hreserved, _,
      names.le_firstFree candidate names.size 1, rfl, names.firstFree_not_mem candidate 1, ?_⟩
    exact fun j hj hlt => names.reserved_of_lt_firstFree candidate names.size 1 j hj hlt
  · rw [if_neg hreserved]
    exact Or.inl ⟨fun hmem => hreserved ((names.isReserved_iff candidate).mpr hmem), rfl⟩

/-- The names after all candidates were reserved in order. -/
def reserveAll (names : OutputNames) (candidates : List String) : OutputNames :=
  candidates.foldl (fun names candidate => (names.reserve candidate).2) names

theorem taken_reserveAll (names : OutputNames) (candidates : List String) :
    (names.reserveAll candidates).taken = names.taken ++ names.answers candidates := by
  induction candidates generalizing names with
  | nil => exact (List.append_nil _).symm
  | cons candidate candidates ih =>
    change ((names.reserve candidate).2.reserveAll candidates).taken = _
    rw [ih, answers, List.append_cons]
    rfl

theorem length_answers (names : OutputNames) (candidates : List String) :
    (names.answers candidates).length = candidates.length := by
  induction candidates generalizing names with
  | nil => rfl
  | cons candidate candidates ih => rw [answers, List.length_cons, List.length_cons, ih]

/-- Each answer is the one that the names after the candidates before it give. -/
theorem getElem?_answers (names : OutputNames) (candidates : List String) (i : ℕ) :
    (names.answers candidates)[i]? =
      candidates[i]?.map
        fun candidate => (names.reserveAll (candidates.take i)).choose candidate := by
  induction candidates generalizing names i with
  | nil => rfl
  | cons candidate candidates ih =>
    cases i with
    | zero => rfl
    | succ i => exact ih (names.reserve candidate).2 i

theorem answers_take (names : OutputNames) (candidates : List String) (i : ℕ) :
    names.answers (candidates.take i) = (names.answers candidates).take i := by
  induction candidates generalizing names i with
  | nil => rw [List.take_nil]; exact List.take_nil.symm
  | cons candidate candidates ih =>
    cases i with
    | zero => rfl
    | succ i => exact congrArg (_ :: ·) (ih (names.reserve candidate).2 i)

/-- The names given to a batch of candidates, of which there are fewer than a counter of 32 bits can
tell apart, are distinct, and each is the first that is free among those before it. The registry
holds them and nothing else. The search for the name at place `i`, counted from zero, is over after
at most `i` rounds, in which its counter does not run over, and comes to that name only. -/
theorem answers_first_free (candidates : List String) (hfew : candidates.length < UInt32.size - 1) :
    let answers := empty.answers candidates
    let registry := empty.reserveAll candidates
    answers.Nodup ∧ answers.length = candidates.length ∧ registry.size = candidates.length ∧
    (∀ name, registry.isReserved name = true ↔ name ∈ answers) ∧
    ∀ i candidate, candidates[i]? = some candidate →
      let names := empty.reserveAll (candidates.take i)
      ∃ answer, answers[i]? = some answer ∧ (names.reserve candidate).1 = answer ∧
        IsFirstFree (answers.take i) candidate answer ∧
        ∃ rounds ≤ i, ∀ n name,
          Search names candidate n candidate 1 name ↔ n = rounds ∧ name = answer := by
  intro answers registry
  have htaken : ∀ cs, (empty.reserveAll cs).taken = empty.answers cs :=
    fun cs => (taken_reserveAll empty cs).trans (List.nil_append _)
  have hlength : answers.length = candidates.length := length_answers empty candidates
  refine ⟨nodup_answers empty candidates List.nodup_nil, hlength, ?_, fun name => ?_, ?_⟩
  · rw [size, htaken, hlength]
  · rw [isReserved_iff, htaken]
  · intro i candidate hcandidate names
    obtain ⟨hi, _⟩ := List.getElem?_eq_some_iff.mp hcandidate
    have hearlier : names.taken = answers.take i := by
      rw [htaken, answers_take]
    have hsize : names.size = i := by
      rw [size, hearlier, List.length_take, hlength]
      omega
    have hcounter : i + 1 < UInt32.size := by omega
    obtain ⟨rounds, hrounds, hsearch⟩ := names.search_choose candidate (hsize ▸ hcounter)
    refine ⟨names.choose candidate, ?_, rfl, ?_, rounds, hsize ▸ hrounds, fun n name => ?_⟩
    · rw [getElem?_answers, hcandidate]
      rfl
    · exact hearlier ▸ names.isFirstFree_choose candidate
    · constructor
      · exact fun h => h.unique hsearch
      · rintro ⟨rfl, rfl⟩
        exact hsearch

/-- A numbered name that was given as a candidate of its own is passed over. -/
theorem answers_first_free_passing :
    ["T1", "T", "T"].length < UInt32.size - 1 ∧ empty.answers ["T1", "T", "T"] = ["T1", "T", "T2"] ∧
    IsFirstFree ["T1", "T"] "T" "T2" ∧
    ∃ rounds ≤ 2, Search (empty.reserveAll ["T1", "T"]) "T" rounds "T" 1 "T2" := by
  have hanswers : empty.answers ["T1", "T", "T"] = ["T1", "T", "T2"] := by decide +kernel
  have hfew : ["T1", "T", "T"].length < UInt32.size - 1 := by decide
  obtain ⟨_, _, _, _, heach⟩ := answers_first_free ["T1", "T", "T"] hfew
  obtain ⟨answer, hanswer, _, hfirst, rounds, hrounds, hsearch⟩ := heach 2 "T" rfl
  rw [hanswers] at hanswer hfirst
  obtain rfl := Option.some.inj hanswer
  exact ⟨hfew, hanswers, hfirst, rounds, hrounds, (hsearch rounds _).mpr ⟨rfl, rfl⟩⟩

end TemplateBatch.OutputNames
