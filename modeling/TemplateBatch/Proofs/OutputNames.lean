import TemplateBatch.OutputNames
import Mathlib.Data.List.Nodup
import Mathlib.Data.List.Perm.Subperm
import Std.Data.String.ToNat

/-!
No output name is given twice. The numbers behind a candidate lead to distinct names, so that fewer
of them can be taken than there are names in all, and the search finds the first that is free.
-/
namespace TemplateBatch.OutputNames

theorem numbered_injective (candidate : String) : Function.Injective (numbered candidate) := by
  intro j k h
  have hrepr : Nat.repr j = Nat.repr k := String.append_right_inj candidate |>.mp h
  exact Nat.repr_injective hrepr

variable (names : OutputNames) (candidate : String)

theorem isReserved_iff (name : String) : names.isReserved name = true ↔ name ∈ names.taken := by
  simp [isReserved]

theorem le_firstFree (fuel k : ℕ) : k ≤ names.firstFree candidate fuel k := by
  induction fuel generalizing k with
  | zero => exact Nat.le_refl k
  | succ fuel ih =>
    rw [firstFree]
    split
    · exact Nat.le_of_succ_le (ih (k + 1))
    · exact Nat.le_refl k

/-- Every number that was passed over leads to a name that is taken. -/
theorem reserved_of_lt_firstFree (fuel k j : ℕ) (hk : k ≤ j)
    (hj : j < names.firstFree candidate fuel k) : numbered candidate j ∈ names.taken := by
  induction fuel generalizing k with
  | zero => exact absurd hj (Nat.not_lt.mpr hk)
  | succ fuel ih =>
    rw [firstFree] at hj
    by_cases hreserved : names.isReserved (numbered candidate k) = true
    · rw [if_pos hreserved] at hj
      rcases Nat.eq_or_lt_of_le hk with rfl | hlt
      · exact (names.isReserved_iff _).mp hreserved
      · exact ih (k + 1) hlt hj
    · rw [if_neg hreserved] at hj
      exact absurd hj (Nat.not_lt.mpr hk)

theorem firstFree_free_or_eq (fuel k : ℕ) :
    numbered candidate (names.firstFree candidate fuel k) ∉ names.taken ∨
      names.firstFree candidate fuel k = k + fuel := by
  induction fuel generalizing k with
  | zero => exact Or.inr rfl
  | succ fuel ih =>
    rw [firstFree]
    by_cases hreserved : names.isReserved (numbered candidate k) = true
    · rw [if_pos hreserved, show k + (fuel + 1) = k + 1 + fuel by omega]
      exact ih (k + 1)
    · rw [if_neg hreserved]
      exact Or.inl fun h => hreserved ((names.isReserved_iff _).mpr h)

/-- Some number in a row of more numbers than names are taken is free. -/
theorem exists_free (k : ℕ) :
    ∃ j, k ≤ j ∧ j ≤ k + names.size ∧ numbered candidate j ∉ names.taken := by
  -- Otherwise all of these distinct names would be taken, which are more than are taken in all.
  by_contra hall
  have hsubset : (List.range' k (names.size + 1)).map (numbered candidate) ⊆ names.taken := by
    intro name hname
    obtain ⟨j, hj, rfl⟩ := List.mem_map.mp hname
    rw [List.mem_range'_1] at hj
    by_contra hfree
    exact hall ⟨j, hj.1, by omega, hfree⟩
  have hnodup : ((List.range' k (names.size + 1)).map (numbered candidate)).Nodup :=
    List.Nodup.map (numbered_injective candidate) (List.nodup_range' 1)
  have hlength := (hnodup.subperm hsubset).length_le
  rw [List.length_map, List.length_range', size] at hlength
  omega

theorem firstFree_not_mem (k : ℕ) :
    numbered candidate (names.firstFree candidate names.size k) ∉ names.taken := by
  rcases names.firstFree_free_or_eq candidate names.size k with hfree | heq
  · exact hfree
  · obtain ⟨j, hk, hj, hfree⟩ := names.exists_free candidate k
    rw [heq]
    rcases Nat.eq_or_lt_of_le hj with rfl | hlt
    · exact hfree
    · rw [← heq] at hlt
      exact absurd (names.reserved_of_lt_firstFree candidate names.size k j hk hlt) hfree

theorem choose_not_mem : names.choose candidate ∉ names.taken := by
  rw [choose]
  by_cases hreserved : names.isReserved candidate = true
  · rw [if_pos hreserved]
    exact names.firstFree_not_mem candidate 1
  · rw [if_neg hreserved]
    exact fun h => hreserved ((names.isReserved_iff candidate).mpr h)

/-- The names given for candidates in order. -/
def answers (names : OutputNames) : List String → List String
  | [] => []
  | candidate :: candidates =>
    (names.reserve candidate).1 :: (names.reserve candidate).2.answers candidates

theorem nodup_answers (candidates : List String) (h : names.taken.Nodup) :
    (names.taken ++ names.answers candidates).Nodup := by
  induction candidates generalizing names with
  | nil => simpa [answers] using h
  | cons candidate candidates ih =>
    have hreserve : (names.reserve candidate).2.taken.Nodup := by
      rw [reserve, List.nodup_append_comm]
      exact List.nodup_cons.mpr ⟨names.choose_not_mem candidate, h⟩
    have hrest := ih (names.reserve candidate).2 hreserve
    rw [answers, List.append_cons]
    exact hrest

end TemplateBatch.OutputNames
