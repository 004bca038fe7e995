import TemplateBatch.Text.Utf8
import Mathlib.Data.List.Basic

/-!
Text survives its encoding. The octets of one character bring the decoder from between characters
back there with just that character read, so a whole text is read off without an ill-formed part,
by the strict reading and by the lossy one alike. A line feed stands for nothing but itself.
-/
namespace TemplateBatch.Text.Utf8

theorem toNat_octet (n : ℕ) (h : n < 256) : (octet n).toNat = n := by
  simp only [octet, UInt8.toNat_ofNat', Nat.reducePow]
  exact Nat.mod_eq_of_lt h

private theorem toNat_not_surrogate (c : Char) :
    c.toNat < 0xD800 ∨ (0xDFFF < c.toNat ∧ c.toNat < 0x110000) := c.valid

/-- A character that owes more than one octet takes one within its bounds as the next. -/
theorem step_pending (found : List (Option Char)) (owed low high bits n : ℕ) (hn : n < 256)
    (hlow : low ≤ n) (hhigh : n ≤ high) :
    step ⟨found, some ⟨owed + 2, low, high, bits⟩⟩ (octet n) =
      ⟨found, some ⟨owed + 1, 0x80, 0xBF, bits * 64 + (n - 0x80)⟩⟩ := by
  have howed : owed + 2 ≠ 1 := by omega
  simp only [step, toNat_octet n hn, hlow, hhigh, howed, and_self, if_true, if_false]
  rfl

/-- The last octet that a character owes ends it. -/
theorem step_last (found : List (Option Char)) (low high bits n : ℕ) (hn : n < 256)
    (hlow : low ≤ n) (hhigh : n ≤ high) :
    step ⟨found, some ⟨1, low, high, bits⟩⟩ (octet n) =
      ⟨some (Char.ofNat (bits * 64 + (n - 0x80))) :: found, none⟩ := by
  simp only [step, toNat_octet n hn, hlow, hhigh, and_self, if_true]

theorem step_start (found : List (Option Char)) (n : ℕ) (p : Pending) (hn : n < 256)
    (hlead : lead n = .started p) : step ⟨found, none⟩ (octet n) = ⟨found, some p⟩ := by
  simp only [step, toNat_octet n hn, begin, hlead]

/-- The first of three octets bounds the second: shorter forms and surrogates are out. -/
private theorem lead_of_three (n : ℕ) (hlow : 0x800 ≤ n) (hhigh : n < 0x10000)
    (hsurrogate : n < 0xD800 ∨ 0xDFFF < n) :
    ∃ low high, lead (0xE0 + n / 4096) = .started ⟨2, low, high, n / 4096⟩ ∧
      low ≤ 0x80 + n / 64 % 64 ∧ 0x80 + n / 64 % 64 ≤ high := by
  by_cases hzero : n / 4096 = 0
  · refine ⟨0xA0, 0xBF, ?_, by omega, by omega⟩
    simp [lead, hzero]
  by_cases hd : n / 4096 = 13
  · refine ⟨0x80, 0x9F, ?_, by omega, by omega⟩
    simp [lead, hd]
  · refine ⟨0x80, 0xBF, ?_, by omega, by omega⟩
    have hrange : n / 4096 < 16 := by omega
    simp only [lead]
    rw [if_neg (by omega), if_neg (by omega), if_neg (by omega), if_neg (by omega),
      if_neg (by omega), if_pos (by omega), Nat.add_sub_cancel_left]

/-- The same for the first of four octets and the end of the range of characters. -/
private theorem lead_of_four (n : ℕ) (hlow : 0x10000 ≤ n) (hhigh : n < 0x110000) :
    ∃ low high, lead (0xF0 + n / 262144) = .started ⟨3, low, high, n / 262144⟩ ∧
      low ≤ 0x80 + n / 4096 % 64 ∧ 0x80 + n / 4096 % 64 ≤ high := by
  by_cases hzero : n / 262144 = 0
  · refine ⟨0x90, 0xBF, ?_, by omega, by omega⟩
    simp [lead, hzero]
  by_cases hfour : n / 262144 = 4
  · refine ⟨0x80, 0x8F, ?_, by omega, by omega⟩
    simp [lead, hfour]
  · refine ⟨0x80, 0xBF, ?_, by omega, by omega⟩
    have hrange : n / 262144 < 4 := by omega
    simp only [lead]
    rw [if_neg (by omega), if_neg (by omega), if_neg (by omega), if_neg (by omega),
      if_neg (by omega), if_neg (by omega), if_neg (by omega), if_pos (by omega),
      Nat.add_sub_cancel_left]

/-- The octets of a character are read as that character, whatever was found before. -/
theorem foldl_step_encodeChar (c : Char) (found : List (Option Char)) :
    (encodeChar c).foldl step ⟨found, none⟩ = ⟨some c :: found, none⟩ := by
  have hvalid := toNat_not_surrogate c
  have hchar : ∀ m, m = c.toNat → Char.ofNat m = c := by
    rintro m rfl
    exact Char.ofNat_toNat c
  unfold encodeChar
  by_cases hone : c.toNat < 0x80
  · simp [hone, step, begin, lead, toNat_octet c.toNat (by omega), hchar c.toNat rfl]
  by_cases htwo : c.toNat < 0x800
  · have hlead : lead (0xC0 + c.toNat / 64) = .started ⟨1, 0x80, 0xBF, c.toNat / 64⟩ := by
      simp only [lead]
      rw [if_neg (by omega), if_neg (by omega), if_pos (by omega), Nat.add_sub_cancel_left]
    simp only [hone, htwo, if_true, if_false, List.foldl_cons, List.foldl_nil]
    rw [step_start found _ _ (by omega) hlead,
      step_last _ _ _ _ _ (by omega) (by omega) (by omega), hchar _ (by omega)]
  by_cases hthree : c.toNat < 0x10000
  · obtain ⟨low, high, hlead, hl, hh⟩ :=
      lead_of_three c.toNat (by omega) hthree (by omega)
    simp only [hone, htwo, hthree, if_true, if_false, List.foldl_cons, List.foldl_nil]
    rw [step_start found _ _ (by omega) hlead,
      step_pending _ 0 _ _ _ _ (by omega) hl hh,
      step_last _ _ _ _ _ (by omega) (by omega) (by omega), hchar _ (by omega)]
  · obtain ⟨low, high, hlead, hl, hh⟩ := lead_of_four c.toNat (by omega) (by omega)
    simp only [hone, htwo, hthree, if_false, List.foldl_cons, List.foldl_nil]
    rw [step_start found _ _ (by omega) hlead,
      step_pending _ 1 _ _ _ _ (by omega) hl hh,
      step_pending _ 0 _ _ _ _ (by omega) (by omega) (by omega),
      step_last _ _ _ _ _ (by omega) (by omega) (by omega), hchar _ (by omega)]

theorem foldl_step_encodeChars (cs : List Char) (found : List (Option Char)) :
    (cs.flatMap encodeChar).foldl step ⟨found, none⟩ =
      ⟨(cs.map some).reverse ++ found, none⟩ := by
  induction cs generalizing found with
  | nil => rfl
  | cons c cs ih =>
    rw [List.flatMap_cons, List.foldl_append, foldl_step_encodeChar, ih]
    simp

theorem scan_encode (s : String) : scan (encode s) = s.toList.map some := by
  simp only [scan, encode, foldl_step_encodeChars, finish, List.append_nil, List.reverse_reverse]

theorem decode?_encode (s : String) : decode? (encode s) = some s := by
  simp [decode?, scan_encode, List.filterMap_map]

theorem decodeLossy_encode (s : String) : decodeLossy (encode s) = s := by
  simp [decodeLossy, scan_encode, Function.comp_def]

theorem encode_injective : Function.Injective encode := by
  intro s t h
  have hdecoded := congrArg decode? h
  rw [decode?_encode, decode?_encode] at hdecoded
  exact Option.some.inj hdecoded

theorem encode_append (s t : String) : encode (s ++ t) = encode s ++ encode t := by
  simp [encode]

theorem encode_eq_nil_iff (s : String) : encode s = [] ↔ s = "" := by
  constructor
  · intro h
    exact encode_injective (h.trans rfl)
  · rintro rfl
    rfl

theorem mem_encodeChar (c : Char) (b : UInt8) (hb : b ∈ encodeChar c) :
    b.toNat = c.toNat ∨ 0x80 ≤ b.toNat := by
  have hvalid := toNat_not_surrogate c
  simp only [encodeChar] at hb
  split_ifs at hb
  · left
    rw [List.mem_singleton.mp hb, toNat_octet _ (by omega)]
  all_goals
    right
    simp only [List.mem_cons, List.not_mem_nil, or_false] at hb
    rcases hb with rfl | hb
    · rw [toNat_octet _ (by omega)]
      omega
  · rw [hb, toNat_octet _ (by omega)]
    omega
  · rcases hb with rfl | rfl <;> rw [toNat_octet _ (by omega)] <;> omega
  · rcases hb with rfl | rfl | rfl <;> rw [toNat_octet _ (by omega)] <;> omega

theorem not_mem_encode (s : String) (hs : '\n' ∉ s.toList) : (10 : UInt8) ∉ encode s := by
  intro hmem
  obtain ⟨c, hc, hoctet⟩ := List.mem_flatMap.mp hmem
  rcases mem_encodeChar c 10 hoctet with h | h
  · have hfeed : c = '\n' := Char.toNat_inj.mp h.symm
    exact hs (hfeed ▸ hc)
  · exact absurd h (by decide)

end TemplateBatch.Text.Utf8
