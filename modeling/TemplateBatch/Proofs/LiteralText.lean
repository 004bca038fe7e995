import TemplateBatch.Proofs.TextPieces
import TemplateBatch.Text.Literal
import Mathlib.Algebra.Ring.Parity
import Mathlib.Data.List.Induction

/-!
Literals in generated code. A character is written in a body as a short escape, as itself or by its
code point, and each of these is read as that character whatever comes behind it. So the quote that
ends a literal is the one behind its body, and what is between the quotes denotes the text that was
escaped.
-/
namespace TemplateBatch.Text

def IsPrintableAscii (c : Char) : Prop := 32 ≤ c.toNat ∧ c.toNat < 127

instance (c : Char) : Decidable (IsPrintableAscii c) := inferInstanceAs (Decidable (_ ∧ _))

/-- How many backslashes a text ends with. -/
def backslashesAtEnd (cs : List Char) : ℕ := (cs.reverse.takeWhile (· == '\\')).length

theorem mem_hexDigits {n : ℕ} {c : Char} (h : c ∈ hexDigits n) :
    ∃ d < 16, c = Nat.digitChar d := by
  induction n using Nat.strongRecOn with
  | ind n ih =>
    unfold hexDigits at h
    rw [Nat.toDigits_eq_if (by decide)] at h
    by_cases hn : n < 16
    · rw [if_pos hn, List.mem_singleton] at h
      exact ⟨n, hn, h⟩
    · rw [if_neg hn, List.mem_append, List.mem_singleton] at h
      rcases h with hfront | hlast
      · exact ih (n / 16) (by omega) hfront
      · exact ⟨n % 16, by omega, hlast⟩

theorem isPrintableAscii_digitChar : ∀ d < 16, IsPrintableAscii (Nat.digitChar d) := by
  decide

theorem digitChar_ne : ∀ d < 16, Nat.digitChar d ≠ '"' ∧ Nat.digitChar d ≠ '}' := by
  decide

theorem hexValue?_digitChar : ∀ d < 16, hexValue? (Nat.digitChar d) = some d := by
  decide

theorem length_hexDigits_le (c : Char) : (hexDigits c.toNat).length ≤ 6 := by
  unfold hexDigits
  rw [Nat.length_toDigits_le_iff (by decide) (by decide)]
  have hvalid : c.toNat.isValidChar := c.valid
  unfold Nat.isValidChar at hvalid
  omega

theorem scalar?_toNat (c : Char) : scalar? c.toNat = some c := by
  have hvalid : c.toNat.isValidChar := c.valid
  have hback : Char.ofNat c.toNat = c := Char.ofNat_toNat c
  unfold Char.ofNat at hback
  rw [dif_pos hvalid] at hback
  unfold scalar?
  rw [dif_pos hvalid, hback]

/-- The ways to write a character in the body of a literal. -/
inductive LiteralUnit (c : Char) : List Char → Prop
  | short (e : Char) (h : shortEscape? e = some c) : LiteralUnit c ['\\', e]
  | plain (hprintable : IsPrintableAscii c) (hquote : c ≠ '"') (hbackslash : c ≠ '\\') :
      LiteralUnit c [c]
  | codePoint : LiteralUnit c (codePointEscape c)

theorem literalUnit_literalChar (c : Char) : LiteralUnit c (literalChar c) := by
  unfold literalChar
  split_ifs with htab hreturn hfeed happostrophe hquote hbackslash hprintable
  · subst htab
    exact .short 't' rfl
  · subst hreturn
    exact .short 'r' rfl
  · subst hfeed
    exact .short 'n' rfl
  · subst happostrophe
    exact .short '\'' rfl
  · subst hquote
    exact .short '"' rfl
  · subst hbackslash
    exact .short '\\' rfl
  · exact .plain hprintable hquote hbackslash
  · exact .codePoint

theorem isPrintableAscii_of_shortEscape? {e c : Char} (h : shortEscape? e = some c) :
    IsPrintableAscii e := by
  unfold shortEscape? at h
  split_ifs at h with ht hr hn happostrophe hquote hbackslash
  all_goals subst e; decide

namespace LiteralUnit

variable {c : Char} {unit : List Char} (h : LiteralUnit c unit)
include h

theorem isPrintableAscii : ∀ d ∈ unit, IsPrintableAscii d := by
  intro d hd
  cases h with
  | short e he =>
    obtain rfl | rfl := List.mem_pair.mp hd
    · decide
    · exact isPrintableAscii_of_shortEscape? he
  | plain hprintable =>
    rw [List.mem_singleton.mp hd]
    exact hprintable
  | codePoint =>
    rw [codePointEscape, List.mem_append, List.mem_append] at hd
    obtain (hopening | hdigit) | hclosing := hd
    · simp only [List.mem_cons, List.not_mem_nil, or_false] at hopening
      rcases hopening with rfl | rfl | rfl <;> decide
    · obtain ⟨n, hn, rfl⟩ := mem_hexDigits hdigit
      exact isPrintableAscii_digitChar n hn
    · rw [List.mem_singleton.mp hclosing]
      decide

/-- A quote in what a character is written as has a backslash in front of it and nothing else. -/
theorem eq_of_quote {p q : List Char} (hunit : unit = p ++ '"' :: q) : p = ['\\'] := by
  cases h with
  | short e =>
    rcases p with - | ⟨a, - | ⟨b, p⟩⟩
    · exact absurd (List.cons.inj hunit).1 (by decide)
    · rw [(List.cons.inj hunit).1]
    · have hlength := congrArg List.length hunit
      simp at hlength
  | plain _ hquote =>
    have hmem : '"' ∈ [c] := by simp [hunit]
    exact absurd (List.mem_singleton.mp hmem).symm hquote
  | codePoint =>
    have hmem : '"' ∈ codePointEscape c := by simp [hunit]
    rw [codePointEscape, List.mem_append, List.mem_append] at hmem
    obtain (hopening | hdigit) | hclosing := hmem
    · exact absurd hopening (by decide)
    · obtain ⟨n, hn, hquote⟩ := mem_hexDigits hdigit
      exact absurd hquote.symm (digitChar_ne n hn).1
    · exact absurd hclosing (by decide)

end LiteralUnit

theorem backslashesAtEnd_concat (cs : List Char) (c : Char) :
    backslashesAtEnd (cs ++ [c]) = if c = '\\' then backslashesAtEnd cs + 1 else 0 := by
  unfold backslashesAtEnd
  rw [List.reverse_append, List.reverse_singleton, List.singleton_append, List.takeWhile_cons]
  by_cases hc : c = '\\'
  · simp [hc]
  · simp [hc]

/-- What a character is written as leaves no backslash without the one that it goes with. -/
theorem LiteralUnit.even_backslashesAtEnd {c : Char} {unit cs : List Char} (h : LiteralUnit c unit)
    (hcs : Even (backslashesAtEnd cs)) : Even (backslashesAtEnd (cs ++ unit)) := by
  cases h with
  | short e =>
    rw [List.append_cons, backslashesAtEnd_concat, backslashesAtEnd_concat, if_pos rfl]
    by_cases he : e = '\\'
    · rw [if_pos he, Nat.even_add_one, Nat.even_add_one, not_not]
      exact hcs
    · rw [if_neg he]
      exact Even.zero
  | plain _ _ hbackslash =>
    rw [backslashesAtEnd_concat, if_neg hbackslash]
    exact Even.zero
  | codePoint =>
    rw [codePointEscape, ← List.append_assoc, backslashesAtEnd_concat, if_neg (by decide)]
    exact Even.zero

theorem even_backslashesAtEnd (cs : List Char) : Even (backslashesAtEnd (literalBodyChars cs)) := by
  induction cs using List.reverseRecOn with
  | nil => exact Even.zero
  | append_singleton cs c ih =>
    rw [literalBodyChars, List.flatMap_append, List.flatMap_singleton]
    exact (literalUnit_literalChar c).even_backslashesAtEnd ih

/-- The backslash that escapes a quote is the last of an odd number. -/
theorem odd_backslashesAtEnd {cs front back : List Char}
    (h : literalBodyChars cs = front ++ '"' :: back) : Odd (backslashesAtEnd front) := by
  obtain ⟨before, c, after, p, q, -, hunit, rfl, -⟩ := exists_unit_of_flatMap h
  rw [(literalUnit_literalChar c).eq_of_quote hunit, backslashesAtEnd_concat, if_pos rfl]
  exact (even_backslashesAtEnd before).add_one

theorem readLiteralFrom_digit {count d : ℕ} (hcount : count < 6) (hd : d < 16) (value : ℕ)
    (rest : List Char) :
    readLiteralFrom (.digits count value) (Nat.digitChar d :: rest) =
      readLiteralFrom (.digits (count + 1) (value * 16 + d)) rest := by
  conv_lhs => unfold readLiteralFrom
  rw [if_neg (digitChar_ne d hd).2, if_pos hcount, hexValue?_digitChar d hd]

theorem readLiteralFrom_hexDigits (n : ℕ) (rest : List Char) (h : (hexDigits n).length ≤ 6) :
    readLiteralFrom (.digits 0 0) (hexDigits n ++ rest) =
      readLiteralFrom (.digits (hexDigits n).length n) rest := by
  induction n using Nat.strongRecOn generalizing rest with
  | ind n ih =>
    by_cases hn : n < 16
    · have hone : hexDigits n = [Nat.digitChar n] := Nat.toDigits_of_lt_base hn
      have hvalue : 0 * 16 + n = n := by omega
      rw [hone, List.singleton_append, readLiteralFrom_digit (by decide) hn, hvalue]
      rfl
    · have hmore : hexDigits n = hexDigits (n / 16) ++ [Nat.digitChar (n % 16)] :=
        Nat.toDigits_of_base_le (by decide) (by omega)
      have hvalue : n / 16 * 16 + n % 16 = n := by omega
      rw [hmore, List.length_append, List.length_singleton] at h ⊢
      rw [List.append_assoc, List.singleton_append, ih (n / 16) (by omega) _ (by omega),
        readLiteralFrom_digit (by omega) (by omega), hvalue]

theorem readLiteral_codePoint (c : Char) (rest : List Char) :
    readLiteral (codePointEscape c ++ rest) = withFirst c (readLiteral rest) := by
  have hopen : readLiteral (codePointEscape c ++ rest) =
      readLiteralFrom (.digits 0 0) (hexDigits c.toNat ++ '}' :: rest) := by
    rw [codePointEscape, List.append_assoc, List.append_assoc]
    rfl
  have hsome : (hexDigits c.toNat).length ≠ 0 := by
    rw [ne_eq, List.length_eq_zero_iff]
    exact Nat.toDigits_ne_nil
  rw [hopen, readLiteralFrom_hexDigits _ _ (length_hexDigits_le c)]
  conv_lhs => unfold readLiteralFrom
  rw [if_pos rfl, if_neg hsome, scalar?_toNat]
  rfl

/-- What a character is written as is read as the character, whatever is behind it. -/
theorem LiteralUnit.readLiteral_append {c : Char} {unit : List Char} (h : LiteralUnit c unit)
    (rest : List Char) : readLiteral (unit ++ rest) = withFirst c (readLiteral rest) := by
  cases h with
  | short e he =>
    have hcode : e ≠ 'u' := by
      rintro rfl
      cases he
    have hescape : readLiteral (['\\', e] ++ rest) = readLiteralFrom .escape (e :: rest) := rfl
    rw [hescape]
    conv_lhs => unfold readLiteralFrom
    rw [if_neg hcode, he]
    rfl
  | plain hprintable hquote hbackslash =>
    have hreturn : c ≠ '\r' := by
      rintro rfl
      exact absurd hprintable (by decide)
    rw [List.singleton_append, readLiteral]
    conv_lhs => unfold readLiteralFrom
    rw [if_neg hquote, if_neg hbackslash, if_neg hreturn]
    rfl
  | codePoint => exact readLiteral_codePoint c rest

theorem readLiteral_body (cs rest : List Char) :
    readLiteral (literalBodyChars cs ++ '"' :: rest) = some (cs, rest) := by
  induction cs with
  | nil => rfl
  | cons c cs ih =>
    have hcons : literalBodyChars (c :: cs) = literalChar c ++ literalBodyChars cs :=
      List.flatMap_cons
    rw [hcons, List.append_assoc, (literalUnit_literalChar c).readLiteral_append, ih]
    rfl

/-- An escaped body is printable, each quote in it is escaped by the last of an odd number of
backslashes, and it is read as the text that was escaped; so a literal with this body ends behind
it, whatever comes next, and denotes that text. -/
theorem literalBody_reads_back (s : String) :
    (∀ c ∈ (literalBody s).toList, IsPrintableAscii c) ∧
      (∀ front back, (literalBody s).toList = front ++ '"' :: back →
        Odd (backslashesAtEnd front)) ∧
      readLiteralBody (literalBody s) = some s ∧
      ∀ rest, readLiteral ((literalBody s).toList ++ '"' :: rest) = some (s.toList, rest) := by
  have hchars : (literalBody s).toList = literalBodyChars s.toList := String.toList_ofList
  refine ⟨?_, ?_, ?_, ?_⟩
  · intro c hc
    rw [hchars, literalBodyChars] at hc
    obtain ⟨d, -, hd⟩ := List.mem_flatMap.mp hc
    exact (literalUnit_literalChar d).isPrintableAscii c hd
  · intro front back h
    exact odd_backslashesAtEnd (hchars ▸ h)
  · unfold readLiteralBody
    rw [hchars, readLiteral_body]
    exact congrArg some String.ofList_toList
  · intro rest
    rw [hchars]
    exact readLiteral_body s.toList rest

/-- A quote behind a backslash: both are escaped, and the quote has three backslashes in front. -/
theorem literalBody_reads_back_sample :
    ('}' ∈ (literalBody "\\\"é").toList ∧ IsPrintableAscii '}') ∧
      (literalBody "\\\"é").toList = ['\\', '\\', '\\'] ++ '"' :: ['\\', 'u', '{', 'e', '9', '}'] ∧
      Odd (backslashesAtEnd ['\\', '\\', '\\']) := by
  have hbody : (literalBody "\\\"é").toList =
      ['\\', '\\', '\\'] ++ '"' :: ['\\', 'u', '{', 'e', '9', '}'] := by decide +kernel
  have hmem : '}' ∈ (literalBody "\\\"é").toList := by simp [hbody]
  obtain ⟨hprintable, hodd, -⟩ := literalBody_reads_back "\\\"é"
  exact ⟨⟨hmem, hprintable '}' hmem⟩, hbody, hodd _ _ hbody⟩

end TemplateBatch.Text
