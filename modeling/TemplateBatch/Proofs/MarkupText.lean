import TemplateBatch.Proofs.TextPieces
import TemplateBatch.Text.Markup

/-!
Text escaped for markup. What markup reserves is left in it only as the ampersands that begin
entities, so the text can open nothing in the markup around it and close nothing. An ampersand that
the text already had is escaped like the others, whatever stands behind it, and so reading puts back
what was escaped. The texts that escaping writes are exactly the ones that are safe in this way.
-/
namespace TemplateBatch.Text

/-- The characters that have entities. -/
def markupChars : List Char := ['&', '<', '>', '"', '\'']

/-- Safe text: no bracket and no quote is in it, and an ampersand only where an entity begins. -/
structure IsMarkupText (cs : List Char) : Prop where
  not_mem : ∀ c ∈ ['<', '>', '"', '\''], c ∉ cs
  ampersand : ∀ front back, cs = front ++ '&' :: back →
    ∃ c ∈ markupChars, entity c <+: '&' :: back

theorem entity_of_not_mem {c : Char} (h : c ∉ markupChars) : entity c = [c] := by
  simp only [markupChars, List.mem_cons, List.not_mem_nil, or_false, not_or] at h
  obtain ⟨hampersand, hless, hgreater, hquote, happostrophe⟩ := h
  unfold entity
  rw [if_neg hampersand, if_neg hless, if_neg hgreater, if_neg hquote, if_neg happostrophe]

theorem exists_name {c : Char} (hc : c ∈ markupChars) :
    ∃ name, entity c = '&' :: name ∧ ∀ d ∈ markupChars, d ∉ name := by
  simp only [markupChars, List.mem_cons, List.not_mem_nil, or_false] at hc
  rcases hc with rfl | rfl | rfl | rfl | rfl
  all_goals exact ⟨_, rfl, not_mem_of_all (by decide)⟩

theorem not_mem_entity {d : Char} (hd : d ∈ ['<', '>', '"', '\'']) (c : Char) : d ∉ entity c := by
  have hreserved : d ∈ markupChars := List.mem_cons_of_mem _ hd
  by_cases hc : c ∈ markupChars
  · obtain ⟨name, hname, hfree⟩ := exists_name hc
    rw [hname, List.mem_cons, not_or]
    refine ⟨?_, hfree d hreserved⟩
    rintro rfl
    exact absurd hd (by decide)
  · rw [entity_of_not_mem hc, List.mem_singleton]
    rintro rfl
    exact hc hreserved

/-- An ampersand in what a character is written as stands at its beginning, and what is written is an
entity then. -/
theorem entity_of_ampersand {c : Char} {p q : List Char} (h : entity c = p ++ '&' :: q) :
    c ∈ markupChars ∧ p = [] := by
  by_cases hc : c ∈ markupChars
  · refine ⟨hc, ?_⟩
    obtain ⟨name, hname, hfree⟩ := exists_name hc
    cases p with
    | nil => rfl
    | cons a p =>
      rw [hname, List.cons_append, List.cons.injEq] at h
      have hmem : '&' ∈ name := by simp [h.2]
      exact absurd hmem (hfree '&' List.mem_cons_self)
  · have hmem : '&' ∈ entity c := by simp [h]
    rw [entity_of_not_mem hc, List.mem_singleton] at hmem
    subst hmem
    exact absurd List.mem_cons_self hc

theorem entity_ne_nil (c : Char) : entity c ≠ [] := by
  unfold entity
  split_ifs <;> exact List.cons_ne_nil _ _

theorem isMarkupText_escape (cs : List Char) : IsMarkupText (escapeMarkupChars cs) := by
  constructor
  · intro d hd hmem
    obtain ⟨c, -, hc⟩ := List.mem_flatMap.mp hmem
    exact not_mem_entity hd c hc
  · intro front back h
    obtain ⟨before, c, after, p, q, -, hc, -, rfl⟩ := exists_unit_of_flatMap h
    obtain ⟨hreserved, rfl⟩ := entity_of_ampersand hc
    refine ⟨c, hreserved, ?_⟩
    rw [hc]
    exact ⟨after.flatMap entity, rfl⟩

/-- Reading goes one character further where no entity begins. -/
theorem unescapeMarkupChars_cons {d : Char} {rest : List Char}
    (h : ∀ c ∈ markupChars, ¬ entity c <+: d :: rest) :
    unescapeMarkupChars (d :: rest) = d :: unescapeMarkupChars rest := by
  have hbegins {c : Char} (hc : c ∈ markupChars) (behind : List Char)
      (heq : d :: rest = entity c ++ behind) : False :=
    h c hc ⟨behind, heq.symm⟩
  conv_lhs => unfold unescapeMarkupChars
  split
  case h_1 behind heq => exact (hbegins (c := '&') (by decide) behind heq).elim
  case h_2 behind heq => exact (hbegins (c := '<') (by decide) behind heq).elim
  case h_3 behind heq => exact (hbegins (c := '>') (by decide) behind heq).elim
  case h_4 behind heq => exact (hbegins (c := '"') (by decide) behind heq).elim
  case h_5 behind heq => exact (hbegins (c := '\'') (by decide) behind heq).elim
  case h_6 heq =>
    obtain ⟨rfl, rfl⟩ := List.cons.inj heq
    rfl
  case h_7 heq => cases heq

theorem unescapeMarkupChars_entity (c : Char) (rest : List Char) :
    unescapeMarkupChars (entity c ++ rest) = c :: unescapeMarkupChars rest := by
  by_cases hc : c ∈ markupChars
  · simp only [markupChars, List.mem_cons, List.not_mem_nil, or_false] at hc
    rcases hc with rfl | rfl | rfl | rfl | rfl <;> rfl
  · rw [entity_of_not_mem hc, List.singleton_append]
    apply unescapeMarkupChars_cons
    intro d hd hbegins
    obtain ⟨name, hname, -⟩ := exists_name hd
    rw [hname, List.cons_prefix_cons] at hbegins
    exact hc (hbegins.1 ▸ by decide)

theorem unescape_escape (cs : List Char) : unescapeMarkupChars (escapeMarkupChars cs) = cs := by
  induction cs with
  | nil => rfl
  | cons c cs ih =>
    have hcons : escapeMarkupChars (c :: cs) = entity c ++ escapeMarkupChars cs := List.flatMap_cons
    rw [hcons, unescapeMarkupChars_entity, ih]

namespace IsMarkupText

theorem of_append {a cs : List Char} (h : IsMarkupText (a ++ cs)) : IsMarkupText cs := by
  constructor
  · intro d hd hmem
    exact h.not_mem d hd (List.mem_append_right a hmem)
  · rintro front back rfl
    exact h.ampersand (a ++ front) back (List.append_assoc _ _ _).symm

theorem exists_entity {d : Char} {rest : List Char} (h : IsMarkupText (d :: rest)) :
    ∃ c, entity c <+: d :: rest := by
  by_cases hd : d ∈ markupChars
  · obtain rfl | hbracket := List.mem_cons.mp hd
    · obtain ⟨c, -, hc⟩ := h.ampersand [] rest rfl
      exact ⟨c, hc⟩
    · exact absurd List.mem_cons_self (h.not_mem d hbracket)
  · refine ⟨d, ?_⟩
    rw [entity_of_not_mem hd]
    exact ⟨rest, rfl⟩

theorem exists_escaped {cs : List Char} (h : IsMarkupText cs) :
    ∃ s, escapeMarkupChars s = cs := by
  induction hlength : cs.length using Nat.strongRecOn generalizing cs with
  | ind n ih =>
    cases cs with
    | nil => exact ⟨[], rfl⟩
    | cons d rest =>
      obtain ⟨c, behind, hbehind⟩ := h.exists_entity
      rw [← hbehind] at h hlength ⊢
      have hpos : 0 < (entity c).length := List.length_pos_iff.mpr (entity_ne_nil c)
      rw [List.length_append] at hlength
      obtain ⟨s, hs⟩ := ih behind.length (by omega) h.of_append rfl
      refine ⟨c :: s, ?_⟩
      rw [← hs]
      exact List.flatMap_cons

end IsMarkupText

/-- Escaped text is safe in markup and is read back as it was, so that no two texts are escaped
alike; and the safe texts are just the escaped ones. -/
theorem escapeMarkup_safe_and_reversible :
    (∀ s, IsMarkupText (escapeMarkup s).toList ∧ unescapeMarkup (escapeMarkup s) = s) ∧
      Function.Injective escapeMarkup ∧
      ∀ t, IsMarkupText t.toList ↔ ∃ s, escapeMarkup s = t := by
  have hsafe (s : String) : IsMarkupText (escapeMarkup s).toList := by
    rw [escapeMarkup, String.toList_ofList]
    exact isMarkupText_escape s.toList
  have hread (s : String) : unescapeMarkup (escapeMarkup s) = s := by
    rw [unescapeMarkup, escapeMarkup, String.toList_ofList, unescape_escape, String.ofList_toList]
  refine ⟨fun s => ⟨hsafe s, hread s⟩, Function.LeftInverse.injective hread, fun t => ?_⟩
  constructor
  · intro ht
    obtain ⟨cs, hcs⟩ := ht.exists_escaped
    refine ⟨String.ofList cs, ?_⟩
    rw [escapeMarkup, String.toList_ofList, hcs, String.ofList_toList]
  · rintro ⟨s, rfl⟩
    exact hsafe s

/-- An entity in the text is escaped with the rest of it. -/
example : escapeMarkup "a &lt; <b>" = "a &amp;lt; &lt;b&gt;" := by decide +kernel

end TemplateBatch.Text
