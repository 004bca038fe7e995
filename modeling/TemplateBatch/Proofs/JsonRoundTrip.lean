import TemplateBatch.Json.Decoder
import TemplateBatch.Json.Printer
import TemplateBatch.Json.Reader
import Mathlib.Data.List.Basic

/-!
Values are read back from the text that they are written as, on one line or over several. This is
stated for values without numbers whose strings are texts, since the program writes no others.
Whatever follows a written value is left over, so that the members of a list can be read one after
the other, with or without white space between them.
-/
namespace TemplateBatch.Json

/-- No number occurs in the value and every string in it is a text. -/
inductive Textual : Json → Prop
  | null : Textual .null
  | boolean (b : Bool) : Textual (.boolean b)
  | string (cs : List Char) : Textual (.string (some cs))
  | array (items : List Json) (hitems : ∀ item ∈ items, Textual item) : Textual (.array items)
  | object (members : List (Option (List Char) × Json))
      (hkeys : ∀ m ∈ members, ∃ cs, m.1 = some cs) (hvalues : ∀ m ∈ members, Textual m.2) :
      Textual (.object members)

theorem textual_text (s : String) : Textual (.text s) := .string s.toList

theorem textual_record (members : List (String × Json))
    (hvalues : ∀ m ∈ members, Textual m.2) : Textual (.record members) := by
  apply Textual.object
  · intro m hm
    obtain ⟨n, _, rfl⟩ := List.mem_map.mp hm
    exact ⟨n.1.toList, rfl⟩
  · intro m hm
    obtain ⟨n, hn, rfl⟩ := List.mem_map.mp hm
    exact hvalues n hn

theorem hexValue?_lowerHexDigit : ∀ n, n < 16 → Text.hexValue? (lowerHexDigit n) = some n := by
  decide

theorem printedChar_ne_nil (c : Char) : printedChar c ≠ [] := by
  unfold printedChar
  split_ifs <;> simp

/-- A written character never starts with a quote, so it does not end its string. -/
theorem head_printedChar (c : Char) : ∃ d ds, printedChar c = d :: ds ∧ d ≠ '"' := by
  unfold printedChar
  split_ifs with hquote
  case neg => exact ⟨c, [], rfl, hquote⟩
  all_goals exact ⟨'\\', _, rfl, by decide⟩

theorem readChar_plain (c : Char) (rest : List Char) (hslash : c ≠ '\\') (hcontrol : 32 ≤ c.toNat) :
    readChar (c :: rest) = some (some c, rest) := by
  rw [readChar]
  · rw [if_neg]
    rintro (h | h)
    · exact hslash h
    · omega
  · intro _ h
    exact absurd h hslash
  · intro _ _ h
    exact absurd h hslash

theorem readChar_code (c : Char) (rest : List Char) (hcontrol : c.toNat < 32) :
    readChar ('\\' :: 'u' :: '0' :: '0' :: lowerHexDigit (c.toNat / 16) ::
      lowerHexDigit (c.toNat % 16) :: rest) = some (some c, rest) := by
  have hzero : Text.hexValue? '0' = some 0 := by decide
  have hhigh := hexValue?_lowerHexDigit (c.toNat / 16) (by omega)
  have hlow := hexValue?_lowerHexDigit (c.toNat % 16) (by omega)
  have hsum : c.toNat / 16 * 16 + c.toNat % 16 = c.toNat := by omega
  have hpair : readPair c.toNat rest = (some c, rest) := by
    have hh : isHighSurrogate c.toNat = false := by
      simp only [isHighSurrogate, Bool.and_eq_false_iff, decide_eq_false_iff_not]
      omega
    have hl : isLowSurrogate c.toNat = false := by
      simp only [isLowSurrogate, Bool.and_eq_false_iff, decide_eq_false_iff_not]
      omega
    simp [readPair, hh, hl]
  simp [readChar, readUnit, hzero, hhigh, hlow, hsum, hpair]

theorem readChar_printedChar (c : Char) (rest : List Char) :
    readChar (printedChar c ++ rest) = some (some c, rest) := by
  unfold printedChar
  split_ifs with hquote hslash hfeed hreturn htab hback hform hcontrol
  · subst hquote
    rfl
  · subst hslash
    rfl
  · subst hfeed
    rfl
  · subst hreturn
    rfl
  · subst htab
    rfl
  · have hc : c = Char.ofNat 8 := Char.toNat_inj.mp hback
    subst hc
    rfl
  · have hc : c = Char.ofNat 12 := Char.toNat_inj.mp hform
    subst hc
    rfl
  · exact readChar_code c rest hcontrol
  · exact readChar_plain c rest hslash (by omega)

theorem length_le_flatMap_printedChar (cs : List Char) :
    cs.length ≤ (cs.flatMap printedChar).length := by
  induction cs with
  | nil => exact Nat.le_refl 0
  | cons c cs ih =>
    have hpos := List.length_pos_iff.mpr (printedChar_ne_nil c)
    simp only [List.flatMap_cons, List.length_append, List.length_cons]
    omega

/-- The characters of a written string are read up to its closing quote, each in one step. -/
theorem readStringFrom_printed (cs before rest : List Char) (fuel : ℕ) (hfuel : cs.length < fuel) :
    readStringFrom fuel (some before) (cs.flatMap printedChar ++ '"' :: rest) =
      some (some (before.reverse ++ cs), rest) := by
  induction cs generalizing before fuel with
  | nil =>
    obtain ⟨left, rfl⟩ : ∃ left, fuel = left + 1 := ⟨fuel - 1, by simp at hfuel; omega⟩
    simp [readStringFrom]
  | cons c cs ih =>
    simp only [List.length_cons] at hfuel
    obtain ⟨left, rfl⟩ : ∃ left, fuel = left + 1 := ⟨fuel - 1, by omega⟩
    obtain ⟨d, ds, hd, hne⟩ := head_printedChar c
    have hread := readChar_printedChar c (cs.flatMap printedChar ++ '"' :: rest)
    rw [hd, List.cons_append] at hread
    simp only [List.flatMap_cons, hd, List.cons_append, List.append_assoc]
    rw [readStringFrom, if_neg hne, hread]
    simp only [Option.bind_some, Option.map_some]
    rw [ih (c :: before) left (by omega)]
    simp

theorem readString_printed (cs rest : List Char) (fuel : ℕ) (hfuel : cs.length < fuel) :
    readString fuel (cs.flatMap printedChar ++ '"' :: rest) = some (some cs, rest) := by
  rw [readString, readStringFrom_printed cs [] rest fuel hfuel]
  rfl

theorem printedString_some (cs : List Char) :
    printedString (some cs) = '"' :: (cs.flatMap printedChar ++ ['"']) := rfl

theorem skipSpace_cons (c : Char) (cs : List Char) (hc : isSpace c = false) :
    skipSpace (c :: cs) = c :: cs := by
  simp [skipSpace, hc]

/-- Nothing but white space. -/
def IsGap (s : List Char) : Prop := ∀ c ∈ s, isSpace c = true

theorem isGap_nil : IsGap [] := fun _ hc => absurd hc List.not_mem_nil

theorem isGap_margin (depth : ℕ) : IsGap (margin depth) := by
  intro c hc
  rcases List.mem_cons.mp hc with rfl | hspace
  · decide
  · rw [List.eq_of_mem_replicate hspace]
    decide

theorem skipSpace_append {s : List Char} (hs : IsGap s) (cs : List Char) :
    skipSpace (s ++ cs) = skipSpace cs := by
  rw [skipSpace, List.dropWhile_append_of_pos hs, skipSpace]

/-- White space in front of a closing bracket or a comma is passed over. -/
theorem skipSpace_gap_cons {s : List Char} (hs : IsGap s) (c : Char) (cs : List Char)
    (hc : isSpace c = false) : skipSpace (s ++ c :: cs) = c :: cs :=
  (skipSpace_append hs _).trans (skipSpace_cons c cs hc)

theorem skipSpace_skipSpace (cs : List Char) : skipSpace (skipSpace cs) = skipSpace cs := by
  induction cs with
  | nil => rfl
  | cons c cs ih =>
    cases hc : isSpace c with
    | true =>
      have hskip : skipSpace (c :: cs) = skipSpace cs := List.dropWhile_cons_of_pos hc
      rw [hskip, ih]
    | false => rw [skipSpace_cons c cs hc, skipSpace_cons c cs hc]

/-- A reader that starts with white space may as well start behind it. -/
theorem readValue_skipSpace (fuel : ℕ) (cs : List Char) :
    readValue fuel (skipSpace cs) = readValue fuel cs := by
  cases fuel with
  | zero => simp only [readValue]
  | succ fuel => rw [readValue, readValue, skipSpace_skipSpace]

theorem readItems_skipSpace (fuel : ℕ) (cs : List Char) :
    readItems fuel (skipSpace cs) = readItems fuel cs := by
  cases fuel with
  | zero => simp only [readItems]
  | succ fuel => rw [readItems, readItems, readValue_skipSpace]

theorem readMembers_skipSpace (fuel : ℕ) (cs : List Char) :
    readMembers fuel (skipSpace cs) = readMembers fuel cs := by
  cases fuel with
  | zero => simp only [readMembers]
  | succ fuel => rw [readMembers, readMembers, skipSpace_skipSpace]

/-- The text is read as `j` with two steps for each character, and what follows it is left. -/
def ReadsAs (cs : List Char) (j : Json) : Prop :=
  ∀ fuel rest, 2 * cs.length ≤ fuel → readValue fuel (cs ++ rest) = some (j, rest)

/-- The text is read as items up to the bracket behind it. -/
def ReadsAsItems (cs : List Char) (items : List Json) : Prop :=
  ∀ fuel rest, 2 * cs.length < fuel → readItems fuel (cs ++ ']' :: rest) = some (items, rest)

/-- The text is read as members up to the brace behind it. -/
def ReadsAsMembers (cs : List Char) (members : List (Option (List Char) × Json)) : Prop :=
  ∀ fuel rest, 2 * cs.length < fuel →
    readMembers fuel (cs ++ '\x7d' :: rest) = some (members, rest)

section Layouts
variable {s s' cs : List Char} {j : Json}

theorem readsAs_null : ReadsAs ['n', 'u', 'l', 'l'] .null := by
  intro fuel rest hfuel
  simp only [List.length_cons, List.length_nil] at hfuel
  obtain ⟨left, rfl⟩ : ∃ left, fuel = left + 1 := ⟨fuel - 1, by omega⟩
  rw [readValue]
  rfl

theorem readsAs_boolean (b : Bool) : ReadsAs (compactChars (.boolean b)) (.boolean b) := by
  intro fuel rest hfuel
  cases b <;>
  · simp only [compactChars, List.length_cons, List.length_nil] at hfuel
    obtain ⟨left, rfl⟩ : ∃ left, fuel = left + 1 := ⟨fuel - 1, by omega⟩
    rw [readValue]
    rfl

theorem readsAs_string (cs : List Char) :
    ReadsAs (printedString (some cs)) (.string (some cs)) := by
  intro fuel rest hfuel
  have hlength := length_le_flatMap_printedChar cs
  simp only [printedString_some, List.length_cons, List.length_append, List.length_nil] at hfuel
  obtain ⟨left, rfl⟩ : ∃ left, fuel = left + 1 := ⟨fuel - 1, by omega⟩
  have hread := readString_printed cs rest left (by omega)
  simp only [printedString_some, List.cons_append, List.append_assoc, List.nil_append]
  rw [readValue, skipSpace_cons _ _ (by decide)]
  simp only [hread, Option.map_some]

theorem ReadsAs.after_gap (h : ReadsAs cs j) (hs : IsGap s) : ReadsAs (s ++ cs) j := by
  intro fuel rest hfuel
  rw [List.length_append] at hfuel
  rw [List.append_assoc, ← readValue_skipSpace, skipSpace_append hs, readValue_skipSpace,
    h fuel rest (by omega)]

theorem readsAsItems_last (h : ReadsAs cs j) (hs : IsGap s) : ReadsAsItems (cs ++ s) [j] := by
  intro fuel rest hfuel
  rw [List.length_append] at hfuel
  obtain ⟨left, rfl⟩ : ∃ left, fuel = left + 1 := ⟨fuel - 1, by omega⟩
  rw [List.append_assoc, readItems, h left _ (by omega)]
  simp only [skipSpace_gap_cons hs ']' rest (by decide)]

theorem readsAsItems_cons {items : List Json} {body : List Char} (h : ReadsAs cs j)
    (hbody : ReadsAsItems body items) : ReadsAsItems (cs ++ ',' :: body) (j :: items) := by
  intro fuel rest hfuel
  rw [List.length_append, List.length_cons] at hfuel
  obtain ⟨left, rfl⟩ : ∃ left, fuel = left + 1 := ⟨fuel - 1, by omega⟩
  rw [List.append_assoc, readItems, h left _ (by omega)]
  simp only [List.cons_append, skipSpace_cons ',' _ (by decide), hbody left rest (by omega),
    Option.map_some]

/-- No item starts with the bracket that ends the array. -/
theorem readItems_bracket (fuel : ℕ) (cs : List Char) : readItems fuel (']' :: cs) = none := by
  have hvalue : ∀ fuel, readValue fuel (']' :: cs) = none := by
    intro fuel
    cases fuel with
    | zero => rw [readValue]
    | succ fuel =>
      rw [readValue, skipSpace_cons _ _ (by decide)]
      simp [readNumber, readInteger, readDigits, digits]
  cases fuel with
  | zero => rw [readItems]
  | succ fuel => rw [readItems, hvalue]

theorem readValue_bracket (fuel : ℕ) (cs : List Char) :
    readValue (fuel + 1) ('[' :: cs) =
      match skipSpace cs with
      | ']' :: rest => some (.array [], rest)
      | rest => (readItems fuel rest).map fun r => (.array r.1, r.2) := by
  rw [readValue, skipSpace_cons '[' _ (by decide)]
  rfl

theorem readsAs_array {items : List Json} {body : List Char} (h : ReadsAsItems body items) :
    ReadsAs (['['] ++ body ++ [']']) (.array items) := by
  intro fuel rest hfuel
  simp only [List.length_append, List.length_cons, List.length_nil] at hfuel
  obtain ⟨left, rfl⟩ : ∃ left, fuel = left + 1 := ⟨fuel - 1, by omega⟩
  have hitems := h left rest (by omega)
  rw [← readItems_skipSpace] at hitems
  simp only [List.append_assoc, List.cons_append, List.nil_append]
  rw [readValue_bracket]
  split
  · next heq =>
    rw [heq, readItems_bracket] at hitems
    cases hitems
  · rw [hitems]
    rfl

theorem readsAs_array_nil : ReadsAs ['[', ']'] (.array []) := by
  intro fuel rest hfuel
  simp only [List.length_cons, List.length_nil] at hfuel
  obtain ⟨left, rfl⟩ : ∃ left, fuel = left + 1 := ⟨fuel - 1, by omega⟩
  simp only [List.cons_append, List.nil_append, readValue_bracket,
    skipSpace_cons ']' rest (by decide)]

/-- White space may stand in front of the key of a member and behind its colon. -/
theorem readMembers_member (h : ReadsAs cs j) (hs : IsGap s) (hs' : IsGap s') (key : List Char)
    (fuel : ℕ) (rest : List Char)
    (hfuel : 2 * (s ++ printedString (some key) ++ [':'] ++ s' ++ cs).length ≤ fuel) :
    readMembers (fuel + 1) (s ++ printedString (some key) ++ [':'] ++ s' ++ cs ++ rest) =
      match skipSpace rest with
      | ',' :: more => (readMembers fuel more).map fun r => ((some key, j) :: r.1, r.2)
      | '\x7d' :: more => some ([(some key, j)], more)
      | _ => none := by
  have hlength := length_le_flatMap_printedChar key
  simp only [printedString_some, List.length_append, List.length_cons, List.length_nil] at hfuel
  have hvalue := h.after_gap hs' fuel rest (by rw [List.length_append]; omega)
  simp only [printedString_some, List.append_assoc, List.cons_append, List.nil_append] at hvalue ⊢
  rw [readMembers, skipSpace_gap_cons hs '"' _ (by decide)]
  simp only [readString_printed key _ fuel (by omega), skipSpace_cons ':' _ (by decide)]
  exact hvalue ▸ rfl

theorem readsAsMembers_last {gap : List Char} (h : ReadsAs cs j) (hs : IsGap s) (hs' : IsGap s')
    (key : List Char) (hgap : IsGap gap) :
    ReadsAsMembers (s ++ printedString (some key) ++ [':'] ++ s' ++ cs ++ gap)
      [(some key, j)] := by
  intro fuel rest hfuel
  rw [List.length_append] at hfuel
  obtain ⟨left, rfl⟩ : ∃ left, fuel = left + 1 := ⟨fuel - 1, by omega⟩
  rw [List.append_assoc _ gap, readMembers_member h hs hs' key left _ (by omega)]
  simp only [skipSpace_gap_cons hgap '\x7d' rest (by decide)]

theorem readsAsMembers_cons {members : List (Option (List Char) × Json)} {body : List Char}
    (h : ReadsAs cs j) (hs : IsGap s) (hs' : IsGap s') (key : List Char)
    (hbody : ReadsAsMembers body members) :
    ReadsAsMembers (s ++ printedString (some key) ++ [':'] ++ s' ++ cs ++ ',' :: body)
      ((some key, j) :: members) := by
  intro fuel rest hfuel
  rw [List.length_append, List.length_cons] at hfuel
  obtain ⟨left, rfl⟩ : ∃ left, fuel = left + 1 := ⟨fuel - 1, by omega⟩
  rw [List.append_assoc _ (',' :: body), readMembers_member h hs hs' key left _ (by omega)]
  simp only [List.cons_append, skipSpace_cons ',' _ (by decide), hbody left rest (by omega),
    Option.map_some]

theorem readMembers_brace (fuel : ℕ) (cs : List Char) :
    readMembers fuel ('\x7d' :: cs) = none := by
  cases fuel with
  | zero => rw [readMembers]
  | succ fuel =>
    rw [readMembers, skipSpace_cons _ _ (by decide)]
    rfl

theorem readValue_brace (fuel : ℕ) (cs : List Char) :
    readValue (fuel + 1) ('\x7b' :: cs) =
      match skipSpace cs with
      | '\x7d' :: rest => some (.object [], rest)
      | rest => (readMembers fuel rest).map fun r => (.object r.1, r.2) := by
  rw [readValue, skipSpace_cons '\x7b' _ (by decide)]
  rfl

theorem readsAs_object {members : List (Option (List Char) × Json)} {body : List Char}
    (h : ReadsAsMembers body members) :
    ReadsAs (['\x7b'] ++ body ++ ['\x7d']) (.object members) := by
  intro fuel rest hfuel
  simp only [List.length_append, List.length_cons, List.length_nil] at hfuel
  obtain ⟨left, rfl⟩ : ∃ left, fuel = left + 1 := ⟨fuel - 1, by omega⟩
  have hmembers := h left rest (by omega)
  rw [← readMembers_skipSpace] at hmembers
  simp only [List.append_assoc, List.cons_append, List.nil_append]
  rw [readValue_brace]
  split
  · next heq =>
    rw [heq, readMembers_brace] at hmembers
    cases hmembers
  · rw [hmembers]
    rfl

theorem readsAs_object_nil : ReadsAs ['\x7b', '\x7d'] (.object []) := by
  intro fuel rest hfuel
  simp only [List.length_cons, List.length_nil] at hfuel
  obtain ⟨left, rfl⟩ : ∃ left, fuel = left + 1 := ⟨fuel - 1, by omega⟩
  simp only [List.cons_append, List.nil_append, readValue_brace,
    skipSpace_cons '\x7d' rest (by decide)]

end Layouts

theorem readsAsItems_compact (items : List Json) (hne : items ≠ [])
    (hitems : ∀ item ∈ items, ReadsAs (compactChars item) item) :
    ReadsAsItems (compactItems items) items := by
  induction items with
  | nil => exact absurd rfl hne
  | cons item items ih =>
    rw [List.forall_mem_cons] at hitems
    cases items with
    | nil => simpa only [compactItems, List.append_nil] using readsAsItems_last hitems.1 isGap_nil
    | cons next items =>
      have hrest := ih (List.cons_ne_nil _ _) hitems.2
      simpa only [compactItems, List.append_assoc, List.cons_append, List.nil_append] using
        readsAsItems_cons hitems.1 hrest

theorem readsAsMembers_compact (members : List (Option (List Char) × Json)) (hne : members ≠ [])
    (hkeys : ∀ m ∈ members, ∃ cs, m.1 = some cs)
    (hvalues : ∀ m ∈ members, ReadsAs (compactChars m.2) m.2) :
    ReadsAsMembers (compactMembers members) members := by
  induction members with
  | nil => exact absurd rfl hne
  | cons m members ih =>
    rw [List.forall_mem_cons] at hkeys hvalues
    obtain ⟨key, value⟩ := m
    obtain ⟨⟨cs, rfl⟩, hkeys⟩ := hkeys
    cases members with
    | nil =>
      simpa only [compactMembers, List.nil_append, List.append_nil] using
        readsAsMembers_last hvalues.1 isGap_nil isGap_nil cs isGap_nil
    | cons next members =>
      have hrest := ih (List.cons_ne_nil _ _) hkeys hvalues.2
      simpa only [compactMembers, List.append_assoc, List.cons_append, List.nil_append] using
        readsAsMembers_cons hvalues.1 isGap_nil isGap_nil cs hrest

theorem readsAs_compact (j : Json) (hj : Textual j) : ReadsAs (compactChars j) j := by
  induction hj with
  | null => exact readsAs_null
  | boolean b => exact readsAs_boolean b
  | string cs => exact readsAs_string cs
  | array items _ ih =>
    cases items with
    | nil => exact readsAs_array_nil
    | cons item items =>
      exact readsAs_array (readsAsItems_compact _ (List.cons_ne_nil _ _) ih)
  | object members hkeys _ ih =>
    cases members with
    | nil => exact readsAs_object_nil
    | cons m members =>
      exact readsAs_object (readsAsMembers_compact _ (List.cons_ne_nil _ _) hkeys ih)

/-- Items over several lines, with the margin of the closing bracket behind them. -/
theorem readsAsItems_pretty (depth : ℕ) {gap : List Char} (hgap : IsGap gap) (items : List Json)
    (hne : items ≠ []) (hitems : ∀ item ∈ items, ReadsAs (prettyChars depth item) item) :
    ReadsAsItems (prettyItems depth items ++ gap) items := by
  induction items with
  | nil => exact absurd rfl hne
  | cons item items ih =>
    rw [List.forall_mem_cons] at hitems
    have hitem := hitems.1.after_gap (isGap_margin depth)
    cases items with
    | nil => exact readsAsItems_last hitem hgap
    | cons next items =>
      have hrest := ih (List.cons_ne_nil _ _) hitems.2
      simpa only [prettyItems, List.append_assoc, List.cons_append, List.nil_append] using
        readsAsItems_cons hitem hrest

theorem readsAsMembers_pretty (depth : ℕ) {gap : List Char} (hgap : IsGap gap)
    (members : List (Option (List Char) × Json)) (hne : members ≠ [])
    (hkeys : ∀ m ∈ members, ∃ cs, m.1 = some cs)
    (hvalues : ∀ m ∈ members, ReadsAs (prettyChars depth m.2) m.2) :
    ReadsAsMembers (prettyMembers depth members ++ gap) members := by
  have hspace : IsGap [' '] := by
    intro c hc
    rw [List.mem_singleton.mp hc]
    decide
  induction members with
  | nil => exact absurd rfl hne
  | cons m members ih =>
    rw [List.forall_mem_cons] at hkeys hvalues
    obtain ⟨key, value⟩ := m
    obtain ⟨⟨cs, rfl⟩, hkeys⟩ := hkeys
    cases members with
    | nil =>
      simpa only [prettyMembers, List.append_assoc, List.cons_append, List.nil_append] using
        readsAsMembers_last hvalues.1 (isGap_margin depth) hspace cs hgap
    | cons next members =>
      have hrest := ih (List.cons_ne_nil _ _) hkeys hvalues.2
      simpa only [prettyMembers, List.append_assoc, List.cons_append, List.nil_append] using
        readsAsMembers_cons hvalues.1 (isGap_margin depth) hspace cs hrest

theorem readsAs_pretty (j : Json) (hj : Textual j) (depth : ℕ) :
    ReadsAs (prettyChars depth j) j := by
  induction hj generalizing depth with
  | null => exact readsAs_null
  | boolean b =>
    have hsame : prettyChars depth (.boolean b) = compactChars (.boolean b) := by
      cases b <;> simp only [prettyChars, compactChars]
    rw [hsame]
    exact readsAs_boolean b
  | string cs => exact readsAs_string cs
  | array items _ ih =>
    cases items with
    | nil => exact readsAs_array_nil
    | cons item items =>
      have hitems := readsAsItems_pretty (depth + 1) (isGap_margin depth) (item :: items)
        (List.cons_ne_nil _ _) fun i hi => ih i hi (depth + 1)
      simpa only [prettyChars, List.append_assoc] using readsAs_array hitems
  | object members hkeys _ ih =>
    cases members with
    | nil => exact readsAs_object_nil
    | cons m members =>
      have hmembers := readsAsMembers_pretty (depth + 1) (isGap_margin depth) (m :: members)
        (List.cons_ne_nil _ _) hkeys fun n hn => ih n hn (depth + 1)
      simpa only [prettyChars, List.append_assoc] using readsAs_object hmembers

theorem ReadsAs.readChars?_eq {cs : List Char} {j : Json} (h : ReadsAs cs j) :
    readChars? cs = some j := by
  have hread := h (2 * cs.length + 2) [] (by omega)
  rw [List.append_nil] at hread
  simp [readChars?, hread, skipSpace]

/-- A value is what its own text denotes, whichever way it is written. -/
theorem read?_compact (j : Json) (hj : Textual j) : read? j.compact = some j := by
  rw [read?, compact, String.toList_ofList, (readsAs_compact j hj).readChars?_eq]

theorem read?_pretty (j : Json) (hj : Textual j) : read? j.pretty = some j := by
  rw [read?, pretty, String.toList_ofList, (readsAs_pretty j hj 0).readChars?_eq]

theorem feed_not_mem_printedChar (c : Char) : '\n' ∉ printedChar c := by
  have hdigit : ∀ n, n < 16 → '\n' ≠ lowerHexDigit n := by decide
  unfold printedChar
  by_cases hfeed : c = '\n'
  · subst hfeed
    decide
  split_ifs with hquote hslash hreturn htab hback hform hcontrol
  · decide
  · decide
  · decide
  · decide
  · decide
  · decide
  · have hhigh := hdigit (c.toNat / 16) (by omega)
    have hlow := hdigit (c.toNat % 16) (by omega)
    simp [hhigh, hlow]
  · simpa using Ne.symm hfeed

theorem feed_not_mem_printedString (cs : List Char) : '\n' ∉ printedString (some cs) := by
  have hchars : '\n' ∉ cs.flatMap printedChar := by
    intro hmem
    obtain ⟨c, _, hc⟩ := List.mem_flatMap.mp hmem
    exact feed_not_mem_printedChar c hc
  simpa [printedString_some] using hchars

theorem feed_not_mem_compactItems (items : List Json)
    (hitems : ∀ item ∈ items, '\n' ∉ compactChars item) : '\n' ∉ compactItems items := by
  induction items with
  | nil => simp [compactItems]
  | cons item items ih =>
    have hitem := hitems item List.mem_cons_self
    have hrest := ih fun i hi => hitems i (List.mem_cons_of_mem _ hi)
    cases items with
    | nil => simpa only [compactItems] using hitem
    | cons next items => simp [compactItems, hitem, hrest]

theorem feed_not_mem_compactMembers (members : List (Option (List Char) × Json))
    (hkeys : ∀ m ∈ members, ∃ cs, m.1 = some cs)
    (hvalues : ∀ m ∈ members, '\n' ∉ compactChars m.2) : '\n' ∉ compactMembers members := by
  induction members with
  | nil => simp [compactMembers]
  | cons m members ih =>
    obtain ⟨key, value⟩ := m
    obtain ⟨cs, hcs⟩ := hkeys (key, value) List.mem_cons_self
    have hvalue : '\n' ∉ compactChars value := hvalues (key, value) List.mem_cons_self
    have hrest := ih (fun n hn => hkeys n (List.mem_cons_of_mem _ hn))
      (fun n hn => hvalues n (List.mem_cons_of_mem _ hn))
    have hkey := feed_not_mem_printedString cs
    subst hcs
    cases members with
    | nil => simp [compactMembers, hkey, hvalue]
    | cons next members => simp [compactMembers, hkey, hvalue, hrest]

theorem feed_not_mem_compactChars (j : Json) (hj : Textual j) : '\n' ∉ compactChars j := by
  induction hj with
  | null => decide
  | boolean b => cases b <;> decide
  | string cs => exact feed_not_mem_printedString cs
  | array items _ ih => simp [compactChars, feed_not_mem_compactItems items ih]
  | object members hkeys _ ih =>
    simp [compactChars, feed_not_mem_compactMembers members hkeys ih]

theorem text?_text (s : String) : (Json.text s).text? = some s := by
  simp [Json.text, text?]

theorem mapM_some {α β : Type} (f : α → Option β) (g : α → β) (xs : List α)
    (hf : ∀ x ∈ xs, f x = some (g x)) : xs.mapM f = some (xs.map g) := by
  induction xs with
  | nil => rfl
  | cons x xs ih =>
    rw [List.mapM_cons, hf x List.mem_cons_self,
      ih fun y hy => hf y (List.mem_cons_of_mem _ hy)]
    rfl

/-- In a record whose names differ, a name leads to its own value. -/
theorem memberField_record (members : List (String × Json))
    (hnames : (members.map Prod.fst).Nodup) (m : String × Json) (hm : m ∈ members) :
    memberField (members.map fun n => (some n.1.toList, n.2)) m.1 = some (.given m.2) := by
  have hfilter : (members.map fun n => (some n.1.toList, n.2)).filter
      (fun n => n.1 == some m.1.toList) = [(some m.1.toList, m.2)] := by
    induction members with
    | nil => simp at hm
    | cons n members ih =>
      rw [List.map_cons, List.nodup_cons] at hnames
      have hother : ∀ k ∈ members, n.1 ≠ k.1 := by
        intro k hk heq
        exact hnames.1 (heq ▸ List.mem_map_of_mem hk)
      rcases List.mem_cons.mp hm with rfl | hmem
      · have hnone : (members.map fun k => (some k.1.toList, k.2)).filter
            (fun k => k.1 == some m.1.toList) = [] := by
          rw [List.filter_eq_nil_iff]
          intro k hk
          obtain ⟨k', hk', rfl⟩ := List.mem_map.mp hk
          simpa [String.toList_inj] using Ne.symm (hother k' hk')
        simp [hnone]
      · have hne : n.1 ≠ m.1 := hother m hmem
        simpa [String.toList_inj, hne] using ih hnames.2 hmem
  simp only [memberField, hfilter]

theorem fields?_record (members : List (String × Json)) (hnames : (members.map Prod.fst).Nodup) :
    fields? (members.map Prod.fst) (.record members) =
      some (members.map fun m => .given m.2) := by
  have hkeys : (members.map fun n => (some n.1.toList, n.2)).all
      (fun n => n.1.isSome) = true := by
    simp
  simp only [fields?, record, hkeys, if_true, List.mapM_map]
  exact mapM_some _ _ members fun m hm => memberField_record members hnames m hm

theorem listOf?_array {α : Type} (item? : Json → Option α) (toJson : α → Json) (xs : List α)
    (hitem : ∀ x, item? (toJson x) = some x) :
    listOf? item? (.array (xs.map toJson)) = some xs := by
  rw [listOf?, List.mapM_map, mapM_some (item? ∘ toJson) id xs fun x _ => hitem x, List.map_id]

end TemplateBatch.Json
