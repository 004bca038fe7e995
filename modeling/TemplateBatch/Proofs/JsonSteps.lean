import TemplateBatch.Proofs.JsonRoundTrip

/-!
How many steps the reading of a text takes. A reader that comes to a result has used up some of the
text and comes to the same result with two steps for each character of it, so that any greater
number of steps makes no difference.
-/
namespace TemplateBatch.Json

section Groups
variable {α : Type} (one : List Char → Option (α × List Char))
  (more : List Char → Option (List α × List Char)) (close : Char) (wrap : List α → Json)

/-- What is read up to the closing character, from one item on and with `more` behind a comma. -/
def readGroup (cs : List Char) : Option (List α × List Char) :=
  match one cs with
  | none => none
  | some (x, rest) =>
    match skipSpace rest with
    | [] => none
    | c :: behind =>
      if c = ',' then (more behind).map fun r => (x :: r.1, r.2)
      else if c = close then some ([x], behind)
      else none

/-- What is read behind an opening character: nothing up to the closing one, or a group. -/
def readEnclosed (cs : List Char) : Option (Json × List Char) :=
  match skipSpace cs with
  | [] => none
  | c :: rest =>
    if c = close then some (wrap [], rest)
    else (more (c :: rest)).map fun r => (wrap r.1, r.2)

/-- A member up to the comma or the brace behind it. -/
def readMember (fuel : ℕ) (cs : List Char) : Option ((Option (List Char) × Json) × List Char) :=
  match skipSpace cs with
  | [] => none
  | c :: text =>
    if c = '"' then
      match readString fuel text with
      | none => none
      | some (key, rest) =>
        match skipSpace rest with
        | [] => none
        | d :: behind =>
          if d = ':' then (readValue fuel behind).map fun r => ((key, r.1), r.2) else none
    else none

theorem readValue_nil (fuel : ℕ) : readValue fuel [] = none := by
  cases fuel with
  | zero => rw [readValue]
  | succ fuel =>
    rw [readValue]
    rfl

theorem readItems_nil (fuel : ℕ) : readItems fuel [] = none := by
  cases fuel with
  | zero => rw [readItems]
  | succ fuel => rw [readItems, readValue_nil]

theorem readMembers_nil (fuel : ℕ) : readMembers fuel [] = none := by
  cases fuel with
  | zero => rw [readMembers]
  | succ fuel =>
    rw [readMembers]
    rfl

theorem readValue_array (fuel : ℕ) (cs : List Char) :
    readValue (fuel + 1) ('[' :: cs) = readEnclosed (readItems fuel) ']' .array cs := by
  rw [readValue_bracket, readEnclosed]
  split
  · next rest heq => simp only [heq, if_true]
  · next hend =>
    cases hcs : skipSpace cs with
    | nil => rw [readItems_nil, Option.map_none]
    | cons c rest =>
      have hc : c ≠ ']' := fun h => hend rest (h ▸ hcs)
      simp only [hc, if_false]

theorem readValue_object (fuel : ℕ) (cs : List Char) :
    readValue (fuel + 1) ('\x7b' :: cs) = readEnclosed (readMembers fuel) '\x7d' .object cs := by
  rw [readValue_brace, readEnclosed]
  split
  · next rest heq => simp only [heq, if_true]
  · next hend =>
    cases hcs : skipSpace cs with
    | nil => rw [readMembers_nil, Option.map_none]
    | cons c rest =>
      have hc : c ≠ '\x7d' := fun h => hend rest (h ▸ hcs)
      simp only [hc, if_false]

theorem readItems_succ (fuel : ℕ) :
    readItems (fuel + 1) = readGroup (readValue fuel) (readItems fuel) ']' := by
  funext cs
  rw [readItems, readGroup]
  cases readValue fuel cs with
  | none => rfl
  | some r =>
    dsimp only
    split
    · next heq => simp only [heq, if_true]
    · next heq => simp [heq]
    · next hcomma hend =>
      cases hrest : skipSpace r.2 with
      | nil => rfl
      | cons c rest =>
        have hc : c ≠ ',' := fun h => hcomma rest (h ▸ hrest)
        have hc' : c ≠ ']' := fun h => hend rest (h ▸ hrest)
        simp only [hc, hc', if_false]

theorem readMembers_succ (fuel : ℕ) :
    readMembers (fuel + 1) = readGroup (readMember fuel) (readMembers fuel) '\x7d' := by
  funext cs
  rw [readMembers, readGroup, readMember]
  split
  · next text hquote =>
    simp only [hquote, if_true]
    cases readString fuel text with
    | none => rfl
    | some key =>
      dsimp only
      split
      · next rest hcolon =>
        simp only [hcolon, if_true]
        cases readValue fuel rest with
        | none => rfl
        | some value =>
          simp only [Option.map_some]
          split
          · next heq => simp only [heq, if_true]
          · next heq => simp [heq]
          · next hcomma hend =>
            cases hrest : skipSpace value.2 with
            | nil => rfl
            | cons c rest =>
              have hc : c ≠ ',' := fun h => hcomma rest (h ▸ hrest)
              have hc' : c ≠ '\x7d' := fun h => hend rest (h ▸ hrest)
              simp only [hc, hc', if_false]
      · next hcolon =>
        cases hrest : skipSpace key.2 with
        | nil => rfl
        | cons c rest =>
          have hc : c ≠ ':' := fun h => hcolon rest (h ▸ hrest)
          simp only [hc, if_false]
  · next hquote =>
    cases htext : skipSpace cs with
    | nil => rfl
    | cons c text =>
      have hc : c ≠ '"' := fun h => hquote text (h ▸ htext)
      simp only [hc, if_false]

end Groups

section Steps
variable {cs rest : List Char}

theorem length_skipSpace_le (cs : List Char) : (skipSpace cs).length ≤ cs.length :=
  (List.dropWhile_sublist isSpace).length_le

theorem length_of_readUnit {unit : ℕ} (h : readUnit cs = some (unit, rest)) :
    rest.length < cs.length := by
  unfold readUnit at h
  split at h
  · next a b c d more =>
    simp only [Option.bind_eq_bind, Option.bind_eq_some_iff, Option.pure_def, Option.some.injEq,
      Prod.mk.injEq] at h
    obtain ⟨_, _, _, _, _, _, _, _, -, rfl⟩ := h
    simp only [List.length_cons]
    omega
  · cases h

theorem length_readPair_le (unit : ℕ) (rest : List Char) :
    (readPair unit rest).2.length ≤ rest.length := by
  unfold readPair
  split_ifs
  · split
    · next more =>
      cases hlow : readUnit more with
      | none => exact Nat.le_refl _
      | some r =>
        have hless : r.2.length < more.length := length_of_readUnit hlow
        simp only
        split_ifs
        · simp only [List.length_cons]
          omega
        · exact Nat.le_refl _
    · exact Nat.le_refl _
  · exact Nat.le_refl _
  · exact Nat.le_refl _

theorem length_of_readChar {found : Option Char} (h : readChar cs = some (found, rest)) :
    rest.length < cs.length := by
  unfold readChar at h
  split at h
  · cases h
  · next more =>
    simp only [Option.bind_eq_bind, Option.bind_eq_some_iff, Option.pure_def, Option.some.injEq]
      at h
    obtain ⟨r, hr, hpair⟩ := h
    have hless : r.2.length < more.length := length_of_readUnit hr
    have hle := length_readPair_le r.1 r.2
    rw [hpair] at hle
    exact Nat.lt_succ_of_lt (Nat.lt_succ_of_lt (Nat.lt_of_le_of_lt hle hless))
  · next c more _ =>
    obtain ⟨d, -, hd⟩ := Option.map_eq_some_iff.mp h
    cases hd
    simp only [List.length_cons]
    omega
  · next c more _ _ =>
    split_ifs at h
    cases h
    exact Nat.lt_succ_self _

/-- A string that is read takes no more steps than it has characters. -/
theorem readStringFrom_steps {fuel : ℕ} {before : Option (List Char)}
    {found : Option (List Char)} (h : readStringFrom fuel before cs = some (found, rest)) :
    rest.length < cs.length ∧
    ∀ n, cs.length ≤ n → readStringFrom n before cs = some (found, rest) := by
  induction fuel generalizing before cs with
  | zero => cases h
  | succ fuel ih =>
    cases cs with
    | nil => cases h
    | cons c cs =>
      rw [readStringFrom] at h
      by_cases hquote : c = '"'
      · rw [if_pos hquote] at h
        cases h
        refine ⟨Nat.lt_succ_self _, fun n hn => ?_⟩
        obtain ⟨n, rfl⟩ : ∃ k, n = k + 1 := ⟨n - 1, by simp at hn; omega⟩
        rw [readStringFrom, if_pos hquote]
      · rw [if_neg hquote] at h
        cases hchar : readChar (c :: cs) with
        | none =>
          rw [hchar] at h
          cases h
        | some r =>
          rw [hchar] at h
          have hless : r.2.length < (c :: cs).length := length_of_readChar hchar
          obtain ⟨hrest, hsteps⟩ := ih h
          refine ⟨Nat.lt_trans hrest hless, fun n hn => ?_⟩
          obtain ⟨n, rfl⟩ : ∃ k, n = k + 1 := ⟨n - 1, by simp at hn; omega⟩
          rw [readStringFrom, if_neg hquote, hchar]
          exact hsteps n (by omega)

theorem length_of_readDigits {found : List Char} (h : readDigits cs = some (found, rest)) :
    rest.length < cs.length := by
  unfold readDigits at h
  split_ifs at h with hnone
  cases h
  have hparts : cs.takeWhile Char.isDigit ++ cs.dropWhile Char.isDigit = cs :=
    List.takeWhile_append_dropWhile
  have hpos : 0 < (cs.takeWhile Char.isDigit).length := List.length_pos_iff.mpr hnone
  have hlength := congrArg List.length hparts
  rw [List.length_append] at hlength
  omega

theorem length_of_readInteger {found : List Char} (h : readInteger cs = some (found, rest)) :
    rest.length < cs.length := by
  simp only [readInteger, Option.bind_eq_bind, Option.bind_eq_some_iff] at h
  obtain ⟨r, hr, h⟩ := h
  split_ifs at h
  cases h
  exact length_of_readDigits hr

theorem length_of_readFraction {found : List Char} (h : readFraction cs = some (found, rest)) :
    rest.length ≤ cs.length := by
  unfold readFraction at h
  split at h
  · next more =>
    obtain ⟨r, hr, heq⟩ := Option.map_eq_some_iff.mp h
    cases heq
    exact Nat.le_succ_of_le (Nat.le_of_lt (length_of_readDigits hr))
  · cases h
    exact Nat.le_refl _

theorem length_of_readExponent {found : List Char} (h : readExponent cs = some (found, rest)) :
    rest.length ≤ cs.length := by
  cases cs with
  | nil =>
    cases h
    exact Nat.le_refl _
  | cons c cs =>
    by_cases hmark : c = 'e' ∨ c = 'E'
    · simp only [readExponent, if_pos hmark] at h
      split at h
      · next more =>
        obtain ⟨r, hr, heq⟩ := Option.map_eq_some_iff.mp h
        cases heq
        exact Nat.le_succ_of_le (Nat.le_succ_of_le (Nat.le_of_lt (length_of_readDigits hr)))
      · next more =>
        obtain ⟨r, hr, heq⟩ := Option.map_eq_some_iff.mp h
        cases heq
        exact Nat.le_succ_of_le (Nat.le_succ_of_le (Nat.le_of_lt (length_of_readDigits hr)))
      · obtain ⟨r, hr, heq⟩ := Option.map_eq_some_iff.mp h
        cases heq
        exact Nat.le_succ_of_le (Nat.le_of_lt (length_of_readDigits hr))
    · simp only [readExponent, if_neg hmark] at h
      cases h
      exact Nat.le_refl _

theorem length_of_readNumber {found : List Char} (h : readNumber cs = some (found, rest)) :
    rest.length < cs.length := by
  simp only [readNumber, Option.bind_eq_bind, Option.bind_eq_some_iff, Option.pure_def] at h
  obtain ⟨whole, hwhole, fraction, hfraction, exponent, hexponent, heq⟩ := h
  cases heq
  calc exponent.2.length
    _ ≤ fraction.2.length := length_of_readExponent hexponent
    _ ≤ whole.2.length := length_of_readFraction hfraction
    _ < (cs.drop (if cs.head? = some '-' then ['-'] else []).length).length :=
      length_of_readInteger hwhole
    _ ≤ cs.length := (List.drop_sublist _ cs).length_le

/-- What the reader finds in `fuel` steps leaves less of the text, and it finds the same in every
number of steps above two for each character and `extra`. -/
def Bounded {α : Type} (extra : ℕ) (read : ℕ → List Char → Option (α × List Char))
    (fuel : ℕ) : Prop :=
  ∀ ⦃cs rest x⦄, read fuel cs = some (x, rest) →
    rest.length < cs.length ∧ ∀ n, 2 * cs.length + extra < n → read n cs = some (x, rest)

section Step
variable {fuel : ℕ}

section Group
variable {α : Type} {one : ℕ → List Char → Option (α × List Char)}
  {more : ℕ → List Char → Option (List α × List Char)} {close : Char}

theorem bounded_group (hstep : ∀ n, more (n + 1) = readGroup (one n) (more n) close)
    (hone : Bounded 0 one fuel) (hmore : Bounded 1 more fuel) : Bounded 1 more (fuel + 1) := by
  intro cs rest xs h
  rw [hstep, readGroup] at h
  cases hx : one fuel cs with
  | none =>
    rw [hx] at h
    cases h
  | some r =>
    obtain ⟨x, left⟩ := r
    obtain ⟨hless, hsteps⟩ := hone hx
    have hskip := length_skipSpace_le left
    simp only [hx] at h
    cases hleft : skipSpace left with
    | nil =>
      rw [hleft] at h
      cases h
    | cons c behind =>
      rw [hleft, List.length_cons] at hskip
      simp only [hleft] at h
      suffices hbehind : rest.length ≤ behind.length ∧ ∀ n, 2 * behind.length + 1 < n →
          (if c = ',' then (more n behind).map fun r => (x :: r.1, r.2)
            else if c = close then some ([x], behind) else none) = some (xs, rest) by
        refine ⟨by omega, fun n hn => ?_⟩
        obtain ⟨left, rfl⟩ : ∃ left, n = left + 1 := ⟨n - 1, by omega⟩
        rw [hstep, readGroup, hsteps left (by omega)]
        simp only [hleft]
        exact hbehind.2 left (by omega)
      by_cases hcomma : c = ','
      · simp only [if_pos hcomma] at h ⊢
        obtain ⟨r, hr, hxs⟩ := Option.map_eq_some_iff.mp h
        cases hxs
        obtain ⟨hless', hsteps'⟩ := hmore hr
        refine ⟨Nat.le_of_lt hless', fun n hn => ?_⟩
        rw [hsteps' n hn]
        rfl
      · simp only [if_neg hcomma] at h ⊢
        refine ⟨?_, fun _ _ => h⟩
        split_ifs at h
        cases h
        exact Nat.le_refl _

theorem bounded_enclosed (wrap : List α → Json) (hmore : Bounded 1 more fuel) :
    Bounded 1 (fun n => readEnclosed (more n) close wrap) fuel := by
  intro cs rest j h
  have hskip := length_skipSpace_le cs
  simp only [readEnclosed] at h ⊢
  cases hcs : skipSpace cs with
  | nil =>
    rw [hcs] at h
    cases h
  | cons c text =>
    simp only [hcs] at h hskip ⊢
    by_cases hclose : c = close
    · simp only [if_pos hclose] at h ⊢
      cases h
      exact ⟨hskip, fun _ _ => rfl⟩
    · simp only [if_neg hclose] at h ⊢
      obtain ⟨r, hr, hj⟩ := Option.map_eq_some_iff.mp h
      cases hj
      obtain ⟨hless, hsteps⟩ := hmore hr
      refine ⟨by omega, fun n hn => ?_⟩
      rw [hsteps n (by omega)]
      rfl

end Group

/-- As `Bounded` for a value that begins at once, with one step counted for its first character. -/
def BoundedAt (fuel : ℕ) (cs : List Char) : Prop :=
  ∀ ⦃rest j⦄, readValue (fuel + 1) cs = some (j, rest) →
    rest.length < cs.length ∧ ∀ n, 2 * cs.length ≤ n → readValue (n + 1) cs = some (j, rest)

theorem boundedAt_enclosed {α : Type} {more : ℕ → List Char → Option (List α × List Char)}
    {c close : Char} {wrap : List α → Json} {text : List Char}
    (hread : ∀ n, readValue (n + 1) (c :: text) = readEnclosed (more n) close wrap text)
    (hmore : Bounded 1 more fuel) : BoundedAt fuel (c :: text) := by
  intro rest j h
  rw [hread] at h
  obtain ⟨hless, hsteps⟩ := bounded_enclosed wrap hmore h
  rw [List.length_cons]
  refine ⟨by omega, fun n hn => ?_⟩
  rw [hread]
  exact hsteps n (by omega)

/-- A value that is no array and no object has no values within it. -/
theorem boundedAt_plain {c : Char} {text : List Char} (hbegins : skipSpace (c :: text) = c :: text)
    (hbracket : c ≠ '[') (hbrace : c ≠ '\x7b') : BoundedAt fuel (c :: text) := by
  intro rest j h
  rw [readValue, hbegins] at h
  simp only [readValue, hbegins]
  split at h
  · next heq =>
    cases h
    cases heq
    exact ⟨by simp only [List.length_cons]; omega, fun _ _ => rfl⟩
  · next heq =>
    cases h
    cases heq
    exact ⟨by simp only [List.length_cons]; omega, fun _ _ => rfl⟩
  · next heq =>
    cases h
    cases heq
    exact ⟨by simp only [List.length_cons]; omega, fun _ _ => rfl⟩
  · next heq =>
    obtain ⟨r, hr, hj⟩ := Option.map_eq_some_iff.mp h
    cases hj
    cases heq
    obtain ⟨hless, hsteps⟩ := readStringFrom_steps hr
    rw [List.length_cons]
    refine ⟨by omega, fun n hn => ?_⟩
    simp only [readString, hsteps n (by omega), Option.map_some]
  · next heq => exact absurd (List.cons.inj heq).1 hbracket
  · next heq => exact absurd (List.cons.inj heq).1 hbrace
  · obtain ⟨r, hr, hj⟩ := Option.map_eq_some_iff.mp h
    cases hj
    exact ⟨length_of_readNumber hr, fun _ _ => h⟩

theorem bounded_value (hitems : Bounded 1 readItems fuel) (hmembers : Bounded 1 readMembers fuel) :
    Bounded 0 readValue (fuel + 1) := by
  intro cs rest j h
  have hskip := length_skipSpace_le cs
  have hidem := skipSpace_skipSpace cs
  rw [← readValue_skipSpace] at h
  have hbounded : BoundedAt fuel (skipSpace cs) := by
    cases hcs : skipSpace cs with
    | nil =>
      intro rest j hnone
      rw [readValue_nil] at hnone
      cases hnone
    | cons c text =>
      rw [hcs] at hidem
      by_cases hbracket : c = '['
      · exact boundedAt_enclosed (fun n => hbracket ▸ readValue_array n text) hitems
      by_cases hbrace : c = '\x7b'
      · exact boundedAt_enclosed (fun n => hbrace ▸ readValue_object n text) hmembers
      · exact boundedAt_plain hidem hbracket hbrace
  obtain ⟨hless, hsteps⟩ := hbounded h
  refine ⟨by omega, fun n hn => ?_⟩
  obtain ⟨left, rfl⟩ : ∃ left, n = left + 1 := ⟨n - 1, by omega⟩
  rw [← readValue_skipSpace]
  exact hsteps left (by omega)

theorem bounded_member (hvalue : Bounded 0 readValue fuel) : Bounded 0 readMember fuel := by
  intro cs rest m h
  have hskip := length_skipSpace_le cs
  rw [readMember] at h
  cases htext : skipSpace cs with
  | nil =>
    rw [htext] at h
    cases h
  | cons c text =>
    rw [htext, List.length_cons] at hskip
    simp only [htext] at h
    split_ifs at h with hquote
    cases hkey : readString fuel text with
    | none =>
      rw [hkey] at h
      cases h
    | some r =>
      obtain ⟨key, left⟩ := r
      obtain ⟨hkeyLess, hkeySteps⟩ := readStringFrom_steps hkey
      have hskip' := length_skipSpace_le left
      simp only [hkey] at h
      cases hleft : skipSpace left with
      | nil =>
        rw [hleft] at h
        cases h
      | cons d behind =>
        rw [hleft, List.length_cons] at hskip'
        simp only [hleft] at h
        split_ifs at h with hcolon
        obtain ⟨r, hr, hm⟩ := Option.map_eq_some_iff.mp h
        cases hm
        obtain ⟨hless, hsteps⟩ := hvalue hr
        refine ⟨by omega, fun n hn => ?_⟩
        rw [readMember]
        simp only [htext, if_pos hquote, readString, hkeySteps n (by omega), hleft, if_pos hcolon,
          hsteps n (by omega), Option.map_some]

end Step

theorem bounded_readers (fuel : ℕ) :
    Bounded 0 readValue fuel ∧ Bounded 1 readItems fuel ∧ Bounded 1 readMembers fuel := by
  induction fuel with
  | zero =>
    refine ⟨fun cs rest j h => ?_, fun cs rest items h => ?_, fun cs rest members h => ?_⟩
    · rw [readValue] at h
      cases h
    · rw [readItems] at h
      cases h
    · rw [readMembers] at h
      cases h
  | succ fuel ih =>
    obtain ⟨hvalue, hitems, hmembers⟩ := ih
    exact ⟨bounded_value hitems hmembers, bounded_group readItems_succ hvalue hitems,
      bounded_group readMembers_succ (bounded_member hvalue) hmembers⟩

end Steps

/-- The steps that are counted for more characters than a text has make no difference. -/
theorem readValue_eq_of_le (cs : List Char) {n : ℕ} (h : 2 * cs.length < n) :
    readValue n cs = readValue (2 * cs.length + 1) cs := by
  cases hn : readValue n cs with
  | some r => exact (((bounded_readers n).1 hn).2 _ (Nat.lt_succ_self _)).symm
  | none =>
    cases hleast : readValue (2 * cs.length + 1) cs with
    | none => rfl
    | some r =>
      rw [((bounded_readers _).1 hleast).2 n h] at hn
      cases hn

end TemplateBatch.Json
