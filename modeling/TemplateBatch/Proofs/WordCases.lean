import TemplateBatch.Proofs.WordRuns

/-!
Words and the ways to write them together. Words of settled characters, in which no case is left to
change, are cut only where something stands between them, so that the words of an identifier in snake
case are those that it was made of. In ASCII the words of any text are settled, and every way of
writing it together can be had from its snake case.
-/
namespace TemplateBatch.Text

/-- A letter or number that is no upper-case letter and has no other lower case than itself. -/
structure IsSettled (c : Char) : Prop where
  isAlphanumeric : isAlphanumeric c = true
  not_isUppercase : isUppercase c = false
  toLowercase : toLowercase c = [c]

structure IsSettledWord (w : List Char) : Prop where
  ne_nil : w ≠ []
  settled : ∀ c ∈ w, IsSettled c

theorem IsSettledWord.isRun {w : List Char} (h : IsSettledWord w) : IsRun w := by
  refine ⟨fun c hc => (h.settled c hc).isAlphanumeric, ?_⟩
  refine (List.pairwise_of_forall_mem_list fun c _ d hd => ?_).isChain
  rw [continuesWord, (h.settled d hd).not_isUppercase]
  rfl

theorem IsSettledWord.lowered_eq {w : List Char} (h : IsSettledWord w) : lowered w = w := by
  have hsame : ∀ c ∈ w, toLowercase c = [c] := fun c hc => (h.settled c hc).toLowercase
  rw [lowered, List.flatMap_congr hsame, List.flatMap_singleton']

theorem words_word {w : List Char} (h : IsSettledWord w) : words w = [w] := by
  rw [words_eq_runs, wordRuns_run h.isRun, if_neg h.ne_nil, List.map_singleton, h.lowered_eq]

/-- A word is cut off at the underscore behind it. -/
theorem words_word_append {w : List Char} (h : IsSettledWord w) (rest : List Char) :
    words (w ++ '_' :: rest) = w :: words rest := by
  have hunderscore : isAlphanumeric '_' = false := by decide
  rw [words_eq_runs, wordRuns_append_other w rest hunderscore, List.map_append, ← words_eq_runs,
    ← words_eq_runs, words_word h, List.singleton_append]

/-- Settled words with underscores between them are the words of what they are joined to. -/
theorem words_joinChars {ws : List (List Char)} (h : ∀ w ∈ ws, IsSettledWord w) :
    words (joinChars ['_'] ws) = ws := by
  induction ws with
  | nil => rfl
  | cons w ws ih =>
    rw [List.forall_mem_cons] at h
    obtain ⟨hw, hws⟩ := h
    by_cases hnil : ws = []
    · rw [hnil]
      exact words_word hw
    · rw [joinChars_cons _ _ hnil, List.append_assoc, List.singleton_append,
        words_word_append hw, ih hws]

/-- The lower case of a letter or number is settled. -/
def SettlesInLowerCase (c : Char) : Prop :=
  isAlphanumeric c = true → ∀ d ∈ toLowercase c, IsSettled d

theorem isSettledWord_of_mem_words {cs : List Char} (h : ∀ c ∈ cs, SettlesInLowerCase c) :
    ∀ w ∈ words cs, IsSettledWord w := by
  intro w hw
  rw [words_eq_runs] at hw
  obtain ⟨run, hrun, rfl⟩ := List.mem_map.mp hw
  refine ⟨mt lowered_eq_nil_iff.mp (ne_nil_of_mem_wordRuns hrun), fun d hd => ?_⟩
  obtain ⟨c, hc, hlower⟩ := List.mem_flatMap.mp hd
  have hread : c ∈ cs.filter isAlphanumeric := by
    rw [← flatten_wordRuns]
    exact List.mem_flatten_of_mem hrun hc
  obtain ⟨hmem, halphanumeric⟩ := List.mem_filter.mp hread
  exact h c hmem halphanumeric d hlower

theorem words_snakeCase {cs : List Char} (h : ∀ c ∈ cs, SettlesInLowerCase c) :
    words (snakeCaseChars cs) = words cs :=
  words_joinChars (isSettledWord_of_mem_words h)

theorem isSettled_iff {c : Char} :
    IsSettled c ↔ isAlphanumeric c = true ∧ isUppercase c = false ∧ toLowercase c = [c] :=
  ⟨fun h => ⟨h.isAlphanumeric, h.not_isUppercase, h.toLowercase⟩, fun h => ⟨h.1, h.2.1, h.2.2⟩⟩

instance (c : Char) : Decidable (IsSettled c) := decidable_of_iff _ isSettled_iff.symm

theorem settlesInLowerCase_of_ascii {c : Char} (h : c.toNat < 128) : SettlesInLowerCase c := by
  have hall : ∀ n < 128, isAlphanumeric (Char.ofNat n) = true →
      IsSettled (Char.ofNat n).toLower := by decide +kernel
  have hc := hall c.toNat h
  rw [Char.ofNat_toNat] at hc
  intro halphanumeric
  rw [toLowercase, if_pos h, List.forall_mem_singleton]
  exact hc halphanumeric

/-- An identifier of ASCII characters can be rewritten in any case from its snake case, which is left
as it is by another rewriting. -/
theorem cases_of_snakeCase (s : String) (h : ∀ c ∈ s.toList, c.toNat < 128) :
    snakeCase (snakeCase s) = snakeCase s ∧
      pascalCase (snakeCase s) = pascalCase s ∧
      camelCase (snakeCase s) = camelCase s ∧
      screamingCase (snakeCase s) = screamingCase s := by
  have hwords : words (snakeCase s).toList = words s.toList := by
    rw [snakeCase, String.toList_ofList]
    exact words_snakeCase fun c hc => settlesInLowerCase_of_ascii (h c hc)
  have hsnake : snakeCaseChars (snakeCase s).toList = snakeCaseChars s.toList := by
    rw [snakeCaseChars, hwords]
    rfl
  have hpascal : pascalCaseChars (snakeCase s).toList = pascalCaseChars s.toList := by
    rw [pascalCaseChars, hwords]
    rfl
  refine ⟨?_, ?_, ?_, ?_⟩
  · rw [snakeCase, hsnake]
    rfl
  · rw [pascalCase, hpascal]
    rfl
  · rw [camelCase, camelCaseChars, hpascal]
    rfl
  · rw [screamingCase, screamingCaseChars, hsnake]
    rfl

/-- A run of capitals, a number, and separators beside each other and at an end. -/
theorem cases_of_snakeCase_sample :
    (∀ c ∈ "_HTTPRequest2Go--now".toList, c.toNat < 128) ∧
      snakeCase (snakeCase "_HTTPRequest2Go--now") = snakeCase "_HTTPRequest2Go--now" ∧
      pascalCase (snakeCase "_HTTPRequest2Go--now") = pascalCase "_HTTPRequest2Go--now" ∧
      camelCase (snakeCase "_HTTPRequest2Go--now") = camelCase "_HTTPRequest2Go--now" ∧
      screamingCase (snakeCase "_HTTPRequest2Go--now") = screamingCase "_HTTPRequest2Go--now" := by
  have hall : ("_HTTPRequest2Go--now".toList.all fun c => c.toNat < 128) = true := by decide
  have hascii : ∀ c ∈ "_HTTPRequest2Go--now".toList, c.toNat < 128 :=
    fun c hc => of_decide_eq_true (List.all_eq_true.mp hall c hc)
  exact ⟨hascii, cases_of_snakeCase "_HTTPRequest2Go--now" hascii⟩

/-- A capital that has no small letter begins a word only behind a small letter, which it may come to
stand behind in snake case. -/
example : snakeCase "A𝐁" = "a𝐁" ∧ snakeCase "a𝐁" = "a_𝐁" := by decide +kernel

end TemplateBatch.Text
