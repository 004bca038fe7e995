import TemplateBatch.Proofs.Serving
import TemplateBatch.Runner
import TemplateBatch.Worker.Program

/-!
Host and worker agree on what went wrong. The host sees an exit code and two channels only. From
these it finds the response that the worker rendered, or that the worker missed a runtime, or the
error that stopped the worker, and takes none of them for another.
-/
namespace TemplateBatch

namespace Text

theorem infix_joinChars (separator item : List Char) (items : List (List Char))
    (h : item ∈ items) : item <:+: joinChars separator items := by
  induction items with
  | nil => simp at h
  | cons first items ih =>
    cases items with
    | nil =>
      rw [List.mem_singleton.mp h]
      exact List.infix_refl first
    | cons second items =>
      rw [joinChars]
      · rcases List.mem_cons.mp h with rfl | hrest
        · rw [List.append_assoc]
          exact List.infix_append' [] item _
        · exact (ih hrest).trans (List.suffix_append _ _).isInfix
      · simp

theorem infix_join (separator item : String) (items : List String) (h : item ∈ items) :
    item.toList <:+: (join separator items).toList := by
  rw [join, String.toList_ofList]
  exact infix_joinChars separator.toList item.toList _ (List.mem_map_of_mem h)

end Text

namespace Runner

theorem classify_missing (output errors : Bytes) :
    classify (.exited runtimeMissingCode) output errors = .runtimeMissing := by
  simp [classify]

theorem classify_failure (code : ℕ) (output : Bytes) (text : String)
    (hcode : code ≠ runtimeMissingCode) (htext : text ≠ "") :
    classify (.exited code) output (Text.Utf8.encode text) = .transportError text := by
  have herrors : Text.Utf8.encode text ≠ [] := by
    intro h
    exact htext ((Text.Utf8.encode_eq_nil_iff text).mp h)
  simp [classify, hcode, herrors, Text.Utf8.decodeLossy_encode]

theorem classify_response (r : Response) :
    classify (.exited 0) (Text.Utf8.encode r.toLine) [] = .success r := by
  have hcode : ExitStatus.exited 0 ≠ .exited runtimeMissingCode := by decide
  simp only [classify, hcode, if_false, ne_eq, not_true_eq_false,
    Response.ofText_decodeLossy_encode_toLine]

end Runner

namespace Worker

section Agreement
variable (words : Wording) (loader : Loader) (t : FileTree) (base : Location)

/-- What rendering the templates of a request comes to. -/
def rendered (preload : List Path) (q : Request) : Except WorkerError Response :=
  (ExceptT.run (answer words loader t base preload q) []).1

theorem rendered_of_does (preload : List Path) (q : Request) (r : Except WorkerError Response)
    (events : List Event) (h : (answer words loader t base preload q).Does r events) :
    rendered words loader t base preload q = r := by
  rw [rendered, h []]

/-- Serving a request fails as rendering does, and else puts the response on the output. -/
theorem serve_request (preload : List Path) (q : Request) :
    (∃ e, rendered words loader t base preload q = .error e ∧
      (serve words loader t base preload (Text.Utf8.encode q.toLine)).result = .error e) ∨
    ∃ r, rendered words loader t base preload q = .ok r ∧
      (serve words loader t base preload (Text.Utf8.encode q.toLine)).result = .ok () ∧
      (serve words loader t base preload (Text.Utf8.encode q.toLine)).output =
        Text.Utf8.encode r.toLine := by
  have hread := readRequest_toLine words q []
  rw [List.append_nil] at hread
  rcases refuses_or_fulfils words loader t base preload q with
    ⟨e, opens, k, _, hanswer⟩ | ⟨l, names, _, _, hanswer⟩
  · refine Or.inl ⟨e, rendered_of_does words loader t base preload q _ _ hanswer, ?_⟩
    rw [serve_of_does words loader t base preload _ _ _
      (does_handle_answer_error words loader t base preload _ q e _ hread hanswer)]
  · have houtput := output_response (preload ++ q.references ++ [q.compiled]) l.count
      ⟨l.itemsFrom 0 names⟩ (.ok ())
    refine Or.inr ⟨_, rendered_of_does words loader t base preload q _ _ hanswer, ?_⟩
    rw [serve_of_does words loader t base preload _ _ _
      (does_handle_answer words loader t base preload _ q _ _ hread hanswer)]
    exact ⟨rfl, houtput⟩

theorem BootstrapError.message_ne_empty (e : BootstrapError) : e.message ≠ "" := by
  unfold BootstrapError.message
  intro h
  split at h <;> simp [String.append_eq_empty_iff] at h

theorem BootstrapError.isRuntimeMissing_iff {e : BootstrapError} :
    e.isRuntimeMissing = true ↔ ∃ name searched, e = .runtimeMissing name searched := by
  cases e <;> simp [BootstrapError.isRuntimeMissing]

theorem failureText_ne_empty (e : WorkerError) : failureText e ≠ "" := by
  intro h
  have hinfix := Text.infix_join ": " "rendergen worker failed"
    ("rendergen worker failed" :: e.message :: e.causes) (by simp)
  rw [← failureText, h] at hinfix
  simp at hinfix

theorem infix_failureText (e : WorkerError) : e.message.toList <:+: (failureText e).toList :=
  Text.infix_join ": " e.message _ (by simp)

variable (vs : Variables) (executable : Except SystemError Path)

/-- What the host takes a run of the worker for. -/
def outcomeOf (ending : Ending) : RunOutcome :=
  Runner.classify (.exited ending.code) ending.output (Text.Utf8.encode ending.errors)

/-- The message of the error that stopped a run of the worker. -/
inductive StoppedWith (input : Bytes) : String → Prop
  | unresolved (e : BootstrapError)
      (h : resolveRuntime words t base vs executable = .error e) : StoppedWith input e.message
  | unserved (runtime : Runtime) (e : WorkerError)
      (h : resolveRuntime words t base vs executable = .ok runtime)
      (hserve : (serve words loader t base runtime.preload input).result = .error e) :
      StoppedWith input e.message

theorem outcomeOf_unresolved (input : Bytes) (e : BootstrapError)
    (h : resolveRuntime words t base vs executable = .error e) :
    outcomeOf (run words loader t base vs executable input) =
      if e.isRuntimeMissing then .runtimeMissing else .transportError e.message := by
  cases hmissing : e.isRuntimeMissing with
  | true =>
    simp only [run, h, hmissing, if_true, outcomeOf]
    exact Runner.classify_missing _ _
  | false =>
    simp only [run, h, hmissing, Bool.false_eq_true, if_false, outcomeOf]
    exact Runner.classify_failure _ _ _ (by decide) e.message_ne_empty

theorem outcomeOf_resolved (q : Request) (runtime : Runtime)
    (h : resolveRuntime words t base vs executable = .ok runtime) :
    outcomeOf (run words loader t base vs executable (Text.Utf8.encode q.toLine)) =
      match rendered words loader t base runtime.preload q with
      | .ok r => .success r
      | .error e => .transportError (failureText e) := by
  rcases serve_request words loader t base runtime.preload q with
    ⟨e, hrendered, hresult⟩ | ⟨r, hrendered, hresult, houtput⟩
  · simp only [run, h, hresult, hrendered, outcomeOf]
    exact Runner.classify_failure _ _ _ (by decide) (failureText_ne_empty e)
  · simp only [run, h, hresult, hrendered, outcomeOf, houtput]
    exact Runner.classify_response r

/-- Any error but a missing runtime reaches the host as a transport error that tells of it. -/
theorem outcomeOf_stopped (q : Request) (message : String)
    (hstopped : StoppedWith words loader t base vs executable (Text.Utf8.encode q.toLine) message)
    (hpresent : ∀ name searched,
      resolveRuntime words t base vs executable ≠ .error (.runtimeMissing name searched)) :
    ∃ text, outcomeOf (run words loader t base vs executable (Text.Utf8.encode q.toLine)) =
      .transportError text ∧ message.toList <:+: text.toList := by
  cases hstopped with
  | unresolved e h =>
    have houtcome := outcomeOf_unresolved words loader t base vs executable
      (Text.Utf8.encode q.toLine) e h
    have hother : ¬ e.isRuntimeMissing = true := by
      intro hmissing
      obtain ⟨name, searched, he⟩ := BootstrapError.isRuntimeMissing_iff.mp hmissing
      exact hpresent name searched (he ▸ h)
    rw [if_neg hother] at houtcome
    exact ⟨e.message, houtcome, List.infix_refl _⟩
  | unserved runtime e h hserve =>
    have houtcome := outcomeOf_resolved words loader t base vs executable q runtime h
    rcases serve_request words loader t base runtime.preload q with
      ⟨e', hrendered, hresult⟩ | ⟨r, _, hresult, _⟩
    · rw [hserve, Except.error.injEq] at hresult
      rw [hrendered, ← hresult] at houtcome
      exact ⟨failureText e, houtcome, infix_failureText e⟩
    · rw [hserve] at hresult
      exact absurd hresult (by simp)

/-- From exit code, output and error output the host learns what became of its request. -/
theorem outcomeOf_run (q : Request) :
    let input := Text.Utf8.encode q.toLine
    let resolved := resolveRuntime words t base vs executable
    let outcome := outcomeOf (run words loader t base vs executable input)
    (outcome = .runtimeMissing ↔
      ∃ name searched, resolved = .error (.runtimeMissing name searched)) ∧
    (∀ r, outcome = .success r ↔
      ∃ runtime, resolved = .ok runtime ∧
        rendered words loader t base runtime.preload q = .ok r) ∧
    (outcome = .runtimeMissing ∨ (∃ r, outcome = .success r) ∨
      ∃ text message, outcome = .transportError text ∧
        StoppedWith words loader t base vs executable input message ∧
        message.toList <:+: text.toList) := by
  intro input resolved outcome
  have hstop := outcomeOf_stopped words loader t base vs executable q
  cases hresolved : resolveRuntime words t base vs executable with
  | error e =>
    have houtcome := outcomeOf_unresolved words loader t base vs executable input e hresolved
    by_cases hmissing : e.isRuntimeMissing = true
    · obtain ⟨name, searched, rfl⟩ := BootstrapError.isRuntimeMissing_iff.mp hmissing
      rw [if_pos hmissing] at houtcome
      simp [outcome, houtcome, resolved, hresolved]
    · have hother : ∀ name searched, e ≠ .runtimeMissing name searched := by
        intro name searched he
        exact hmissing (BootstrapError.isRuntimeMissing_iff.mpr ⟨name, searched, he⟩)
      have hstopped : StoppedWith words loader t base vs executable input e.message :=
        StoppedWith.unresolved e hresolved
      obtain ⟨text, htransport, htext⟩ := hstop e.message hstopped (by simp [hresolved, hother])
      refine ⟨?_, ?_, Or.inr (Or.inr ⟨text, e.message, htransport, hstopped, htext⟩)⟩
      · simp [outcome, input, htransport, resolved, hresolved, hother]
      · simp [outcome, input, htransport, resolved, hresolved]
  | ok runtime =>
    have houtcome := outcomeOf_resolved words loader t base vs executable q runtime hresolved
    rcases serve_request words loader t base runtime.preload q with
      ⟨e, hrendered, hresult⟩ | ⟨r, hrendered, _, _⟩
    · have hstopped : StoppedWith words loader t base vs executable input e.message :=
        StoppedWith.unserved runtime e hresolved hresult
      obtain ⟨text, htransport, htext⟩ := hstop e.message hstopped (by simp [hresolved])
      refine ⟨?_, ?_, Or.inr (Or.inr ⟨text, e.message, htransport, hstopped, htext⟩)⟩
      · simp [outcome, input, htransport, resolved, hresolved]
      · simp [outcome, input, htransport, resolved, hresolved, hrendered]
    · rw [hrendered] at houtcome
      simp [outcome, input, houtcome, resolved, hresolved, hrendered]

end Agreement
end Worker
end TemplateBatch
