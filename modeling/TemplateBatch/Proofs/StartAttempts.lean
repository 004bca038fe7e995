import TemplateBatch.Proofs.BatchRuns

/-!
How often a worker is started. Attempts and the staging between them are noted as they happen. A
round is a row of attempts that find the program busy with one more attempt behind them, six in all
at most. There is a second round only behind one that ended because the program was gone and behind
one staging that succeeded. So at most one attempt starts a worker, nothing is tried behind it, and
without it a request comes to a transport error.
-/
namespace TemplateBatch

namespace Launch

variable {σ ρ α ε : Type}

/-- A step on the way to a running program, with its result. -/
inductive Event (α ε : Type) where
  | attempted (result : Except SystemError α)
  | restaged (result : Except ε Unit)

/-- What an attempt has started. -/
def Event.started? : Event α ε → Option α
  | .attempted (.ok a) => some a
  | _ => none

/-- An operation whose result is noted behind what was noted before. -/
def noting (note : ρ → Event α ε) (f : σ → ρ × σ) (s : σ × List (Event α ε)) :
    ρ × σ × List (Event α ε) :=
  let (r, s') := f s.1
  (r, s', s.2 ++ [note r])

/-- The start of a program with a note of each step. -/
def recorded (attempt : σ → Except SystemError α × σ) (restage : σ → Except ε Unit × σ) (s : σ) :
    Except (Failure ε) α × σ × List (Event α ε) :=
  start (noting .attempted attempt) (noting .restaged restage) (s, [])

/-- The steps of a start in order. -/
def events (attempt : σ → Except SystemError α × σ) (restage : σ → Except ε Unit × σ) (s : σ) :
    List (Event α ε) :=
  (recorded attempt restage s).2.2

/-- Attempts up to a limit, of which all but the last find the program busy. The last one does so
too only if the limit is reached. -/
structure IsRound (limit : ℕ) (results : List (Except SystemError α))
    (last : Except SystemError α) : Prop where
  results_eq : ∃ busy, results = List.replicate busy (Except.error .textBusy) ++ [last]
  length_le : results.length ≤ limit
  exhausted : last = .error .textBusy → results.length = limit

theorem isRound_single {limit : ℕ} {last : Except SystemError α} (hlimit : 1 ≤ limit)
    (h : last = .error .textBusy → limit = 1) : IsRound limit [last] last :=
  ⟨⟨0, rfl⟩, hlimit, fun hbusy => (h hbusy).symm⟩

theorem IsRound.cons {limit : ℕ} {results : List (Except SystemError α)}
    {last : Except SystemError α} (h : IsRound limit results last) :
    IsRound (limit + 1) (.error .textBusy :: results) last := by
  obtain ⟨busy, hresults⟩ := h.results_eq
  refine ⟨⟨busy + 1, ?_⟩, Nat.succ_le_succ h.length_le, fun hbusy => ?_⟩
  · rw [hresults, List.replicate_succ, List.cons_append]
  · rw [List.length_cons, h.exhausted hbusy]

/-- The ways to start a program: one round, one round and a staging that fails, or two rounds with a
staging between them that succeeds. -/
inductive Course : List (Event α ε) → Except (Failure ε) α → Prop
  | once {results last} (hround : IsRound 6 results last) (hthere : last ≠ .error .notFound) :
      Course (results.map .attempted) (last.mapError .notStarted)
  | refused {results e} (hround : IsRound 6 results (.error .notFound)) :
      Course (results.map .attempted ++ [.restaged (.error e)]) (.error (.notRestaged e))
  | twice {results results' last} (hround : IsRound 6 results (.error .notFound))
      (hround' : IsRound 6 results' last) :
      Course (results.map .attempted ++ .restaged (.ok ()) :: results'.map .attempted)
        (last.mapError .notStarted)

section Starts
variable (attempt : σ → Except SystemError α × σ) (restage : σ → Except ε Unit × σ)

/-- Notes do not change a round, and tell the attempts of it. -/
theorem round_noting (left : ℕ) (s : σ) (log : List (Event α ε)) :
    ∃ results, IsRound (left + 1) results (round attempt left s).1 ∧
      round (noting .attempted attempt) left (s, log) =
        ((round attempt left s).1, (round attempt left s).2,
          log ++ results.map .attempted) := by
  induction left generalizing s log with
  | zero => exact ⟨_, isRound_single (Nat.le_refl 1) fun _ => rfl, rfl⟩
  | succ left ih =>
    rcases hattempt : attempt s with ⟨r, s'⟩
    by_cases hbusy : r = .error .textBusy
    · obtain ⟨results, hresults, hround⟩ := ih s' (log ++ [.attempted r])
      have hnext : round attempt (left + 1) s = round attempt left s' := by
        simp only [round, hattempt, hbusy]
      have hnoted : round (noting .attempted attempt) (left + 1) (s, log) =
          round (noting .attempted attempt) left (s', log ++ [.attempted r]) := by
        simp only [round, noting, hattempt, hbusy]
      rw [hnext, hnoted, hround]
      refine ⟨_, hresults.cons, ?_⟩
      rw [hbusy, List.append_assoc, List.map_cons, List.singleton_append]
    · have hfirst : round attempt (left + 1) s = (r, s') := by
        rw [round_of_ne (by rwa [hattempt]), hattempt]
      have hnoted : round (noting .attempted attempt) (left + 1) (s, log) =
          (r, s', log ++ [.attempted r]) := by
        rw [round_of_ne (by simpa only [noting, hattempt] using hbusy)]
        simp only [noting, hattempt]
      rw [hfirst, hnoted]
      exact ⟨[r], isRound_single (by omega) fun h => absurd h hbusy, rfl⟩

theorem start_of_round {s s₁ : σ} {last : Except SystemError α}
    (hround : round attempt retries s = (last, s₁)) (hthere : last ≠ .error .notFound) :
    start attempt restage s = (last.mapError .notStarted, s₁) := by
  rw [start, hround]
  split
  case h_1 hgone => exact absurd (congrArg Prod.fst hgone) hthere
  case h_2 => rfl

/-- Notes do not change how a program is started, and tell the course of it. -/
theorem recorded_course (s : σ) :
    Course (events attempt restage s) (start attempt restage s).1 ∧
      recorded attempt restage s =
        ((start attempt restage s).1, (start attempt restage s).2, events attempt restage s) := by
  obtain ⟨results, hresults, hnoted⟩ :=
    round_noting attempt retries s ([] : List (Event α ε))
  rcases hround : round attempt retries s with ⟨last, s₁⟩
  rw [hround, List.nil_append] at hnoted
  rw [hround] at hresults
  by_cases hgone : last = .error .notFound
  · subst hgone
    rcases hrestage : restage s₁ with ⟨e | ⟨⟩, s₂⟩
    · have hstart : start attempt restage s = (.error (.notRestaged e), s₂) := by
        simp only [start, hround, hrestage]
      have hrecorded : recorded attempt restage s =
          (.error (.notRestaged e), s₂, results.map .attempted ++ [.restaged (.error e)]) := by
        simp only [recorded, start, hnoted, noting, hrestage]
      rw [events, hrecorded, hstart]
      exact ⟨.refused hresults, rfl⟩
    · obtain ⟨results', hresults', hnoted'⟩ := round_noting attempt retries s₂
        (results.map .attempted ++ [.restaged (.ok ())] : List (Event α ε))
      have hstart : start attempt restage s = ended (round attempt retries s₂) := by
        simp only [start, hround, hrestage]
      have hrecorded : recorded attempt restage s =
          ((round attempt retries s₂).1.mapError .notStarted, (round attempt retries s₂).2,
            results.map .attempted ++ .restaged (.ok ()) :: results'.map .attempted) := by
        simp only [recorded, start, hnoted, noting, hrestage, hnoted', ended, List.append_assoc,
          List.singleton_append]
      rw [events, hrecorded, hstart]
      exact ⟨.twice hresults hresults', rfl⟩
  · have hrecorded := start_of_round (noting .attempted attempt) (noting .restaged restage) hnoted
      hgone
    rw [events, recorded, hrecorded, start_of_round attempt restage hround hgone]
    exact ⟨.once hresults hgone, rfl⟩

/-- A worker that is gone again is not staged again. -/
example :
    events (fun left : List (Except SystemError ℕ) => (left.headD (.ok 0), left.tail))
      (fun left => ((.ok () : Except Unit Unit), left))
      [.error .textBusy, .error .notFound, .error .notFound, .ok 1] =
    [.attempted (.error .textBusy), .attempted (.error .notFound), .restaged (.ok ()),
      .attempted (.error .notFound)] :=
  rfl

end Starts

section Courses
variable {log : List (Event α ε)} {result : Except (Failure ε) α}

theorem IsRound.silent {limit : ℕ} {results : List (Except SystemError α)}
    {last : Except SystemError α} (h : IsRound limit results last) :
    ∃ before : List (Event α ε), results.map .attempted = before ++ [.attempted last] ∧
      ∀ event ∈ before, event.started? = none := by
  obtain ⟨busy, hresults⟩ := h.results_eq
  refine ⟨(List.replicate busy (Except.error .textBusy)).map .attempted, ?_, ?_⟩
  · rw [hresults, List.map_append, List.map_singleton]
  · intro event hevent
    obtain ⟨r, hr, rfl⟩ := List.mem_map.mp hevent
    rw [List.eq_of_mem_replicate hr]
    rfl

theorem started?_attempted (last : Except SystemError α) :
    (Event.attempted last : Event α ε).started? =
      (last.mapError (.notStarted : SystemError → Failure ε)).toOption := by
  cases last <;> rfl

theorem Course.silent (h : Course log result) :
    ∃ before last, log = before ++ [last] ∧ (∀ event ∈ before, event.started? = none) ∧
      last.started? = result.toOption := by
  cases h with
  | once hround _ =>
    obtain ⟨before, hlog, hsilent⟩ := hround.silent (ε := ε)
    exact ⟨before, _, hlog, hsilent, started?_attempted _⟩
  | refused hround =>
    obtain ⟨before, hlog, hsilent⟩ := hround.silent (ε := ε)
    refine ⟨_, _, rfl, ?_, rfl⟩
    rw [hlog, List.forall_mem_append, List.forall_mem_singleton]
    exact ⟨hsilent, rfl⟩
  | twice hround hround' =>
    obtain ⟨before, hlog, hsilent⟩ := hround.silent (ε := ε)
    obtain ⟨before', hlog', hsilent'⟩ := hround'.silent (ε := ε)
    refine ⟨before ++ .attempted (.error .notFound) :: .restaged (.ok ()) :: before', _, ?_, ?_,
      started?_attempted _⟩
    · rw [hlog, hlog']
      simp only [List.append_assoc, List.cons_append, List.nil_append]
    · rw [List.forall_mem_append, List.forall_mem_cons, List.forall_mem_cons]
      exact ⟨hsilent, rfl, rfl, hsilent'⟩

theorem Course.filterMap_started? (h : Course log result) :
    log.filterMap Event.started? = result.toOption.toList := by
  obtain ⟨before, last, rfl, hsilent, hlast⟩ := h.silent
  rw [List.filterMap_append, List.filterMap_eq_nil_iff.mpr hsilent, List.nil_append, ← hlast]
  rcases hstarted : last.started? with _ | a
  · rw [List.filterMap_cons_none hstarted]
    rfl
  · rw [List.filterMap_cons_some hstarted]
    rfl

theorem Course.eq_nil_of_started (h : Course log result) {before after : List (Event α ε)} {a : α}
    (hlog : log = before ++ .attempted (.ok a) :: after) : after = [] := by
  obtain ⟨silent, last, rfl, hsilent, _⟩ := h.silent
  rcases List.eq_nil_or_concat after with rfl | ⟨more, final, rfl⟩
  · rfl
  · rw [List.concat_eq_append, ← List.cons_append, ← List.append_assoc] at hlog
    have hmem : Event.attempted (.ok a) ∈ silent := by
      rw [(List.append_inj' hlog rfl).1]
      exact List.mem_append_right _ List.mem_cons_self
    have hnone := hsilent _ hmem
    cases hnone

end Courses
end Launch

namespace Runner

/-- What a request comes to when the worker was started in this way or could not be. -/
def concluded (worker : Path) : Except (Launch.Failure Staging.StageError) Outcome → RunOutcome
  | .ok ended => classify ended.status ended.output ended.errors
  | .error e => .transportError (startFailure worker e)

/-- The staging that is done when the worker is gone. -/
def restaging (m : Machine) (r : Runner) (w : World) : Except Staging.StageError Unit × World :=
  match (r.stager.restage m).run w with
  | (.ok _, w') => (.ok (), w')
  | (.error e, w') => (.error e, w')

section Machine
variable (m : Machine) (r : Runner) (line : String) (w : World)

theorem exchange_eq :
    let launched := Launch.start ((r.workerCommand line).run m) (r.restaging m) w
    r.exchange m line w = (concluded (r.workerCommand line).program launched.1, launched.2) := by
  intro launched
  unfold exchange
  dsimp only
  split
  · next ended w' hok =>
    have hlaunched : launched = (.ok ended, w') := hok
    rw [hlaunched]
    rfl
  · next e w' herror =>
    have hlaunched : launched = (.error e, w') := herror
    rw [hlaunched]
    rfl

theorem history_restaging : (r.restaging m w).2.history = w.history := by
  have hsame : (r.restaging m w).2 = (ExceptT.run (r.stager.restage m) w).2 := by
    rw [restaging]
    rcases ExceptT.run (r.stager.restage m) w with ⟨_ | _, _⟩ <;> rfl
  rw [hsame]
  exact (r.stager.preserves_restage w w ⟨.of_agrees (FileTree.Agrees.refl _), rfl⟩).2

/-- A request runs no program but the worker, and runs it as often as it is started. -/
theorem length_history_exchange :
    (r.exchange m line w).2.history.length = w.history.length +
      ((Launch.events ((r.workerCommand line).run m) (r.restaging m) w).filterMap
        Launch.Event.started?).length := by
  let Q : World → Prop := fun w' => w'.history.length = w.history.length
  let R : World → Prop := fun w' => w'.history.length = w.history.length + 1
  have hattempt : ∀ w', Q w' → Launch.Lands Q R ((r.workerCommand line).run m w') := by
    intro w' hw'
    rcases (r.workerCommand line).run_cases m w' with
      ⟨e, w'', hrun, _, hsame⟩ | ⟨program, invocation, w'', _, hrun, _, hruns⟩
    · rw [hrun]
      exact (congrArg List.length hsame).trans hw'
    · rw [hrun]
      have hlength := congrArg List.length hruns
      rw [List.length_append, List.length_singleton, hw'] at hlength
      exact hlength
  have hrestage : ∀ w', Q w' → Q (r.restaging m w').2 := fun w' hw' =>
    (congrArg List.length (history_restaging m r w')).trans hw'
  have hlands := Launch.lands_start (s := w) hattempt hrestage rfl
  have hcourse := (Launch.recorded_course ((r.workerCommand line).run m) (r.restaging m) w).1
  rw [exchange_eq, hcourse.filterMap_started?]
  rcases hlaunched : Launch.start ((r.workerCommand line).run m) (r.restaging m) w with ⟨_ | _, w'⟩
  all_goals
    rw [hlaunched] at hlands
    exact hlands

end Machine

/-- Whatever the attempts to start a worker and the staging between them result in: a worker is
started in one round of six attempts at most or in two, of which the second is only made when the
first has ended with a worker that is gone and the staging behind it has succeeded. At most one
worker is started, and nothing is tried behind it. What it ended with is the outcome, and without it
the outcome is a transport error. This is how a request is made on any machine, and no program runs
for it but the worker that was started. -/
theorem exchange_starts_once {σ : Type} (attempt : σ → Except SystemError Outcome × σ)
    (restage : σ → Except Staging.StageError Unit × σ) (s : σ) (worker : Path) :
    let log := Launch.events attempt restage s
    let result := (Launch.start attempt restage s).1
    let started := log.filterMap Launch.Event.started?
    Launch.Course log result ∧ started.length ≤ 1 ∧
    (∀ before ended after, log = before ++ .attempted (.ok ended) :: after → after = []) ∧
    (∀ ended ∈ started,
      concluded worker result = classify ended.status ended.output ended.errors) ∧
    (started = [] → ∃ text, concluded worker result = .transportError text) ∧
    ∀ (m : Machine) (r : Runner) (line : String) (w : World),
      let attempt := (r.workerCommand line).run m
      let launched := Launch.start attempt (r.restaging m) w
      let started := (Launch.events attempt (r.restaging m) w).filterMap Launch.Event.started?
      r.exchange m line w = (concluded (r.workerCommand line).program launched.1, launched.2) ∧
      launched.2.history.length = w.history.length + started.length := by
  intro log result started
  have hcourse : Launch.Course log result := (Launch.recorded_course attempt restage s).1
  have hstarted : started = result.toOption.toList := hcourse.filterMap_started?
  refine ⟨hcourse, ?_, fun _ _ _ => hcourse.eq_nil_of_started, ?_, ?_, ?_⟩
  · rw [hstarted]
    cases result.toOption <;> simp
  · intro ended hended
    rw [hstarted] at hended
    rcases hresult : result with e | ended'
    · rw [hresult] at hended
      cases hended
    · rw [hresult] at hended
      obtain rfl := List.mem_singleton.mp hended
      rfl
  · intro hnone
    rw [hstarted] at hnone
    rcases hresult : result with e | ended
    · exact ⟨_, rfl⟩
    · rw [hresult] at hnone
      cases hnone
  · intro m r line w
    have hlength := length_history_exchange m r line w
    rw [exchange_eq] at hlength
    exact ⟨exchange_eq m r line w, hlength⟩

end Runner
end TemplateBatch
