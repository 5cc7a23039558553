import Mathlib.Algebra.Order.Group.Int
import Mathlib.Algebra.Order.Group.Unbundled.Basic
import SqlShell.Proofs.Execution.Cancelling

/-! # The Time Limit

    The control reads a clock: when the statement is begun, at its checks of the
    time, and at the end.

    * **`readings`** are all that it reads in a run, in order.
    * **`Punctual`** is the invariant of a run with a clock that does not go back:
      a flag that has been raised for the time was raised at a reading beyond the
      limit, and so the outcome tells of a time beyond it.
    * **`time_limit_cancels`**: a check beyond the limit makes the outcome a
      cancellation for the time, and an interruption before it does not let it. -/

namespace SqlShell

variable {τ : Type}

/-- **Time in exact numbers**: a duration is a difference, and it exceeds a limit
    that is less. -/
instance (priority := low) exactTime [AddCommGroup τ] [LinearOrder τ] : Timescale τ where
  since now start := now - start
  exceeds elapsed limit := decide (limit < elapsed)

namespace Running

/-! ## Outcomes -/

/-- Only a control that has the last item in its hand tells an outcome. -/
theorem Transition.control_of_outcome {r r' : Running τ} {signals : List (Signal τ)}
    (h : Transition r r' signals) {o : Outcome τ} (ho : o ∈ outcomesIn signals) :
    ∃ v, r.control = .handling (some (.finished v)) := by
  cases h with
  | complete v elapsed hc => exact ⟨v, hc⟩
  | yield b hc => simp at ho
  | _ => simp [outcomesIn] at ho

/-- A cancellation for another reason than an interruption has it from the flag. -/
theorem reason_of_outcome {r : Running τ} {v : Verdict} {elapsed elapsed' : τ} {reason : Text}
    (h : r.outcome v elapsed = .cancelled reason elapsed') (hreason : reason ≠ interruptReason) :
    r.flag.reason = some reason ∧ elapsed = elapsed' := by
  have hcancelled : ∀ {o : Outcome τ}, o = .cancelled (r.flag.reasonOr interruptReason) elapsed →
      o = .cancelled reason elapsed' → r.flag.reason = some reason ∧ elapsed = elapsed' := by
    rintro o rfl h
    obtain ⟨hr, he⟩ := Outcome.cancelled.inj h
    refine ⟨?_, he⟩
    unfold Cancellation.reasonOr at hr
    split at hr
    case h_1 => exact absurd hr.symm hreason
    case h_2 => exact absurd hr.symm hreason
    case h_3 hsome => exact hr ▸ hsome
  unfold outcome at h
  split at h
  case isTrue => exact hcancelled rfl h
  case isFalse =>
    cases v with
    | cancelled => exact hcancelled rfl h
    | complete | failed | crashed => cases h

/-! ## Readings of the clock -/

section Readings

variable [Timescale τ]

/-- **The reading of the clock** that belongs to a move, if one does: at a check of
    the time while there is a limit and the flag is down, and at the end. -/
def reading? (r : Running τ) : Move τ → Option τ
  | .checkTime now =>
    match r.control with
    | .timing _ => if r.limit.isSome && !r.flag.isRaised then some now else none
    | _ => none
  | .handle now =>
    match r.control with
    | .handling (some (.finished _)) => some now
    | _ => none
  | _ => none

/-- **The readings of a run**, in order. -/
def readings (r : Running τ) : List (Move τ) → List τ
  | [] => []
  | m :: ms => (r.reading? m).toList ++ (r.step m).1.readings ms

theorem readings_concat (r : Running τ) (ms : List (Move τ)) (m : Move τ) :
    r.readings (ms ++ [m]) = r.readings ms ++ ((r.steps ms).1.reading? m).toList := by
  induction ms generalizing r with
  | nil => simp [readings]
  | cons m' ms ih => simp [readings, steps, ih]

/-- It tells the outcome when it deals with that item, and reads the time then. -/
theorem outcome_of_step {r : Running τ} {m : Move τ} {o : Outcome τ}
    (ho : o ∈ outcomesIn (r.step m).2) : ∃ v now, r.reading? m = some now ∧
      o = r.outcome v (Timescale.since now r.start) := by
  obtain ⟨v, hc⟩ := (r.step_transition m).control_of_outcome ho
  cases m with
  | handle now => exact ⟨v, now, by simp [reading?, hc], by simpa [step, handle, hc] using ho⟩
  | _ => simp [step, isWaiting, hc] at ho

end Readings

/-! ## Punctuality -/

section Punctuality

variable [AddCommGroup τ] [LinearOrder τ] {limit start : τ}

/-- **A time limit is kept** by what a run has told so far: only a reading beyond it
    raises the flag for the time, and only a time beyond it is told then. -/
structure Punctual (limit start : τ) (readings : List τ) (past : List (Signal τ))
    (r : Running τ) : Prop where
  raised : r.flag.reason = some timeoutReason → ∃ now ∈ readings, limit < now - start
  told : ∀ elapsed, .cancelled timeoutReason elapsed ∈ outcomesIn past → limit < elapsed

/-- A check that finds the limit exceeded raises the flag, and shows nothing. -/
theorem step_of_overdue {r : Running τ} {now : τ} {item : Option Item}
    (hc : r.control = .timing item) (h : r.isOverdue now = true) :
    (r.step (.checkTime now)).2 = [] ∧
      (r.step (.checkTime now)).1.flag = r.flag.raise timeoutReason := by
  simp [Running.step, hc, h, Running.raise]

/-- A move that raises the flag for the time, with others interrupting only, is a
    check beyond the limit. -/
theorem reading?_of_request {r : Running τ} {m : Move τ} (hlimit : r.limit = some limit)
    (hlow : r.flag.isRaised = false) (hm : ∀ reason, m = .cancel reason → reason = interruptReason)
    (h : r.request? m = some timeoutReason) :
    ∃ now, r.reading? m = some now ∧ limit < now - r.start := by
  have hnone : r.flag.reason = none := by simpa [Cancellation.isRaised] using hlow
  cases m with
  | cancel reason =>
    have hreason : reason = timeoutReason := Option.some.inj h
    rw [hm reason rfl] at hreason
    exact absurd hreason (by decide)
  | interrupt =>
    simp only [request?] at h
    split at h
    · exact absurd h (by decide)
    · cases h
  | close =>
    simp only [request?, Cancellation.reasonOr, hnone] at h
    split at h
    · exact absurd h (by decide)
    · cases h
  | checkTime now =>
    simp only [request?] at h
    split at h
    case h_1 item hc =>
      split at h
      case isTrue hoverdue =>
        refine ⟨now, ?_, ?_⟩
        · simp [reading?, hc, hlimit, hlow]
        · simpa [isOverdue, hlimit, hlow, Timescale.exceeds, Timescale.since] using hoverdue
      case isFalse => cases h
    case h_2 => cases h
  | _ => cases h

variable [IsOrderedAddMonoid τ]

/-- **Every move keeps the time limit**, as long as the others only interrupt and
    the clock does not go back. -/
theorem Punctual.step {readings : List τ} {past : List (Signal τ)} {r : Running τ} {m : Move τ}
    (p : Punctual limit r.start readings past r) (hlimit : r.limit = some limit)
    (hm : ∀ reason, m = .cancel reason → reason = interruptReason)
    (hclock : (readings ++ (r.reading? m).toList).Pairwise (· ≤ ·)) :
    Punctual limit r.start (readings ++ (r.reading? m).toList) (past ++ (r.step m).2)
      (r.step m).1 where
  raised h := by
    rw [step_flag, Cancellation.reason_raiseAll] at h
    cases hr : r.flag.reason with
    | some reason =>
      rw [hr] at h
      obtain ⟨now, hnow, hlate⟩ := p.raised (hr.trans h)
      exact ⟨now, List.mem_append_left _ hnow, hlate⟩
    | none =>
      have hrequest : r.request? m = some timeoutReason := by
        rw [hr] at h
        simpa using h
      have hlow : r.flag.isRaised = false := by simp [Cancellation.isRaised, hr]
      obtain ⟨now, hnow, hlate⟩ := reading?_of_request hlimit hlow hm hrequest
      exact ⟨now, List.mem_append_right _ (by simp [hnow]), hlate⟩
  told elapsed h := by
    rw [outcomesIn_append, List.mem_append] at h
    rcases h with h | h
    · exact p.told elapsed h
    · obtain ⟨v, now, hnow, ho⟩ := outcome_of_step h
      obtain ⟨hr, rfl⟩ := reason_of_outcome ho.symm (by decide)
      -- The flag was raised at a reading beyond the limit, and this one is no earlier.
      obtain ⟨past, hpast, hlate⟩ := p.raised hr
      rw [hnow] at hclock
      have hle : past ≤ now := (List.pairwise_append.1 hclock).2.2 past hpast now (by simp)
      exact lt_of_lt_of_le hlate (sub_le_sub_right hle r.start)

variable (s : Surroundings τ) (statement : Text) {c : Cancellation} (stream : ResultStream)

/-- **The time limit is kept in every state** that can be reached. -/
theorem punctual_steps (hlimit : s.limit = some limit) (hc : c.reason ≠ some timeoutReason)
    {ms : List (Move τ)} (hms : ∀ reason, .cancel reason ∈ ms → reason = interruptReason)
    (hclock : ((s.begun statement c stream).readings ms).Pairwise (· ≤ ·)) :
    Punctual limit s.now ((s.begun statement c stream).readings ms)
      ((s.begun statement c stream).steps ms).2 ((s.begun statement c stream).steps ms).1 := by
  refine steps_induction (r := s.begun statement c stream) (P := fun ms r past =>
    (r.limit = some limit ∧ r.start = s.now) ∧
    ((∀ reason, .cancel reason ∈ ms → reason = interruptReason) →
      ((s.begun statement c stream).readings ms).Pairwise (· ≤ ·) →
      Punctual limit s.now ((s.begun statement c stream).readings ms) past r))
    ?_ ?_ ms |>.2 hms hclock
  · exact ⟨⟨hlimit, rfl⟩, fun _ _ => ⟨fun h => absurd h hc, nofun⟩⟩
  · rintro ms m ⟨⟨hl, hs⟩, ih⟩
    have t := ((s.begun statement c stream).steps ms).1.step_transition m
    refine ⟨⟨t.limit_eq.trans hl, t.start_eq.trans hs⟩, ?_⟩
    intro hms hclock
    rw [readings_concat] at hclock ⊢
    have p := ih (fun reason h => hms reason (List.mem_append_left _ h))
      (List.pairwise_append.1 hclock).1
    rw [← hs] at p ⊢
    apply p.step hl _ hclock
    rintro reason rfl
    exact hms reason (by simp)

/-- **What comes after a check that finds the limit exceeded**: the cancellation for
    the time. -/
theorem events_of_overdue (c : Cancellation) (hlimit : s.limit = some limit)
    {before after : List (Move τ)} {now : τ} {item : Option Item}
    (hcontrol : ((s.begun statement c stream).steps before).1.control = .timing item)
    (hlow : ((s.begun statement c stream).steps before).1.flag.isRaised = false)
    (hlate : s.now + limit < now)
    (hend : ((s.begun statement c stream).steps (before ++ .checkTime now :: after)).1.control
      = .finished)
    (hearly : ¬ (s.begun statement c stream).ClosesEarly (before ++ .checkTime now :: after)) :
    ∃ elapsed, eventsIn
        (((s.begun statement c stream).steps before).1.steps (.checkTime now :: after)).2
      = [.completed (.cancelled timeoutReason elapsed)] := by
  have hreason : ((s.begun statement c stream).steps before).1.flag.reason = none := by
    simpa [Cancellation.isRaised] using hlow
  obtain ⟨hkeptLimit, hkeptStart⟩ := steps_invariant (r := s.begun statement c stream)
    (P := fun r _ => r.limit = some limit ∧ r.start = s.now) ⟨hlimit, rfl⟩
    (fun _ _ _ _ t h => ⟨t.limit_eq.trans h.1, t.start_eq.trans h.2⟩) before
  have hoverdue : ((s.begun statement c stream).steps before).1.isOverdue now = true := by
    simpa [isOverdue, hkeptLimit, hkeptStart, hlow, Timescale.exceeds, Timescale.since,
      lt_sub_iff_add_lt'] using hlate
  obtain ⟨hquiet, hflag⟩ := step_of_overdue hcontrol hoverdue
  have hnone : outcomesIn ((s.begun statement c stream).steps before).2 = [] :=
    (faithful_steps s statement c stream before).outcomesIn_eq_nil (by simp [hcontrol])
  have hraised : ((s.begun statement c stream).steps (before ++ [.checkTime now])).1.flag.reason
      = some timeoutReason := by
    simp [steps_append, hflag, Cancellation.raise, hreason]
  have hstill : outcomesIn ((s.begun statement c stream).steps (before ++ [.checkTime now])).2
      = [] := by
    simp [steps_append, hquiet, hnone]
  have hended : ((s.begun statement c stream).steps
      (before ++ [.checkTime now] ++ after)).1.control = .finished := by
    simpa using hend
  have hlater := events_of_consumed s statement c stream hraised (by decide) hstill hended
    (by simpa using hearly)
  rw [steps_append, steps_singleton] at hlater
  simpa [steps, hquiet] using hlater

/-- **The time limit cancels a statement.**  Let there be a limit, let the others
    cancel by interruption only, and let the execution be consumed to its end.

    - From a check on that finds the limit exceeded and the flag down, no batch is
      yielded, and the outcome is a cancellation for the time.
    - With a clock that does not go back, an outcome that is a cancellation for the
      time tells of a time beyond the limit.
    - After an interruption that comes before the outcome, no batch is yielded, and
      the outcome is a cancellation by interruption, whatever the clock shows. -/
theorem time_limit_cancels (hlimit : s.limit = some limit)
    (hc : ∀ reason, c.reason = some reason → reason = interruptReason) {ms : List (Move τ)}
    (hms : ∀ reason, .cancel reason ∈ ms → reason = interruptReason)
    (hend : ((s.begun statement c stream).steps ms).1.control = .finished)
    (hearly : ¬ (s.begun statement c stream).ClosesEarly ms) :
    let r₀ := s.begun statement c stream
    (∀ before now after item, ms = before ++ .checkTime now :: after →
      (r₀.steps before).1.control = .timing item → (r₀.steps before).1.flag.isRaised = false →
      s.now + limit < now →
      ∃ elapsed, eventsIn ((r₀.steps before).1.steps (.checkTime now :: after)).2
        = [.completed (.cancelled timeoutReason elapsed)]) ∧
    ((r₀.readings ms).Pairwise (· ≤ ·) →
      ∀ elapsed, .cancelled timeoutReason elapsed ∈ outcomesIn (r₀.steps ms).2 →
        limit < elapsed) ∧
    (∀ before after, ms = before ++ after → (r₀.steps before).1.flag.reason = some interruptReason →
      outcomesIn (r₀.steps before).2 = [] →
      ∃ elapsed, eventsIn ((r₀.steps before).1.steps after).2
        = [.completed (.cancelled interruptReason elapsed)]) := by
  intro r₀
  refine ⟨?_, ?_, ?_⟩
  · rintro before now after item rfl hcontrol hlow hlate
    exact events_of_overdue s statement stream c hlimit hcontrol hlow hlate hend hearly
  · intro hclock
    have hne : c.reason ≠ some timeoutReason := by
      intro h
      exact absurd (hc _ h) (by decide)
    exact (punctual_steps s statement stream hlimit hne hms hclock).told
  · rintro before after rfl hreason hnone
    exact events_of_consumed s statement c stream hreason (by decide) hnone hend hearly

end Punctuality

/-- A statement with two batches and a limit of two, by a clock that shows whole
    numbers and begins at zero. -/
def limitedToTwo : Surroundings Int where
  reading n := n
  limit := some 2

/-- The first of two batches comes in time and the second one does not. -/
theorem time_limit_cancels_second_batch :
    (∃ elapsed, eventsIn
        (((limitedToTwo.begun [] {} twoBatches).steps
            (bringAt 1 ++ [.resume, .work, .work, .work, .take])).1.steps
          (.checkTime 3 :: .observe :: .handle 3 :: bringAt 4)).2
        = [.completed (.cancelled timeoutReason elapsed)]) ∧
    ∀ elapsed, .cancelled timeoutReason elapsed ∈ outcomesIn
        ((limitedToTwo.begun [] {} twoBatches).steps
          (bringAt 1 ++ .resume :: bringAt 3 ++ bringAt 4)).2 →
      2 < elapsed := by
  have hend : ((limitedToTwo.begun [] {} twoBatches).steps
      (bringAt 1 ++ .resume :: bringAt 3 ++ bringAt 4)).1.control = .finished := by cbv
  have hearly : ¬ (limitedToTwo.begun [] {} twoBatches).ClosesEarly
      (bringAt 1 ++ .resume :: bringAt 3 ++ bringAt 4) := by
    rintro ⟨before, after, hms, -⟩
    have hclose : (.close : Move Int) ∈ bringAt 1 ++ .resume :: bringAt 3 ++ bringAt 4 :=
      hms ▸ by simp
    simp [bringAt] at hclose
  have hcontrol : ((limitedToTwo.begun [] {} twoBatches).steps
      (bringAt 1 ++ [.resume, .work, .work, .work, .take])).1.control
        = .timing (some (.batch ⟨[], []⟩)) := by cbv
  have hlow : ((limitedToTwo.begun [] {} twoBatches).steps
      (bringAt 1 ++ [.resume, .work, .work, .work, .take])).1.flag.isRaised = false := by cbv
  have hreadings : (limitedToTwo.begun [] {} twoBatches).readings
      (bringAt 1 ++ .resume :: bringAt 3 ++ bringAt 4) = [1, 3, 4] := by cbv
  have h := time_limit_cancels limitedToTwo [] twoBatches (c := {}) rfl (by simp)
    (by simp [bringAt]) hend hearly
  exact ⟨h.1 _ 3 (.observe :: .handle 3 :: bringAt 4) _ rfl hcontrol hlow (by decide),
    h.2.1 (by rw [hreadings]; decide)⟩

end Running

end SqlShell
