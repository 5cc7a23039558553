import SqlShell.Proofs.Execution.Delivery

/-! # Cancelling a Statement

    Many can ask for a cancellation: whoever holds the flag, a user who
    interrupts, the time limit, a consumer that leaves early.  The moves of a
    run thus make a sequence of **requests**, and the first of them decides:

    * after it no batch is yielded, and the outcome gives its reason;
    * the query is told to stop once, as soon as the control sees the flag or is
      left by its consumer, and never without a request. -/

namespace SqlShell

variable {τ : Type}

/-! ## The flag under many requests -/

/-- Raises a flag for several reasons, one after the other. -/
def Cancellation.raiseAll (reasons : List Text) (c : Cancellation) : Cancellation :=
  reasons.foldl (fun c reason => c.raise reason) c

/-- **The first reason is kept.** -/
theorem Cancellation.reason_raiseAll (reasons : List Text) (c : Cancellation) :
    (c.raiseAll reasons).reason = c.reason.or reasons.head? := by
  induction reasons generalizing c with
  | nil => simp [raiseAll]
  | cons reason rest ih =>
    have h : (c.raiseAll (reason :: rest)).reason = ((c.raise reason).raiseAll rest).reason := rfl
    rw [h, ih]
    -- The first of the reasons is taken only by a flag that is down.
    cases hc : c.reason <;> simp [raise, hc]

/-- The reason is given, unless it is an empty one. -/
theorem Cancellation.reasonOr_eq {c : Cancellation} {reason : Text} (h : c.reason = some reason)
    (hne : reason ≠ []) (default : Text) : c.reasonOr default = reason := by
  obtain ⟨d, rest, rfl⟩ := List.exists_cons_of_ne_nil hne
  simp [reasonOr, h]

namespace Running

/-! ## Requests -/

section Requests

variable [Timescale τ]

/-- **The request for a cancellation** that a move is, with its reason. -/
def request? (r : Running τ) : Move τ → Option Text
  | .cancel reason => some reason
  | .interrupt =>
    match r.control with
    | .waiting => some interruptReason
    | _ => none
  | .checkTime now =>
    match r.control with
    | .timing _ => if r.isOverdue now then some timeoutReason else none
    | _ => none
  | .close =>
    match r.control with
    | .yielded => some (r.flag.reasonOr abandonedReason)
    | _ => none
  | _ => none

/-- **The requests of a run**, in order. -/
def requests (r : Running τ) : List (Move τ) → List Text
  | [] => []
  | m :: ms => (r.request? m).toList ++ (r.step m).1.requests ms

/-- A move raises the flag if and only if it is a request. -/
theorem step_flag (r : Running τ) (m : Move τ) :
    (r.step m).1.flag = r.flag.raiseAll (r.request? m).toList := by
  cases m with
  | work => simp [step, request?, Cancellation.raiseAll]
  | workBreaking c =>
    simp only [step, workBreaking]
    split <;> simp [request?, Cancellation.raiseAll]
  | swerve batches ending =>
    simp only [step, swerve]
    split <;> rfl
  | cancel reason => rfl
  | take =>
    simp only [step]
    split
    · split <;> simp [request?, Cancellation.raiseAll]
    · rfl
  | empty => simp [step, request?, Cancellation.raiseAll]
  | interrupt =>
    simp only [step, request?]
    cases hc : r.control <;> simp [Running.raise, received, Cancellation.raiseAll, hc]
  | checkTime now =>
    simp only [step, request?]
    cases hc : r.control <;> try rfl
    case timing item =>
      by_cases ho : r.isOverdue now = true <;>
        simp [Running.raise, Cancellation.raiseAll, ho]
  | observe =>
    simp only [step, request?]
    cases hc : r.control <;> try rfl
    case observing item =>
      dsimp only
      split <;> rfl
  | handle now =>
    simp only [step, request?]
    cases hc : r.control <;> try rfl
    case handling item =>
      cases item with
      | none => rfl
      | some item =>
        cases item with
        | finished v => rfl
        | batch b =>
          simp only [handle]
          split <;> rfl
  | resume =>
    simp only [step, request?]
    cases r.control <;> rfl
  | close =>
    simp only [step, request?]
    cases r.control <;> rfl

/-- The flag is raised by the requests and nothing else. -/
theorem steps_flag (r : Running τ) (ms : List (Move τ)) :
    (r.steps ms).1.flag = r.flag.raiseAll (r.requests ms) := by
  induction ms generalizing r with
  | nil => rfl
  | cons m ms ih =>
    simp only [steps, requests, ih, step_flag]
    exact List.foldl_append.symm

end Requests

/-! ## After the first request -/

/-- A raised flag stays as it is. -/
theorem Transition.flag_of_raised {r r' : Running τ} {signals : List (Signal τ)}
    (h : Transition r r' signals) (hf : r.flag.isRaised = true) : r'.flag = r.flag := by
  cases h with
  | raise | interrupt | timeout | abandon => exact Cancellation.raise_of_isRaised hf _
  | _ => rfl

/-- Under a raised flag there is no event but the end. -/
theorem Transition.event_of_raised {r r' : Running τ} {signals : List (Signal τ)}
    (h : Transition r r' signals) (hf : r.flag.isRaised = true) {e : Event τ}
    (he : e ∈ eventsIn signals) :
    ∃ elapsed, e = .completed (.cancelled (r.flag.reasonOr interruptReason) elapsed) := by
  cases h with
  | yield b hc hl => exact absurd hf (by simp [hl])
  | complete v elapsed hc =>
    refine ⟨elapsed, ?_⟩
    simpa [outcome, hf] using he
  | take item rest hc => simp at he
  | drained v rest hc => simp at he
  | _ => simp at he

/-- **After the first request nothing but the end comes**, and its reason is that
    of the request. -/
theorem events_of_raised [Timescale τ] {r : Running τ} (hf : r.flag.isRaised = true)
    (ms : List (Move τ)) :
    ∀ e ∈ eventsIn (r.steps ms).2,
      ∃ elapsed, e = .completed (.cancelled (r.flag.reasonOr interruptReason) elapsed) := by
  have h : (r.steps ms).1.flag = r.flag ∧ ∀ e ∈ eventsIn (r.steps ms).2,
      ∃ elapsed, e = .completed (.cancelled (r.flag.reasonOr interruptReason) elapsed) := by
    -- The flag keeps its reason, so all events of the run can give it.
    refine steps_invariant (P := fun r' past => r'.flag = r.flag ∧ ∀ e ∈ eventsIn past,
      ∃ elapsed, e = .completed (.cancelled (r.flag.reasonOr interruptReason) elapsed))
      ⟨rfl, by simp⟩ ?_ ms
    rintro r' past r'' signals t ⟨hflag, hpast⟩
    have hf' : r'.flag.isRaised = true := by rw [hflag, hf]
    refine ⟨(t.flag_of_raised hf').trans hflag, ?_⟩
    intro e he
    rw [eventsIn_append, List.mem_append] at he
    rcases he with he | he
    · exact hpast e he
    · exact hflag ▸ t.event_of_raised hf' he
  exact h.2

/-! ## Stops -/

/-- A run does not take a stop back. -/
theorem stops_le_steps [Timescale τ] (r : Running τ) (ms : List (Move τ)) :
    r.stops ≤ (r.steps ms).1.stops :=
  steps_invariant (P := fun r' _ => r.stops ≤ r'.stops) (Nat.le_refl _)
    (fun _ _ _ _ t h => Nat.le_trans h t.stops_le) ms

/-- **The control sees the flag raised** at some point of a run. -/
def SeesCancel [Timescale τ] (r : Running τ) (ms : List (Move τ)) : Prop :=
  ∃ before after item, ms = before ++ .observe :: after ∧
    (r.steps before).1.control = .observing item ∧ (r.steps before).1.flag.isRaised = true

section Runs

variable [Timescale τ] (s : Surroundings τ) (statement : Text) (c : Cancellation)
  (stream : ResultStream)

/-- A stop in the middle of a run is the only one of the run. -/
theorem stops_eq_one {before : List (Move τ)} (after : List (Move τ))
    (h : ((s.begun statement c stream).steps before).1.stops = 1) :
    ((s.begun statement c stream).steps (before ++ after)).1.stops = 1 := by
  -- There is at most one in the whole run, and none is taken back.
  have hle := (stopsOnce_steps s statement c stream (before ++ after)).once
  have hge := stops_le_steps ((s.begun statement c stream).steps before).1 after
  rw [steps_append] at hle ⊢
  dsimp only at hle ⊢
  omega

/-- A control that sees the flag raised has told the query to stop. -/
theorem stops_of_seesCancel {ms : List (Move τ)}
    (h : (s.begun statement c stream).SeesCancel ms) :
    ((s.begun statement c stream).steps ms).1.stops = 1 := by
  obtain ⟨before, after, item, rfl, hc, hf⟩ := h
  -- After that move the control has seen the flag, whether it was the first time or not.
  have hseen : ((s.begun statement c stream).steps (before ++ [.observe])).1.observed = true := by
    rw [steps_append, steps_singleton]
    cases ho : ((s.begun statement c stream).steps before).1.observed <;> simp [step, hc, hf, ho]
  rw [List.append_cons]
  exact stops_eq_one s statement c stream after
    ((stopsOnce_steps s statement c stream _).seen hseen)

/-- So has one that is left early by its consumer. -/
theorem stops_of_closesEarly {ms : List (Move τ)}
    (h : (s.begun statement c stream).ClosesEarly ms) :
    ((s.begun statement c stream).steps ms).1.stops = 1 := by
  obtain ⟨before, after, rfl, hc⟩ := h
  have hleft : ((s.begun statement c stream).steps (before ++ [.close])).1.control = .draining := by
    rw [steps_append, steps_singleton]
    simp [step, abandon, hc]
  rw [List.append_cons]
  exact stops_eq_one s statement c stream after
    ((stopsOnce_steps s statement c stream _).left hleft)

/-- After a request there is one event left at the most. -/
theorem events_after_request {ms : List (Move τ)} (ms' : List (Move τ))
    (hf : ((s.begun statement c stream).steps ms).1.flag.isRaised = true)
    (hnone : outcomesIn ((s.begun statement c stream).steps ms).2 = []) :
    let r := ((s.begun statement c stream).steps ms).1
    eventsIn (r.steps ms').2 = [] ∨ ∃ elapsed,
      eventsIn (r.steps ms').2
        = [.completed (.cancelled (r.flag.reasonOr interruptReason) elapsed)] := by
  intro r
  have hall := events_of_raised hf ms'
  have hfew : (outcomesIn (r.steps ms').2).length ≤ 1 := by
    -- The whole run has one outcome at the most, and none has come before.
    have f := faithful_steps s statement c stream (ms ++ ms')
    rw [steps_append] at f
    have ha := f.accounted
    rw [outcomesIn_append, hnone, List.nil_append] at ha
    rcases ha with h | ⟨outcome, h, -⟩ <;> simp [r, h]
  revert hall hfew
  rw [outcomesIn]
  generalize eventsIn (r.steps ms').2 = events
  intro hall hfew
  -- There is an outcome in each of the events, so there are not two of them.
  cases events with
  | nil => exact .inl rfl
  | cons e rest =>
    obtain ⟨elapsed, rfl⟩ := hall e (by simp)
    cases rest with
    | nil => exact .inr ⟨elapsed, rfl⟩
    | cons e' rest =>
      obtain ⟨_, rfl⟩ := hall e' (by simp)
      simp [Event.outcome?] at hfew

/-- **What comes after a request** if the execution is consumed to its end: the
    cancellation, for the reason of the request. -/
theorem events_of_consumed {ms ms' : List (Move τ)} {reason : Text}
    (hr : ((s.begun statement c stream).steps ms).1.flag.reason = some reason) (hne : reason ≠ [])
    (hnone : outcomesIn ((s.begun statement c stream).steps ms).2 = [])
    (hend : ((s.begun statement c stream).steps (ms ++ ms')).1.control = .finished)
    (hearly : ¬ (s.begun statement c stream).ClosesEarly (ms ++ ms')) :
    ∃ elapsed, eventsIn (((s.begun statement c stream).steps ms).1.steps ms').2
      = [.completed (.cancelled reason elapsed)] := by
  have hf : ((s.begun statement c stream).steps ms).1.flag.isRaised = true := by
    simp [Cancellation.isRaised, hr]
  rcases events_after_request s statement c stream ms' hf hnone with h | ⟨elapsed, h⟩
  · -- Without an outcome, the consumer must have left.
    refine absurd (closesEarly_of_left rfl _ (.inr ⟨hend, ?_⟩)) hearly
    rw [steps_append, outcomesIn_append, hnone, List.nil_append, outcomesIn]
    exact congrArg (List.filterMap Event.outcome?) h
  · exact ⟨elapsed, Cancellation.reasonOr_eq hr hne interruptReason ▸ h⟩

/-- **The first request decides.**  Let parties have asked for a cancellation
    `before` the execution, and in its moves `ms`.

    - From the first request on, and before the outcome has come, further moves
      `ms'` bring no batch, and no event but the cancellation for that reason;
      it comes if the execution is consumed to its end.
    - An engine that cancels the statement by itself, without any request, makes
      it a cancellation by interruption.
    - The query is told to stop once at the most: for certain if the control sees
      the flag raised or is left early, and never without a request. -/
theorem first_request_decides (before : List Text) (ms ms' : List (Move τ)) :
    let r₀ := s.begun statement (({} : Cancellation).raiseAll before) stream
    let r := (r₀.steps ms).1
    let past := (r₀.steps ms).2
    let later := (r.steps ms').2
    let requests := before ++ r₀.requests ms
    (∀ reason others, requests = reason :: others → reason ≠ [] → outcomesIn past = [] →
      (eventsIn later = [] ∨
        ∃ elapsed, eventsIn later = [.completed (.cancelled reason elapsed)]) ∧
      ((r.steps ms').1.control = .finished → ¬ r₀.ClosesEarly (ms ++ ms') →
        eventsIn later ≠ [])) ∧
    (requests = [] → stream.ending = .cancelled → ∀ outcome ∈ outcomesIn past,
      ∃ elapsed, outcome = .cancelled interruptReason elapsed) ∧
    r.stops ≤ 1 ∧
    (r₀.SeesCancel ms ∨ r₀.ClosesEarly ms → r.stops = 1) ∧
    (requests = [] → r.stops = 0) := by
  intro r₀ r past later requests
  -- The flag shows the first request, of those before the run and those in it.
  have hreason : r.flag.reason = requests.head? := by
    have h : r.flag = (r₀.flag).raiseAll (r₀.requests ms) := steps_flag r₀ ms
    have h₀ : r₀.flag.reason = before.head? := by
      simp [r₀, Surroundings.begun, Cancellation.reason_raiseAll]
    rw [h, Cancellation.reason_raiseAll, h₀, List.head?_append]
  have hlow (h : requests = []) : r.flag.isRaised = false := by
    simp [Cancellation.isRaised, hreason, h]
  have once : StopsOnce r := stopsOnce_steps s statement _ stream ms
  refine ⟨?_, ?_, once.once, ?_, ?_⟩
  · intro reason others hreq hne hnone
    -- What is left is the cancellation, with the reason of the flag.
    have hr : r.flag.reason = some reason := by rw [hreason, hreq]; rfl
    have hf : r.flag.isRaised = true := by simp [Cancellation.isRaised, hr]
    have hor : r.flag.reasonOr interruptReason = reason := by
      cases reason with
      | nil => exact absurd rfl hne
      | cons _ _ => simp [Cancellation.reasonOr, hr]
    refine ⟨hor ▸ events_after_request s statement _ stream ms' hf hnone, ?_⟩
    -- An execution that is consumed to its end has an outcome, which is still to come.
    intro hfin he hevents
    have hend : ((r₀.steps (ms ++ ms')).1).control = .finished := by rwa [steps_append]
    have hout : outcomesIn (r₀.steps (ms ++ ms')).2 = [] := by
      rw [steps_append, outcomesIn_append, hnone, List.nil_append, outcomesIn]
      exact congrArg (List.filterMap Event.outcome?) hevents
    exact he (closesEarly_of_left rfl _ (.inr ⟨hend, hout⟩))
  · -- The outcome accounts for the stream, and the flag is down.
    intro hreq he o ho
    have f : Faithful stream past r := faithful_steps s statement _ stream ms
    rcases f.accounted with h | ⟨outcome, h, -, ha⟩
    · simp [h] at ho
    · obtain rfl : o = outcome := by simpa [h] using ho
      cases o with
      | success rows elapsed => exact absurd (he.symm.trans ha.1) (by simp)
      | failure e elapsed =>
        rcases ha.2 with h' | ⟨crash, h', -⟩ <;> exact absurd (he.symm.trans h') (by simp)
      | cancelled reason elapsed =>
        rcases ha with ⟨hr, -⟩ | ⟨-, rfl⟩
        · exact absurd hr (by simp [hlow hreq])
        · exact ⟨elapsed, rfl⟩
  · intro h
    rcases h with h | h
    · exact stops_of_seesCancel s statement _ stream h
    · exact stops_of_closesEarly s statement _ stream h
  · intro hreq
    have hf := hlow hreq
    by_contra hstops
    exact absurd (once.raised (Nat.pos_of_ne_zero hstops)) (by simp [hf])

/-- Cancelled behind its first batch, a statement is consumed to its end: the worker
    gives up, and the query has been told to stop once. -/
example (now : τ) :
    let r₀ := ({ reading := fun _ => now } : Surroundings τ).begun [] {} twoBatches
    let r := r₀.steps (bringAt now ++ .cancel ['a'] :: .resume :: .work :: bringAt now)
    r.1.control = .finished ∧ r.1.stops = 1 ∧
      eventsIn r.2 = [.batch ⟨[], []⟩,
        .completed (.cancelled ['a'] (Timescale.since now now))] := by
  refine ⟨?_, ?_, ?_⟩ <;> cbv

end Runs

end Running

end SqlShell
