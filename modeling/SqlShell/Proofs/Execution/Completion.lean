import SqlShell.Proofs.Execution.Termination

/-! # Executions That Are Over

    When the control of a statement has ended, so has everything else about it,
    and there is exactly one report.

    * **`Sound`** is the invariant of a statement that is executed, whatever its
      surroundings do and whether its engine blocks or not.
    * **`IsOver`** says that nothing of the execution goes on.
    * **`brought_to_end`**: every execution can be brought to its end.
    * **`Transition.reports_eq`**: the report shows in the move that ends the execution. -/

namespace SqlShell

variable {τ : Type}

/-- The report that a signal gives, if it gives one. -/
def Signal.report? : Signal τ → Option QueryReport
  | .closed report => some report
  | _ => none

namespace Running

/-! ## Sound executions -/

/-- **A statement is executed soundly**: its parties are in order, a stream that
    its worker is done with is closed if that is possible, and only an engine
    that blocks keeps the parties waiting. -/
structure Sound (stream : ResultStream) (statement : Text) (r : Running τ) : Prop where
  orderly : Orderly r
  once : StopsOnce r
  capacity : 0 < r.capacity
  named : r.statement = statement
  shut : r.stream.closable = stream.closable ∧
    (r.worker.hasShut = true → r.closed = stream.closable)
  unblocked : r.stream.ending = .blocked → stream.ending = .blocked ∨ 0 < r.stops

variable {stream : ResultStream} {statement : Text} {r r' : Running τ}
  {signals : List (Signal τ)}

theorem sound_begun (s : Surroundings τ) (statement : Text) (c : Cancellation)
    (stream : ResultStream) : Sound stream statement (s.begun statement c stream) where
  orderly := ⟨fun _ => rfl, fun h => absurd h (by simp [Surroundings.begun]), Nat.zero_le _⟩
  once := by constructor <;> simp [Surroundings.begun]
  capacity := by
    simp only [Surroundings.begun, Surroundings.capacity]
    omega
  named := rfl
  shut := ⟨rfl, fun h => absurd h (by simp [Surroundings.begun, Worker.hasShut])⟩
  unblocked := .inl

namespace Sound

theorem transition (h : Transition r r' signals) (s : Sound stream statement r) :
    Sound stream statement r' where
  orderly := s.orderly.transition h
  once := s.once.transition h
  capacity := h.capacity_eq ▸ s.capacity
  named := by
    have hsame : r'.statement = r.statement := by cases h <;> rfl
    rw [hsame, s.named]
  shut := h.closed_eq s.shut
  unblocked := by
    intro hb
    -- Another ending comes only from an engine that has been told to stop.
    have hstops : stream.ending = .blocked ∨ 0 < r.stops := by
      cases h with
      | swerve batches ending h => exact .inr h
      | _ => exact s.unblocked hb
    exact hstops.imp_right fun h₀ => Nat.lt_of_lt_of_le h₀ h.stops_le

theorem steps [Timescale τ] (s : Sound stream statement r) (ms : List (Move τ)) :
    Sound stream statement (r.steps ms).1 :=
  steps_invariant (P := fun r _ => Sound stream statement r) s
    (fun _ _ _ _ t s => s.transition t) ms

theorem advance [Timescale τ] (s : Sound stream statement r) (around : Surroundings τ) :
    Sound stream statement (r.advance around).2.1 := by
  obtain ⟨is, m, hadv⟩ := advance_eq around r
  rw [hadv]
  exact (s.steps _).transition (step_transition _ m)

/-- A sound execution is live unless its engine blocks and has not been told to
    stop. -/
theorem live (s : Sound stream statement r) (h : stream.ending = .blocked → 0 < r.stops) :
    Live r where
  orderly := s.orderly
  once := s.once
  capacity := s.capacity
  unblocked hb := (s.unblocked hb).elim h id

end Sound

/-! ## The end of an execution -/

/-- **The execution is over**: its worker has returned, the channel is empty and
    the stream has been closed if that is possible. -/
structure IsOver (stream : ResultStream) (r : Running τ) : Prop where
  control : r.control = .finished
  worker : r.worker = .returned
  channel : r.channel = []
  closed : r.closed = stream.closable

theorem Sound.isOver (s : Sound stream statement r) (h : r.control = .finished) :
    IsOver stream r := by
  obtain ⟨hreturned, hchannel⟩ := s.orderly.ended h
  have hworker : r.worker = .returned := by
    revert hreturned
    cases r.worker <;> simp [Worker.hasReturned]
  refine ⟨h, hworker, hchannel, s.shut.2 ?_⟩
  rw [hworker]
  rfl

section Telling

variable [Timescale τ]

/-- A control that looks at a raised flag has told its query to stop. -/
theorem stops_of_observing (once : StopsOnce r) (hf : r.flag.isRaised = true)
    {item : Option Item} (hc : r.control = .observing item) : 0 < (r.step .observe).1.stops := by
  cases ho : r.observed with
  | false => simp [step, hc, hf, ho]
  | true => simp [step, hc, ho, once.seen ho]

/-- One that waits under a raised flag can go round to look at it. -/
theorem exists_told_of_waiting (once : StopsOnce r) (hf : r.flag.isRaised = true)
    (hc : r.control = .waiting) : ∃ ms : List (Move τ), 0 < (r.steps ms).1.stops := by
  by_cases h0 : r.stops = 0
  · have hw : r.isWaiting = true := by simp [isWaiting, hc]
    refine ⟨[.empty, .checkTime r.start, .observe], ?_⟩
    rw [stops_of_waiting once hw hf h0]
    exact Nat.one_pos
  · exact ⟨[], Nat.pos_of_ne_zero h0⟩

/-- **Under a raised flag the control can come to tell its query to stop**, unless
    it has ended before. -/
theorem exists_told (once : StopsOnce r) (hf : r.flag.isRaised = true) :
    ∃ ms : List (Move τ), (r.steps ms).1.control = .finished ∨ 0 < (r.steps ms).1.stops := by
  have hround (m : Move τ) (hm : (r.step m).1.control = .waiting)
      (hflag : (r.step m).1.flag = r.flag) :
      ∃ ms : List (Move τ), (r.steps ms).1.control = .finished ∨ 0 < (r.steps ms).1.stops := by
    obtain ⟨ms, hms⟩ :=
      exists_told_of_waiting (once.transition (step_transition r m)) (hflag ▸ hf) hm
    exact ⟨m :: ms, .inr hms⟩
  cases hc : r.control with
  | waiting =>
    obtain ⟨ms, hms⟩ := exists_told_of_waiting once hf hc
    exact ⟨ms, .inr hms⟩
  | timing item =>
    have t := step_transition r (.checkTime r.start)
    have hraised : (r.step (.checkTime r.start)).1.flag.isRaised = true := by
      by_contra hlow
      simp [t.lowered (by simpa using hlow)] at hf
    have hobserving : (r.step (.checkTime r.start)).1.control = .observing item := by
      simp [step, hc]
    exact ⟨[.checkTime r.start, .observe],
      .inr (stops_of_observing (once.transition t) hraised hobserving)⟩
  | observing item => exact ⟨[.observe], .inr (by simpa using stops_of_observing once hf hc)⟩
  | handling item =>
    cases item with
    | none =>
      exact hround (.handle r.start) (by simp [step, handle, hc]) (by simp [step, handle, hc])
    | some item =>
      cases item with
      | batch b =>
        -- Under a raised flag a batch is dropped, and the loop goes round.
        exact hround (.handle r.start) (by simp [step, handle, hc, hf])
          (by simp [step, handle, hc, hf])
      | finished v => exact ⟨[.handle r.start], .inl (by simp [step, handle, hc])⟩
  | yielded => exact hround .resume (by simp [step, hc]) (by simp [step, hc])
  | draining =>
    refine ⟨[], .inr ?_⟩
    rw [steps_nil, once.left hc]
    exact Nat.one_pos
  | finished => exact ⟨[], .inl hc⟩

/-- **Every execution can be brought to its end.**  From each state that can be
    reached there are moves behind which it is over.  Unless the engine blocks and
    has not been told to stop, it is enough for that if everybody goes on: nobody
    has to raise the flag or to leave. -/
theorem brought_to_end (s : Surroundings τ) (statement : Text) (c : Cancellation)
    (stream : ResultStream) (ms : List (Move τ)) :
    let r := ((s.begun statement c stream).steps ms).1
    ((stream.ending = .blocked → 0 < r.stops) →
      ∃ ms' : List (Move τ), (∀ m ∈ ms', m.goesOn = true) ∧ IsOver stream (r.steps ms').1) ∧
    ∃ ms' : List (Move τ), IsOver stream (r.steps ms').1 := by
  intro r
  have hsound : Sound stream statement r := (sound_begun s statement c stream).steps ms
  refine ⟨?_, ?_⟩
  · intro htold
    obtain ⟨ms', hgoes, hfinished⟩ := (hsound.live htold).exists_finished
    exact ⟨ms', hgoes, (hsound.steps ms').isOver hfinished⟩
  · -- The flag is raised, and the query is told to stop.
    have hraised : (r.step (.cancel abandonedReason)).1.flag.isRaised = true :=
      Cancellation.isRaised_raise _ r.flag
    have hsound' := hsound.steps [.cancel abandonedReason]
    rw [steps_singleton] at hsound'
    obtain ⟨ms₁, htold⟩ := exists_told hsound'.once hraised
    rcases htold with hfinished | hstops
    · exact ⟨.cancel abandonedReason :: ms₁, (hsound'.steps ms₁).isOver hfinished⟩
    · have hlive := (hsound'.steps ms₁).live fun _ => hstops
      obtain ⟨ms₂, -, hfinished⟩ := hlive.exists_finished
      refine ⟨.cancel abandonedReason :: (ms₁ ++ ms₂), ?_⟩
      show IsOver stream ((r.step (.cancel abandonedReason)).1.steps (ms₁ ++ ms₂)).1
      rw [steps_append]
      exact ((hsound'.steps ms₁).steps ms₂).isOver hfinished

end Telling

/-- **The report** on an execution, once it has ended. -/
def reports (r : Running τ) : List QueryReport :=
  match r.control with
  | .finished => [r.report]
  | _ => []

theorem reports_of_ne (h : r.control ≠ .finished) : r.reports = [] := by
  unfold reports
  split
  case h_1 hc => exact absurd hc h
  case h_2 => rfl

/-- **The report shows in the move that ends the execution**, and nothing changes
    it afterwards. -/
theorem Transition.reports_eq (h : Transition r r' signals) (o : Orderly r) :
    r'.reports = r.reports ++ signals.filterMap Signal.report? := by
  have hsignals (item : Item) :
      (Running.Item.signals item : List (Signal τ)).filterMap Signal.report? = [] := by
    unfold Running.Item.signals
    split <;> rfl
  by_cases hc : r.control = .finished
  · -- The worker has returned too, so only the engine and the flag are left.
    obtain ⟨hreturned, -⟩ := o.ended hc
    have hreports : r.reports = [r.report] := by simp [reports, hc]
    cases h with
    | stay | swerve | raise => simp [reports, Running.report, Running.raise, hc]
    | pull b rest hw | exhaust v hw | shut v fault hw | report v hw | put b hw =>
      simp [hw, Worker.hasReturned] at hreturned
    | offer b hw | giveUp b hw | refuse b hw =>
      simp [(Worker.of_inHand hw).1] at hreturned
    | take item rest h | pause h | interrupt h | check item h | timeout item h
    | observe item h | pass item h | again h | discard b h | yield b h | complete v elapsed h
    | resume h | abandon h | drain b rest h | drained v rest h => simp [h] at hc
  · rw [reports_of_ne hc, List.nil_append]
    cases h with
    | complete v elapsed h =>
      cases r.outcome v elapsed <;>
        simp [reports, Running.report, Running.Outcome.signals, Signal.report?]
    | drained v rest h => simp [reports, Running.report, hsignals, Signal.report?]
    | take item rest h => simp [reports, hsignals]
    | stay | pull | exhaust | offer | giveUp | put | refuse | shut | report | swerve | raise
    | drain => exact reports_of_ne hc
    | _ => simp [reports, Running.abandon, Signal.report?]

/-- What the other parties do gives no report. -/
theorem Sound.reports_interludes [Timescale τ] (s : Sound stream statement r)
    (is : List Interlude) : (r.steps (is.map Interlude.move)).1.reports = r.reports := by
  have h := steps_invariant (P := fun r' signals => Sound stream statement r' ∧
      r'.reports = r.reports ++ signals.filterMap Signal.report?) (r := r) ⟨s, by simp⟩ ?_
    (is.map Interlude.move)
  · rw [h.2, (steps_interludes is r).1]
    simp
  · intro r₁ past r₂ signals t h
    refine ⟨h.1.transition t, ?_⟩
    rw [t.reports_eq h.1.orderly, h.2, List.filterMap_append, List.append_assoc]

/-- The next move of the control gives the reports that show in it. -/
theorem Sound.reports_advance [Timescale τ] (s : Sound stream statement r)
    (around : Surroundings τ) : (r.advance around).2.1.reports
      = r.reports ++ (r.advance around).2.2.filterMap Signal.report? := by
  obtain ⟨is, m, hadv⟩ := advance_eq around r
  rw [hadv]
  rw [(step_transition _ m).reports_eq (s.steps _).orderly, s.reports_interludes is]

end Running

end SqlShell
