import SqlShell.Proofs.Execution.Delivery

/-! # Attending to a Statement

    What the surroundings make of a running statement is a run of it, so that a
    consumer that attends to the statement is told the truth as well:

    - `Running.advance` is one move of the control after some of the others;
    - `Running.Has` says which batches the consumer has got, and
      `has_advance` how the next move of the control adds to them. -/

namespace SqlShell

variable {τ : Type}

theorem eventOf?_eq (signals : List (Signal τ)) : eventOf? signals = (eventsIn signals).head? := by
  rw [eventsIn, List.head?_filterMap]
  rfl

namespace Running

/-! ## What the consumer has got -/

/-- **The consumer has got these batches** of a stream and no outcome yet.
    Nothing is said of a statement that has been cancelled. -/
def Has (stream : ResultStream) (yielded : List Batch) (r : Running τ) : Prop :=
  r.flag.isRaised = false →
    ∃ past, Faithful stream past r ∧ yieldedIn past = yielded ∧ outcomesIn past = []

/-- **The outcome is told truly**: it accounts for what the consumer has got, and
    after a request it is a cancellation. -/
def Told (stream : ResultStream) (yielded : List Batch) (outcome : Outcome τ) (c : Cancellation) :
    Prop :=
  (c.isRaised = false → outcome.Accounts stream yielded c) ∧
  (c.isRaised = true → ∃ elapsed, outcome = .cancelled (c.reasonOr interruptReason) elapsed)

/-- **What an event brings** to a consumer that has got these batches: a batch is
    the next one of the stream and comes only while the flag is down, and an
    outcome is told truly. -/
def Brings (stream : ResultStream) (yielded : List Batch) (r : Running τ) : Event τ → Prop
  | .batch b =>
    r.flag.isRaised = false ∧ yielded ++ [b] <+: stream.batches ∧ Has stream (yielded ++ [b]) r
  | .completed outcome => Told stream yielded outcome r.flag

variable {stream : ResultStream} {yielded : List Batch} {r : Running τ}

theorem has_begun (s : Surroundings τ) (statement : Text) (c : Cancellation)
    (stream : ResultStream) : Has stream [] (s.begun statement c stream) :=
  fun _ => ⟨[], faithful_begun s statement c stream, rfl, rfl⟩

theorem has_of_isRaised (h : r.flag.isRaised = true) : Has stream yielded r :=
  fun hf => absurd hf (by simp [h])

/-- An execution that has not been cancelled goes on to its outcome. -/
theorem Has.control_ne (h : Has stream yielded r) (hf : r.flag.isRaised = false) :
    r.control ≠ .finished := by
  obtain ⟨past, f, -, ho⟩ := h hf
  exact fun hc => f.answered hf hc ho

/-! ## The events of one move -/

/-- **A move gives one event at the most**: a batch while the flag is down, or
    the outcome that the flag asks for. -/
theorem Transition.heard {r' : Running τ} {signals : List (Signal τ)}
    (h : Transition r r' signals) :
    eventsIn signals = [] ∧ (r.control ≠ .yielded → r'.control ≠ .yielded) ∨
    (∃ b, eventsIn signals = [.batch b] ∧ r.flag.isRaised = false ∧ r'.flag = r.flag) ∨
    ∃ v elapsed, eventsIn signals = [.completed (r.outcome v elapsed)] ∧ r'.flag = r.flag := by
  cases h with
  | yield b hc hf => exact .inr (.inl ⟨b, rfl, hf, rfl⟩)
  | complete v elapsed hc => exact .inr (.inr ⟨v, elapsed, by simp, rfl⟩)
  | stay | pull | exhaust | offer | giveUp | put | refuse | shut | report | swerve | raise
  | drain => exact .inl ⟨rfl, id⟩
  | take item rest hc => exact .inl ⟨by simp, by simp⟩
  | drained v rest hc => exact .inl ⟨by simp, by simp⟩
  | _ => exact .inl ⟨rfl, by simp [Running.abandon]⟩

variable [Timescale τ]

/-! ## The moves of the other parties -/

/-- The other parties give no signals and do not touch the control. -/
theorem steps_interludes (is : List Interlude) (r : Running τ) :
    (r.steps (is.map Interlude.move)).2 = [] ∧
      (r.steps (is.map Interlude.move)).1.control = r.control := by
  induction is generalizing r with
  | nil => exact ⟨rfl, rfl⟩
  -- One move of another party first, then the others of the list.
  | cons i is ih =>
    have one : (r.step i.move).2 = [] ∧ (r.step i.move).1.control = r.control := by
      cases i with
      | work => exact ⟨rfl, r.work_control⟩
      | workBreaking c =>
        refine ⟨rfl, ?_⟩
        simp only [Interlude.move, step, workBreaking]
        split <;> simp
      | swerve batches ending =>
        refine ⟨rfl, ?_⟩
        simp only [Interlude.move, step, swerve]
        split <;> rfl
      | cancel reason => exact ⟨rfl, rfl⟩
    obtain ⟨hs, hc⟩ := ih (r.step i.move).1
    simp only [List.map_cons, steps]
    exact ⟨by rw [one.1, hs]; rfl, hc.trans one.2⟩

/-- A worker that works ahead takes some steps. -/
theorem workAhead_eq_work (fuel : Nat) (r : Running τ) :
    ∃ n, workAhead fuel r = (r.steps (List.replicate n .work)).1 := by
  induction fuel generalizing r with
  | zero => exact ⟨0, rfl⟩
  | succ fuel ih =>
    unfold workAhead
    split
    case isTrue =>
      obtain ⟨n, h⟩ := ih r.work
      exact ⟨n + 1, h⟩
    case isFalse => exact ⟨0, rfl⟩

theorem workAhead_eq (fuel : Nat) (r : Running τ) :
    ∃ is : List Interlude, workAhead fuel r = (r.steps (is.map Interlude.move)).1 := by
  obtain ⟨n, h⟩ := workAhead_eq_work fuel r
  refine ⟨List.replicate n .work, ?_⟩
  rw [h, List.map_replicate]
  rfl

/-- A wait is a move of the control after some steps of the worker. -/
theorem wait_eq (s : Surroundings τ) (r : Running τ) :
    ∃ (is : List Interlude) (m : Move τ),
      (r.wait s).2 = (r.steps (is.map Interlude.move)).1.step m := by
  obtain ⟨is, h⟩ := workAhead_eq stepsToItem r
  -- However far the worker gets, the wait ends with one move of the control.
  have item : ∃ (is : List Interlude) (m : Move τ),
      (if (workAhead stepsToItem r).channel.isEmpty then (workAhead stepsToItem r).step .empty
        else (workAhead stepsToItem r).step .take)
      = (r.steps (is.map Interlude.move)).1.step m := by
    rw [h]
    split
    · exact ⟨is, .empty, rfl⟩
    · exact ⟨is, .take, rfl⟩
  rcases hw : s.waits with _ | ⟨first, rest⟩
  · simpa only [wait, hw] using item
  · cases first with
    | item => simpa only [wait, hw] using item
    | empty => exact ⟨[], .empty, by simp only [wait, hw]; rfl⟩
    | interrupt => exact ⟨[], .interrupt, by simp only [wait, hw]; rfl⟩

/-- **The control goes on by one move** after some moves of the others. -/
theorem advance_eq (s : Surroundings τ) (r : Running τ) :
    ∃ (is : List Interlude) (m : Move τ),
      (r.advance s).2 = (r.steps (is.map Interlude.move)).1.step m := by
  have first (m : Move τ) : ∃ (is : List Interlude) (m' : Move τ),
      (r.interlude s).2.step m = (r.steps (is.map Interlude.move)).1.step m' :=
    ⟨s.interludes s.moves, m, rfl⟩
  unfold advance
  dsimp only
  split
  case h_1 | h_2 =>
    obtain ⟨is, m, h⟩ := wait_eq (r.interlude s).1 (r.interlude s).2
    refine ⟨s.interludes s.moves ++ is, m, ?_⟩
    rw [h, List.map_append, steps_append]
    rfl
  case h_3 => exact first (.checkTime _)
  case h_4 => exact first .observe
  case h_5 | h_6 => exact first (.handle _)
  case h_7 hc | h_8 hc =>
    -- It is not for the control to move, and a wait would change nothing.
    obtain ⟨is, m, h⟩ := first .empty
    refine ⟨is, m, h ▸ ?_⟩
    simp [step, received, hc]

/-! ## What the consumer gets -/

theorem lowered_of_steps {r : Running τ} (ms : List (Move τ))
    (h : (r.steps ms).1.flag.isRaised = false) : r.flag.isRaised = false := by
  refine steps_invariant (P := fun r' _ => r'.flag.isRaised = false → r.flag.isRaised = false)
    id (fun _ _ _ _ t ih hf => ih (t.lowered hf)) ms h

theorem Faithful.steps {stream : ResultStream} {past : List (Signal τ)} {r : Running τ}
    (f : Faithful stream past r) (ms : List (Move τ)) :
    Faithful stream (past ++ (r.steps ms).2) (r.steps ms).1 := by
  refine steps_invariant (P := fun r' signals => Faithful stream (past ++ signals) r')
    (by simpa using f) (fun r past r' signals t f => ?_) ms
  simpa using f.transition t

namespace Has

/-- Moves without an event bring the consumer nothing. -/
theorem steps (h : Has stream yielded r) (ms : List (Move τ))
    (hs : eventsIn (r.steps ms).2 = []) : Has stream yielded (r.steps ms).1 := by
  intro hf
  -- The past gets longer, with nothing in it that the consumer gets.
  obtain ⟨past, f, hy, ho⟩ := h (lowered_of_steps ms hf)
  refine ⟨past ++ (r.steps ms).2, f.steps ms, ?_, ?_⟩
  · rw [yieldedIn_append, hy]
    simp [yieldedIn, hs]
  · rw [outcomesIn_append, ho]
    simp [outcomesIn, hs]

/-- What the other parties do brings the consumer nothing. -/
theorem interludes (h : Has stream yielded r) (is : List Interlude) :
    Has stream yielded (r.steps (is.map Interlude.move)).1 :=
  h.steps _ (by rw [(steps_interludes is r).1]; rfl)

/-- A move that yields a batch yields the next one of the stream. -/
theorem batch {m : Move τ} {b : Batch} (h : Has stream yielded r)
    (hs : eventsIn (r.step m).2 = [.batch b]) (hf : r.flag.isRaised = false) :
    yielded ++ [b] <+: stream.batches ∧ Has stream (yielded ++ [b]) (r.step m).1 := by
  obtain ⟨past, f, hy, ho⟩ := h hf
  have f' := f.transition (step_transition r m)
  have hy' : yieldedIn (past ++ (r.step m).2) = yielded ++ [b] := by
    rw [yieldedIn_append, hy, yieldedIn, hs]
    rfl
  have ho' : outcomesIn (past ++ (r.step m).2) = [] := by
    rw [outcomesIn_append, ho, outcomesIn, hs]
    rfl
  exact ⟨hy' ▸ f'.yielded, fun _ => ⟨_, f', hy', ho'⟩⟩

/-- A move that tells an outcome tells the one that the flag asks for. -/
theorem told {m : Move τ} {v : Verdict} {elapsed : τ} (h : Has stream yielded r)
    (hs : eventsIn (r.step m).2 = [.completed (r.outcome v elapsed)])
    (hf : (r.step m).1.flag = r.flag) :
    Told stream yielded (r.outcome v elapsed) (r.step m).1.flag := by
  rw [hf]
  refine ⟨fun hlow => ?_, fun hr => ⟨elapsed, by simp [outcome, hr]⟩⟩
  -- With the flag down there is a past in which all is told, and this outcome ends it.
  obtain ⟨past, f, hy, ho⟩ := h hlow
  have f' := f.transition (step_transition r m)
  have hy' : yieldedIn (past ++ (r.step m).2) = yielded := by
    rw [yieldedIn_append, hy, yieldedIn, hs]
    exact List.append_nil _
  have ho' : outcomesIn (past ++ (r.step m).2) = [r.outcome v elapsed] := by
    rw [outcomesIn_append, ho, outcomesIn, hs]
    rfl
  rcases f'.accounted with hnone | ⟨outcome, hone, -, ha⟩
  · simp [hnone] at ho'
  · obtain rfl : r.outcome v elapsed = outcome := by simpa [hone, eq_comm] using ho'
    rwa [hy', hf] at ha

end Has

omit [Timescale τ] in
/-- The control does not break down over a limit that can be read. -/
theorem checkFault?_eq_none {s : Surroundings τ} (h : s.limitFault = none) (r : Running τ) :
    r.checkFault? s = none := by
  unfold checkFault?
  rw [h]
  split <;> simp

/-- **The next move of the control**, and what it brings to the consumer. -/
theorem has_advance (s : Surroundings τ) (h : Has stream yielded r) {r' : Running τ}
    {signals : List (Signal τ)} (hadv : (r.advance s).2 = (r', signals)) :
    (r'.flag.isRaised = false → r.flag.isRaised = false) ∧
    match eventOf? signals with
    | none => Has stream yielded r' ∧ (r.control ≠ .yielded → r'.control ≠ .yielded)
    | some e => Brings stream yielded r' e := by
  obtain ⟨is, m, hm⟩ := advance_eq s r
  rw [hadv] at hm
  obtain rfl : r' = _ := congrArg Prod.fst hm
  obtain rfl : signals = _ := congrArg Prod.snd hm
  obtain ⟨-, hc⟩ := steps_interludes is r
  -- What the consumer has got is carried over the others' moves, and then over the last one.
  have h₁ := h.interludes is
  have t := step_transition (r.steps (is.map Interlude.move)).1 m
  refine ⟨fun hf => lowered_of_steps _ (t.lowered hf), ?_⟩
  rw [eventOf?_eq]
  rcases t.heard with ⟨hs, hy⟩ | ⟨b, hs, hlow, hf⟩ | ⟨v, elapsed, hs, hf⟩
  · rw [hs]
    have h₂ := h₁.steps [m] (by rwa [steps_singleton])
    rw [steps_singleton] at h₂
    exact ⟨h₂, hc ▸ hy⟩
  · rw [hs]
    exact ⟨hf ▸ hlow, h₁.batch hs hlow⟩
  · rw [hs]
    exact h₁.told hs hf

end Running

end SqlShell
