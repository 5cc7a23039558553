import SqlShell.Proofs.Execution.Attending
import SqlShell.Proofs.Execution.Cancelling

/-! # Undisturbed Statements

    A statement that nobody cancels, and for which there is no time limit, comes
    to the outcome that its stream calls for, after all its batches.

    * **`Surroundings.Undisturbed`** says that nobody interrupts or cancels, and
      that there is no limit.
    * **`Running.Undisturbed`** is what is then true of a running statement.
    * **`Running.Undisturbed.advance`**: the next move of the control brings the
      next batch, or the outcome behind the last one, if it brings anything. -/

namespace SqlShell

variable {τ : Type}

/-- **The outcome that a stream calls for** when nobody cancels.  A statement over
    which the engine blocks could only be cancelled. -/
def ResultStream.outcome (stream : ResultStream) (elapsed : τ) : Outcome τ :=
  match stream.ending with
  | .complete => .success (rowCount stream.batches) elapsed
  | .failed e => .failure e elapsed
  | .crashed c => .failure c.failure elapsed
  | .cancelled | .blocked => .cancelled interruptReason elapsed

/-- **Nothing disturbs a statement** in these surroundings: nobody interrupts or
    cancels, and there is no time limit. -/
structure Surroundings.Undisturbed (s : Surroundings τ) : Prop where
  waits : .interrupt ∉ s.waits
  interludes (n : Nat) (reason : Text) : .cancel reason ∉ s.interludes n
  limit : s.limit = none
  limitFault : s.limitFault = none

theorem Surroundings.Undisturbed.tick {s : Surroundings τ} (h : s.Undisturbed) :
    s.tick.Undisturbed := ⟨h.waits, h.interludes, h.limit, h.limitFault⟩

namespace Running

variable {r r' : Running τ} {signals : List (Signal τ)} {stream : ResultStream}
  {yielded : List Batch}

/-- **A running statement that nobody has disturbed** and of which the consumer
    has got these batches. -/
structure Undisturbed (stream : ResultStream) (yielded : List Batch) (r : Running τ) : Prop where
  low : r.flag.isRaised = false
  limit : r.limit = none
  has : Has stream yielded r

theorem undisturbed_begun {s : Surroundings τ} (hs : s.Undisturbed) (statement : Text)
    (stream : ResultStream) : (s.begun statement {} stream).Undisturbed stream [] :=
  ⟨rfl, hs.limit, has_begun s statement {} stream⟩

/-- **The outcome comes behind the whole stream**, and it is the one that the
    stream calls for. -/
theorem Has.completed {outcome : Outcome τ} (h : Has stream yielded r)
    (hlow : r.flag.isRaised = false) (t : Transition r r' signals)
    (he : eventOf? signals = some (.completed outcome)) :
    yielded = stream.batches ∧ ∃ elapsed, outcome = stream.outcome elapsed := by
  obtain ⟨past, f, rfl, -⟩ := h hlow
  rw [eventOf?_eq] at he
  -- Only the end of a stream that has not been cancelled brings an outcome.
  cases t with
  | complete v elapsed hc =>
    obtain ⟨hall, hv⟩ := (f.intact hlow).whole hc
    obtain rfl : r.outcome v elapsed = outcome := by simpa using he
    refine ⟨hall, elapsed, ?_⟩
    have hrows : r.rows = rowCount stream.batches := by rw [f.rows, hall]
    have hreason : r.flag.reasonOr interruptReason = interruptReason := by
      have hnone : r.flag.reason = none := by simpa [Cancellation.isRaised] using hlow
      simp [Cancellation.reasonOr, hnone]
    unfold ResultStream.outcome
    cases hending : stream.ending with
    | blocked => simp [hending, Ending.verdict?] at hv
    | complete | failed | crashed | cancelled =>
      simp only [hending, Ending.verdict?, Option.some.injEq] at hv
      subst hv
      simp [outcome, hlow, hrows, hreason]
  | take item => simp at he
  | drained v => simp at he
  | _ => cases he

theorem flag_workAhead (fuel : Nat) (r : Running τ) : (workAhead fuel r).flag = r.flag := by
  induction fuel generalizing r with
  | zero => rfl
  | succ fuel ih =>
    unfold workAhead
    split
    · rw [ih, work_flag]
    · rfl

variable [Timescale τ] {s : Surroundings τ}

/-! ## The surroundings -/

/-- The surroundings stay undisturbed. -/
theorem undisturbed_surroundings (hs : s.Undisturbed) (r : Running τ) :
    (r.advance s).1.Undisturbed := by
  have hmoved : Surroundings.Undisturbed { s with moves := s.moves + 1 } :=
    ⟨hs.waits, hs.interludes, hs.limit, hs.limitFault⟩
  have hwait {s : Surroundings τ} (hs : s.Undisturbed) (r : Running τ) :
      (r.wait s).1.Undisturbed := by
    have hrest {waits : List Wait} (h : .interrupt ∉ waits) :
        Surroundings.Undisturbed { s with waits } := ⟨h, hs.interludes, hs.limit, hs.limitFault⟩
    unfold wait
    cases hw : s.waits with
    | nil => exact hrest List.not_mem_nil
    | cons first rest =>
      have hnot : .interrupt ∉ rest := fun h => hs.waits (hw ▸ List.mem_cons_of_mem _ h)
      cases first <;> exact hrest hnot
  unfold advance interlude
  dsimp only
  split
  case h_1 | h_2 => exact hwait hmoved _
  case h_3 =>
    split
    · exact hmoved.tick
    · exact hmoved
  case h_5 => exact hmoved.tick
  case h_4 | h_6 | h_7 | h_8 => exact hmoved

/-- The other parties do not touch the flag. -/
theorem flag_interlude (hs : s.Undisturbed) (r : Running τ) :
    (r.interlude s).2.flag = r.flag := by
  have hsteps (is : List Interlude) (his : ∀ reason, .cancel reason ∉ is) (r : Running τ) :
      (r.steps (is.map Interlude.move)).1.flag = r.flag := by
    induction is generalizing r with
    | nil => rfl
    | cons i is ih =>
      have hrest (reason : Text) : .cancel reason ∉ is :=
        fun h => his reason (List.mem_cons_of_mem _ h)
      have hone : (r.step i.move).1.flag = r.flag := by
        rw [step_flag]
        cases i with
        | cancel reason => exact absurd List.mem_cons_self (his reason)
        | work | workBreaking | swerve => rfl
      exact (ih hrest _).trans hone
  exact hsteps _ (hs.interludes s.moves) r

/-- A wait does not touch the flag. -/
theorem flag_wait (hs : s.Undisturbed) (r : Running τ) : (r.wait s).2.1.flag = r.flag := by
  have hitem : (if (workAhead stepsToItem r).channel.isEmpty
      then (workAhead stepsToItem r).step .empty
      else (workAhead stepsToItem r).step .take).1.flag = r.flag := by
    split <;> rw [step_flag] <;> exact flag_workAhead _ _
  unfold wait
  cases hw : s.waits with
  | nil => exact hitem
  | cons first rest =>
    cases first with
    | item => exact hitem
    | empty => exact step_flag r .empty
    | interrupt => exact absurd (hw ▸ List.mem_cons_self) hs.waits

/-- **Nobody raises the flag** without a limit. -/
theorem flag_advance (hs : s.Undisturbed) (hlimit : r.limit = none) :
    (r.advance s).2.1.flag = r.flag := by
  have hflag := flag_interlude hs r
  have hmoved : Surroundings.Undisturbed (r.interlude s).1 :=
    ⟨hs.waits, hs.interludes, hs.limit, hs.limitFault⟩
  have hlimit' : (r.interlude s).2.limit = none :=
    steps_invariant (P := fun r' _ => r'.limit = none) hlimit
      (fun _ _ _ _ t h => t.limit_eq.trans h) _
  unfold advance
  dsimp only
  split
  case h_1 | h_2 => exact (flag_wait hmoved _).trans hflag
  case h_3 item hc =>
    -- Without a limit the check of an item asks for nothing.
    rw [step_flag, ← hflag]
    simp [request?, hc, isOverdue, hlimit', Cancellation.raiseAll]
  case h_4 | h_5 | h_6 =>
    rw [step_flag]
    exact hflag
  case h_7 | h_8 => exact hflag

/-! ## Running on -/

namespace Undisturbed

/-- Moves that nobody hears and that are no requests change nothing. -/
theorem steps (h : r.Undisturbed stream yielded) (ms : List (Move τ))
    (hquiet : eventsIn (r.steps ms).2 = []) (hflag : (r.steps ms).1.flag = r.flag) :
    (r.steps ms).1.Undisturbed stream yielded where
  low := by rw [hflag, h.low]
  limit := steps_invariant (P := fun r' _ => r'.limit = none) h.limit
    (fun _ _ _ _ t h => t.limit_eq.trans h) ms
  has := h.has.steps ms hquiet

theorem interlude (hs : s.Undisturbed) (h : r.Undisturbed stream yielded) :
    (r.interlude s).2.Undisturbed stream yielded :=
  h.steps _ (by rw [(steps_interludes _ r).1]; rfl) (flag_interlude hs r)

/-- The consumer asks for the next event. -/
theorem resume (h : r.Undisturbed stream yielded) :
    (r.step .resume).1.Undisturbed stream yielded ∧ (r.step .resume).1.control ≠ .yielded := by
  have hquiet : (r.step .resume).2 = [] ∧ (r.step .resume).1.control ≠ .yielded := by
    cases hc : r.control <;> simp [Running.step, hc]
  have hsteps := h.steps [.resume] (by rw [steps_singleton, hquiet.1]; rfl)
    (by rw [steps_singleton]; exact step_flag r .resume)
  rw [steps_singleton] at hsteps
  exact ⟨hsteps, hquiet.2⟩

/-- **The next move of the control** brings the next batch, or the outcome that
    the stream calls for once all its batches have come. -/
theorem advance (hs : s.Undisturbed) (h : r.Undisturbed stream yielded) {r' : Running τ}
    {signals : List (Signal τ)} (hadv : (r.advance s).2 = (r', signals)) :
    match eventOf? signals with
    | none => r'.Undisturbed stream yielded ∧ (r.control ≠ .yielded → r'.control ≠ .yielded)
    | some (.batch b) =>
      yielded ++ [b] <+: stream.batches ∧ r'.Undisturbed stream (yielded ++ [b])
    | some (.completed outcome) =>
      yielded = stream.batches ∧ ∃ elapsed, outcome = stream.outcome elapsed := by
  obtain ⟨-, hbrings⟩ := has_advance s h.has hadv
  obtain ⟨is, m, hm⟩ := advance_eq s r
  rw [hadv] at hm
  have hr' : r' = ((r.steps (is.map Interlude.move)).1.step m).1 := congrArg Prod.fst hm
  have hsignals : signals = ((r.steps (is.map Interlude.move)).1.step m).2 :=
    congrArg Prod.snd hm
  have t := step_transition (r.steps (is.map Interlude.move)).1 m
  rw [← hr', ← hsignals] at t
  have hlow : r'.flag.isRaised = false := by
    have hflag := flag_advance hs h.limit
    rw [hadv] at hflag
    rw [hflag, h.low]
  have hlimit : r'.limit = none := by
    rw [t.limit_eq]
    exact steps_invariant (P := fun r' _ => r'.limit = none) h.limit
      (fun _ _ _ _ t h => t.limit_eq.trans h) _
  split at hbrings
  case h_1 hnone =>
    rw [hnone]
    exact ⟨⟨hlow, hlimit, hbrings.1⟩, hbrings.2⟩
  case h_2 e hevent =>
    rw [hevent]
    cases e with
    | batch b => exact ⟨hbrings.2.1, hlow, hlimit, hbrings.2.2⟩
    | completed outcome =>
      exact (h.has.interludes is).completed (t.lowered hlow) t hevent

end Undisturbed

end Running

end SqlShell
