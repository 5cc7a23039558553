import SqlShell.Proofs.Execution.Attending
import SqlShell.Proofs.Session.Action
import SqlShell.Session.Events

/-! # Following a Statement

    What the replies are worth that the shell gets about a statement of its
    engine, whatever becomes of the notices that are given on the way:

    * **Frames**: nothing is printed, and the session stays as it is; `Detached`
      is what can be said of any view that sees as little.
    * **`Follows`** says which batches the shell has got.
    * **`Answered`** says what the next reply adds to them. -/

namespace SqlShell.Shell

open Running (Has Told Brings)

/-! ## Frames -/

section Frames

variable {γ : Type} {view : Shell → γ}

/-- A view that does not see the transcript of what is no text. -/
structure Unaware (view : Shell → γ) : Prop where
  enter (shell : Shell) (e : Entry) : (∀ c, e.printed? c = none) →
    view { shell with console := shell.console.enter e } = view shell
  note (shell : Shell) (n : Notice) :
    view { shell with console := (shell.console.note n).2 } = view shell

theorem unaware_face : Unaware face where
  enter shell _ h := congrArg (·, shell.session) (Console.printed_enter_of_none h shell.console)
  note shell n := congrArg (·, shell.session) (Console.printed_note n shell.console)

theorem unaware_source : Unaware Shell.source := ⟨fun _ _ _ => rfl, fun _ _ => rfl⟩

theorem keeps_signal (h : Unaware view) (s : Signal Binary64) : Keeps view (signal s) := by
  have enters (e : Entry) (he : ∀ c, e.printed? c = none) : Keeps view (enter e) :=
    keeps_enter e fun shell => h.enter shell e he
  have notes (n : Notice) : Keeps view (note n) := keeps_note n fun shell => h.note shell n
  cases s with
  | event => exact keeps_pure _
  | offered | closed => exact (enters _ fun _ => rfl).bind fun _ => keeps_pure _
  | submitted => exact (enters _ fun _ => rfl).bind fun _ => notes _
  | broken | cancelling | failed | succeeded => exact notes _

theorem keeps_signalAll (h : Unaware view) (signals : List (Signal Binary64)) :
    Keeps view (signalAll signals) := by
  induction signals with
  | nil => exact keeps_pure _
  | cons s rest ih => exact (keeps_signal h s).bind fun _ => ih

/-- A phase is gone over to with a notice. -/
theorem keeps_enterPhase (h : Unaware view)
    (hphase : ∀ shell phase, view { shell with phase } = view shell) (phase : Phase) :
    Keeps view (enterPhase phase) := by
  refine keeps_get.bind ?_
  intro shell
  dsimp only
  split
  · exact (keeps_note _ fun shell => h.note shell _).bind fun _ =>
      keeps_modify fun shell => hphase shell phase
  · exact keeps_pure _

/-- **A view of what a statement leaves alone** while it is executed: neither the
    transcript of what is no text, nor the execution, nor the surroundings. -/
structure Detached (view : Shell → γ) : Prop extends Unaware view where
  source (shell : Shell) (x : EventSource) : view { shell with source := x } = view shell
  surroundings (shell : Shell) (s : Surroundings Binary64) :
    view { shell with surroundings := s } = view shell

theorem detached_face : Detached face := ⟨unaware_face, fun _ _ => rfl, fun _ _ => rfl⟩

namespace Detached

variable (h : Detached view)

include h

/-- An execution goes on in other surroundings. -/
theorem both (shell : Shell) (s : Surroundings Binary64) (x : EventSource) :
    view { shell with surroundings := s, source := x } = view shell :=
  (h.source { shell with surroundings := s } x).trans (h.surroundings shell s)

theorem keeps_setExecution (x : Execution Binary64) : Keeps view (setExecution x) :=
  keeps_modify fun shell => h.source shell (.execution x)

theorem keeps_advance (r : Running Binary64) : Keeps view (advance r) :=
  keeps_modifyGet fun shell => h.both shell _ _

theorem keeps_drain (fuel : Nat) (r : Running Binary64) : Keeps view (drain fuel r) := by
  induction fuel generalizing r with
  | zero => exact keeps_pure _
  | succ fuel ih =>
    unfold drain
    split
    · exact keeps_pure _
    · exact (h.keeps_advance r).bind fun (r, signals) =>
        (keeps_signalAll h.toUnaware signals).bind fun _ => ih r

theorem keeps_closeEvents : Keeps view closeEvents := by
  refine keeps_get.bind ?_
  intro shell
  split
  · exact h.keeps_setExecution _
  · split
    · exact keeps_pure _
    · exact h.keeps_drain _ _
  · exact keeps_pure _

theorem keeps_failCheck (c : Crash) : Keeps view (failCheck c) :=
  (keeps_modify fun shell => h.surroundings shell _).bind fun _ =>
    h.keeps_closeEvents.bind fun _ => keeps_pure _

theorem keeps_attend (last : Running Binary64 → ShellM (Reply Binary64))
    (hlast : ∀ r, Keeps view (last r)) (fuel : Nat) (r : Running Binary64) :
    Keeps view (attend last fuel r) := by
  induction fuel generalizing r with
  | zero =>
    unfold attend
    split
    · exact keeps_pure _
    · exact hlast r
  | succ fuel ih =>
    unfold attend
    split
    · exact keeps_pure _
    · refine keeps_get.bind ?_
      intro shell
      split
      · exact h.keeps_failCheck _
      · refine (h.keeps_advance r).bind ?_
        rintro ⟨r, signals⟩
        refine (keeps_signalAll h.toUnaware signals).attempt.bind ?_
        intro ended
        -- Whether the notices can be given or not, nothing is seen of it.
        split
        · exact h.keeps_closeEvents.bind fun _ => keeps_throw _
        · split
          · exact keeps_pure _
          · exact ih r

theorem keeps_insist (r : Running Binary64) : Keeps view (insist r) := by
  unfold insist
  split
  · exact keeps_get.bind fun _ => h.keeps_attend _ (fun _ => keeps_pure _) _ r
  · exact keeps_pure _

theorem keeps_attendAll (r : Running Binary64) : Keeps view (attendAll r) :=
  (h.keeps_setExecution _).bind fun _ => keeps_get.bind fun _ =>
    h.keeps_attend insist h.keeps_insist _ r

theorem keeps_begin (statement : Text) (c : Cancellation) : Keeps view (begin statement c) := by
  refine (keeps_signal h.toUnaware _).bind ?_
  intro _ shell
  rw [ensures_bind, ensures_get]
  dsimp only
  rw [ensures_bind, ensures_set]
  dsimp only
  have hset := h.both shell (Execution.begin (shell.engine.submit shell.session.history statement)
    statement c shell.surroundings).1 (.execution (.ended c))
  split
  · exact hset
  · refine ((keeps_signal h.toUnaware _).bind (fun _ => h.keeps_attendAll _) _).mono ?_
    intro ended after hafter
    exact hafter.trans hset

theorem keeps_replyOf (x : Execution Binary64) : Keeps view (replyOf x) := by
  cases x with
  | fresh statement c => exact h.keeps_begin statement c
  | running r => exact h.keeps_attendAll _
  | ended c => exact keeps_pure _

theorem keeps_nextOfExecution (x : Execution Binary64) : Keeps view (nextOfExecution x) := by
  refine (h.keeps_replyOf x).attempt.bind ?_
  intro ended
  split
  · exact keeps_pure _
  · exact keeps_pure _
  · exact keeps_throw _

theorem keeps_nextEvent : Keeps view nextEvent := by
  intro shell
  rw [nextEvent, ensures_bind, ensures_get]
  dsimp only
  split
  · exact h.source shell _
  · exact h.keeps_nextOfExecution _ shell

end Detached

theorem keeps_closeEvents : Keeps face closeEvents := detached_face.keeps_closeEvents

/-- **Nothing is printed while events are awaited.** -/
theorem keeps_nextEvent : Keeps face nextEvent := detached_face.keeps_nextEvent

end Frames

/-! ## Replies -/

/-- The execution has been begun, and its flag can be raised. -/
def IsBegun (shell : Shell) : Prop :=
  (∃ r, shell.source = .execution (.running r)) ∨ ∃ c, shell.source = .execution (.ended c)

/-- **The shell has got these batches** of the stream of the current statement.
    Nothing is said of a statement that has been cancelled. -/
inductive Follows (stream : ResultStream) (yielded : List Batch) (shell : Shell) : Prop where
  | fresh (statement : Text) (c : Cancellation)
      (hs : shell.source = .execution (.fresh statement c))
      (hsubmit : shell.engine.submit shell.session.history statement = .accepted stream)
      (hy : yielded = [])
  | running (r : Running Binary64) (hs : shell.source = .execution (.running r))
      (h : Has stream yielded r)
  | ended (c : Cancellation) (hs : shell.source = .execution (.ended c)) (hf : c.isRaised = true)

/-- **A reply is true**: a batch is the next one of the stream and comes only
    while the flag is down, an outcome is told truly, and the replies end only
    with the flag raised. -/
def Answered (stream : ResultStream) (yielded : List Batch) (before : Shell) :
    Except Exit (Reply Binary64) → Shell → Prop
  | .ok (.event (.batch b)), after =>
    before.source.isRaised = false ∧ after.source.isRaised = false ∧
      yielded ++ [b] <+: stream.batches ∧ Follows stream (yielded ++ [b]) after
  | .ok (.event (.completed outcome)), after => ∃ c, after.source.flag? = some c ∧
      (c.isRaised = false → before.source.isRaised = false) ∧ Told stream yielded outcome c
  | .ok .exhausted, after => after.source.isRaised = true
  | .ok .interrupted, after | .error .interrupted, after => after.IsBegun
  | _, _ => True

theorem isRaised_of_source {shell : Shell} {x : Execution Binary64}
    (hs : shell.source = .execution x) : shell.source.isRaised = x.flag.isRaised := by
  rw [hs]
  rfl

variable {stream : ResultStream} {yielded : List Batch}

/-- What an event of the control brings is a true reply. -/
theorem answered_event {before after : Shell} {r : Running Binary64} {e : Event Binary64}
    (hr : after.source = .execution (.running r))
    (hbefore : r.flag.isRaised = false → before.source.isRaised = false)
    (h : Brings stream yielded r e) : Answered stream yielded before (.ok (.event e)) after := by
  cases e with
  | batch b =>
    obtain ⟨hf, hb, hhas⟩ := h
    exact ⟨hbefore hf, (isRaised_of_source hr).trans hf, hb, .running r hr hhas⟩
  | completed outcome => exact ⟨r.flag, congrArg EventSource.flag? hr, hbefore, h⟩

theorem answered_error {before after : Shell} (h : after.IsBegun) (e : Exit) :
    Answered stream yielded before (.error e) after := by
  cases e with
  | interrupted => exact h
  | _ => trivial

theorem Answered.mono {before before' after : Shell} {ended : Except Exit (Reply Binary64)}
    (h : before'.source.isRaised = false → before.source.isRaised = false)
    (ha : Answered stream yielded before' ended after) :
    Answered stream yielded before ended after := by
  unfold Answered at ha ⊢
  split at ha <;> try exact ha
  · exact ⟨h ha.1, ha.2⟩
  · obtain ⟨c, hc, hl, ht⟩ := ha
    exact ⟨c, hc, fun hf => h (hl hf), ht⟩

/-! ## Attending to the statement -/

section Attending

variable {shell : Shell}

theorem ensures_drain (fuel : Nat) (r : Running Binary64)
    (h : ∃ r, shell.source = .execution (.running r)) :
    Ensures (drain fuel r) shell fun _ after => ∃ r, after.source = .execution (.running r) := by
  induction fuel generalizing r shell with
  | zero => exact h
  | succ fuel ih =>
    unfold drain
    split
    case isTrue => exact h
    case isFalse =>
      rw [ensures_bind, advance, ensures_modifyGet]
      dsimp only
      rw [ensures_bind]
      refine (keeps_signalAll unaware_source _ _).mono ?_
      intro ended after hafter
      cases ended with
      | ok => exact ih _ ⟨_, hafter⟩
      | error e => exact ⟨_, hafter⟩

/-- A running statement that is given up goes on running until it has ended. -/
theorem ensures_closeEvents (h : ∃ r, shell.source = .execution (.running r)) :
    Ensures closeEvents shell fun _ after => ∃ r, after.source = .execution (.running r) := by
  -- What is given up before it has ended is drained, and stays a running one.
  obtain ⟨r, hr⟩ := h
  rw [closeEvents, ensures_bind, ensures_get]
  simp only [hr]
  split
  · exact ⟨r, hr⟩
  · exact ensures_drain _ _ ⟨r, hr⟩

theorem ensures_failCheck (h : ∃ r, shell.source = .execution (.running r)) (c : Crash)
    (before : Shell) : Ensures (failCheck c) shell (Answered stream yielded before) := by
  rw [failCheck, ensures_bind, ensures_modify]
  dsimp only
  rw [ensures_bind]
  refine (ensures_closeEvents (by exact h)).mono ?_
  intro ended after hafter
  cases ended with
  | ok => trivial
  | error e => exact answered_error (.inl hafter) e

/-- A control that rests without having yielded has ended, and not without the
    flag. -/
theorem answered_exhausted {r : Running Binary64} (hr : shell.source = .execution (.running r))
    (hc : r.control ≠ .yielded) (h : Has stream yielded r) (hrest : r.isAtRest = true) :
    Answered stream yielded shell (.ok .exhausted) shell := by
  have hfin : r.control = .finished := by
    unfold Running.isAtRest at hrest
    split at hrest <;> simp_all
  cases hf : r.flag.isRaised with
  | true => exact (isRaised_of_source hr).trans hf
  | false => exact absurd hfin (h.control_ne hf)

/-- **Attending to a running statement** gives a true reply, if that is so behind
    the fuel. -/
theorem ensures_attend (last : Running Binary64 → ShellM (Reply Binary64))
    (hlast : ∀ r later, later.source = .execution (.running r) → r.control ≠ .yielded →
      Has stream yielded r → Ensures (last r) later (Answered stream yielded later))
    (fuel : Nat) {r : Running Binary64} (hr : shell.source = .execution (.running r))
    (hc : r.control ≠ .yielded) (h : Has stream yielded r) :
    Ensures (attend last fuel r) shell (Answered stream yielded shell) := by
  induction fuel generalizing r shell with
  | zero =>
    cases hrest : r.isAtRest with
    | true =>
      rw [attend_of_isAtRest hrest]
      exact answered_exhausted hr hc h hrest
    | false =>
      rw [attend_zero hrest]
      exact hlast r shell hr hc h
  | succ fuel ih =>
    cases hrest : r.isAtRest with
    | true =>
      rw [attend_of_isAtRest hrest]
      exact answered_exhausted hr hc h hrest
    | false =>
      refine ensures_attend_succ hrest (fun c _ => ensures_failCheck ⟨r, hr⟩ c shell) ?_
      intro around r' signals _ hadv
      -- The control makes its next move; the notices on it do not touch the statement.
      obtain ⟨hlow, hnext⟩ := Running.has_advance shell.surroundings h rfl
      rw [hadv] at hlow hnext
      refine (keeps_signalAll unaware_source _ _).mono ?_
      intro told after hafter
      have hr' : after.source = .execution (.running r') := hafter
      have hbefore (hf : r'.flag.isRaised = false) : shell.source.isRaised = false :=
        (isRaised_of_source hr).trans (hlow hf)
      cases told with
      | error e =>
        -- A notice could not be given: the statement is given up, the exit stays.
        dsimp only
        rw [ensures_bind]
        refine (ensures_closeEvents ⟨r', hr'⟩).mono ?_
        intro ended last hlast
        cases ended <;> exact answered_error (.inl hlast) _
      | ok =>
        dsimp only
        split
        case h_1 e he =>
          rw [he] at hnext
          exact answered_event hr' hbefore hnext
        case h_2 he =>
          rw [he] at hnext
          refine (ih hr' (hnext.2 hc) hnext.1).mono ?_
          intro ended last hlast
          refine hlast.mono ?_
          intro hf
          exact hbefore ((isRaised_of_source hr').symm.trans hf)

/-- Nothing untrue is said behind the moves that the surroundings bear. -/
theorem ensures_insist {r : Running Binary64} (hr : shell.source = .execution (.running r))
    (hc : r.control ≠ .yielded) (h : Has stream yielded r) :
    Ensures (insist r) shell (Answered stream yielded shell) := by
  unfold insist
  split
  case isTrue =>
    rw [ensures_bind, ensures_get]
    exact ensures_attend (fun _ => pure .stalled) (fun _ _ _ _ _ => trivial) _ hr hc h
  case isFalse => trivial

theorem ensures_attendAll {r : Running Binary64} {before : Shell}
    (hf : r.flag.isRaised = false → before.source.isRaised = false) (hc : r.control ≠ .yielded)
    (h : Has stream yielded r) :
    Ensures (attendAll r) shell (Answered stream yielded before) := by
  rw [attendAll, ensures_bind, setExecution, ensures_modify]
  dsimp only
  rw [ensures_bind, ensures_get]
  refine (ensures_attend insist (fun _ _ => ensures_insist) _ (by rfl) hc h).mono ?_
  intro ended after hafter
  refine hafter.mono ?_
  exact hf

/-- **Beginning a statement** that the engine takes gives a true reply. -/
theorem ensures_begin {statement : Text} {c : Cancellation}
    (hs : shell.source = .execution (.fresh statement c))
    (hsubmit : shell.engine.submit shell.session.history statement = .accepted stream) :
    Ensures (begin statement c) shell (Answered stream [] shell) := by
  have offered : signal (.offered statement) shell
      = .ok () { shell with console := shell.console.enter (.offered statement) } := rfl
  have begun (surroundings : Surroundings Binary64) :
      Execution.begin (.accepted stream) statement c surroundings
        = (surroundings.tick, .ok (surroundings.begun statement c stream)) := rfl
  rw [begin, ensures_bind, Ensures, offered]
  dsimp only
  rw [ensures_bind, ensures_get]
  dsimp only
  rw [hsubmit, begun, ensures_bind, ensures_set]
  dsimp only
  rw [ensures_bind]
  -- From here on the flag of the statement can be raised.
  refine (keeps_signal unaware_source _ _).mono ?_
  intro ended after hafter
  cases ended with
  | error e => exact answered_error (.inr ⟨c, hafter⟩) e
  | ok =>
    refine ensures_attendAll ?_ ?_ (Running.has_begun shell.surroundings _ c stream)
    · intro hf
      exact (isRaised_of_source hs).trans hf
    · simp [Surroundings.begun]

/-- A reply counts in the same way if an interruption takes its place. -/
theorem ensures_nextOfExecution {x : Execution Binary64} {before : Shell}
    (h : Ensures (replyOf x) shell (Answered stream yielded before)) :
    Ensures (nextOfExecution x) shell (Answered stream yielded before) := by
  unfold nextOfExecution
  rw [ensures_bind, ensures_attempt]
  refine h.mono ?_
  intro ended after hafter
  dsimp only
  split <;> exact hafter

/-- **Every reply about a statement is true.** -/
theorem ensures_nextEvent (h : Follows stream yielded shell) :
    Ensures nextEvent shell (Answered stream yielded shell) := by
  rw [nextEvent, ensures_bind, ensures_get]
  cases h with
  | fresh statement c hs hsubmit hy =>
    simp only [hs]
    exact ensures_nextOfExecution (hy ▸ ensures_begin hs hsubmit)
  | running r hs h =>
    simp only [hs]
    -- Asking for the next event is a move of the consumer, which nobody hears.
    have hquiet : (r.step .resume).2 = [] ∧ (r.step .resume).1.flag = r.flag ∧
        (r.step .resume).1.control ≠ .yielded := by
      cases hc : r.control <;> simp [Running.step, hc]
    obtain ⟨hsig, hflag, hc⟩ := hquiet
    have h' := h.steps [.resume] (by rw [Running.steps_singleton, hsig]; rfl)
    rw [Running.steps_singleton] at h'
    refine ensures_nextOfExecution (ensures_attendAll ?_ hc h')
    intro hf
    rw [hflag] at hf
    exact (isRaised_of_source hs).trans hf
  | ended c hs hf =>
    simp only [hs]
    exact ensures_nextOfExecution ((isRaised_of_source hs).trans hf)

end Attending

end SqlShell.Shell
