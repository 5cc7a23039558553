import SqlShell.Proofs.Execution.Pipeline

/-! # Progress of the Worker

    No party waits in vain.  A control that waits for an item finds one, or the
    worker brings one by itself, or the engine is blocked and has not been told
    to stop yet.  When the control has ended, the worker has returned, the
    stream is closed and the channel is empty.  How the closing of the stream
    turns out makes no difference to any of this. -/

namespace SqlShell

variable {τ : Type}

/-- The steps that a worker needs for an item if the channel is empty and the
    engine does not keep it. -/
def Worker.stepsLeft : Worker → Nat
  | .pulling => 4
  | .holding _ | .refused _ => 3
  | .closing _ => 2
  | .putting _ | .reporting _ => 1
  | .returned => 0

theorem Worker.stepsLeft_le (w : Worker) : w.stepsLeft ≤ Running.stepsToItem := by
  cases w <;> simp [stepsLeft, Running.stepsToItem]

/-- The worker is done with the stream. -/
def Worker.hasShut : Worker → Bool
  | .reporting _ | .returned => true
  | _ => false

/-- The same move, with the stream letting itself be closed. -/
def Move.unbroken : Move τ → Move τ
  | .workBreaking _ => .work
  | m => m

namespace Running

/-! ## The worker brings an item -/

/-- **The engine is blocked**: the worker asks for a batch, and there is none
    until the query is told to stop. -/
def IsBlocked (r : Running τ) : Prop :=
  r.worker = .pulling ∧ r.stream.batches = [] ∧ r.stream.ending = .blocked

/-- Only a blocked engine that has not been told to stop gives no verdict. -/
theorem blocked_of_verdict? {r : Running τ} (h : r.verdict? = none) :
    r.stream.ending = .blocked ∧ r.stops = 0 := by
  revert h
  unfold verdict?
  cases r.stream.ending <;> simp

theorem workAhead_of_channel {r : Running τ} (h : r.channel ≠ []) (n : Nat) :
    workAhead n r = r := by
  cases n with
  | zero => rfl
  | succ n => simp [workAhead, h]

/-- A step at an empty channel brings an item or brings it nearer. -/
theorem work_nearer {r : Running τ} (hcap : 0 < r.capacity) (hch : r.channel = [])
    (hw : r.worker ≠ .returned) (hb : ¬ (r.IsBlocked ∧ r.stops = 0)) :
    r.work.channel ≠ [] ∨
      r.work.worker.stepsLeft < r.worker.stepsLeft ∧ r.work.worker ≠ .pulling
        ∧ r.work.worker ≠ .returned := by
  have hroom : r.hasRoom = true := by simp [hasRoom, hch, hcap]
  cases hwk : r.worker with
  | pulling =>
    cases hs : r.stream.batches with
    | cons b rest => simp [work, hwk, hs, Worker.stepsLeft]
    | nil =>
      -- The stream is exhausted: the engine gives a verdict unless it is blocked.
      cases hv : r.verdict? with
      | none =>
        obtain ⟨he, h0⟩ := blocked_of_verdict? hv
        exact absurd ⟨⟨hwk, hs, he⟩, h0⟩ hb
      | some v => simp [work, hwk, hs, hv, Worker.stepsLeft]
  | holding b | refused b =>
    right
    cases hf : r.flag.isRaised <;> simp [work, hwk, hf, Worker.stepsLeft]
  | putting b => simp [work, hwk, hroom]
  | closing v => simp [work, hwk, Worker.stepsLeft]
  | reporting v => simp [work, hwk, hroom]
  | returned => exact absurd hwk hw

/-- **A worker that is not kept by the engine brings an item** in a few steps. -/
theorem workAhead_channel {r : Running τ} {n : Nat} (hcap : 0 < r.capacity)
    (hw : r.worker ≠ .returned) (hb : ¬ (r.IsBlocked ∧ r.stops = 0)) (hn : r.worker.stepsLeft ≤ n) :
    (workAhead n r).channel ≠ [] := by
  -- On the steps that the worker is given; each of them brings the item nearer.
  induction n generalizing r with
  | zero =>
    revert hn hw
    cases r.worker <;> simp [Worker.stepsLeft]
  | succ n ih =>
    by_cases hch : r.channel = []
    · have hstep : workAhead (n + 1) r = workAhead n r.work := by simp [workAhead, hch]
      rw [hstep]
      rcases work_nearer hcap hch hw hb with h | ⟨hless, hp, hr⟩
      · rwa [workAhead_of_channel h]
      · -- The worker is past the stream now, so the engine cannot keep it any more.
        have hcap' : 0 < r.work.capacity := by rw [r.work_transition.capacity_eq]; exact hcap
        have hb' : ¬ (r.work.IsBlocked ∧ r.work.stops = 0) := by
          intro h
          exact hp h.1.1
        exact ih hcap' hr hb' (by omega)
    · rwa [workAhead_of_channel hch]

/-! ## The end of the worker -/

/-- The stream is closed before the worker tells how its work has ended. -/
theorem Transition.closed_eq {stream : ResultStream} {r r' : Running τ} {signals : List (Signal τ)}
    (h : Transition r r' signals)
    (hr : r.stream.closable = stream.closable ∧
      (r.worker.hasShut = true → r.closed = stream.closable)) :
    r'.stream.closable = stream.closable ∧
      (r'.worker.hasShut = true → r'.closed = stream.closable) := by
  obtain ⟨hs, hc⟩ := hr
  cases h with
  | shut v fault hw => exact ⟨hs, fun _ => hs⟩
  | report v hw => exact ⟨hs, fun _ => hc (by rw [hw]; rfl)⟩
  | pull | exhaust | offer | giveUp | put | refuse =>
    exact ⟨hs, fun h => absurd h (by simp [Worker.hasShut])⟩
  | _ => exact ⟨hs, hc⟩

/-! ## Closing faults -/

/-- The state with another note on the closing of the stream. -/
def withFault (x : Option Crash) (r : Running τ) : Running τ := { r with closeFault := x }

theorem work_withFault (x : Option Crash) (r : Running τ) :
    (r.withFault x).work = r.work.withFault x := by
  have hv : (r.withFault x).verdict? = r.verdict? := rfl
  have hr : (r.withFault x).hasRoom = r.hasRoom := rfl
  unfold work
  rw [hv, hr]
  -- Neither the verdict nor the room depends on the note, so the states can be compared.
  obtain ⟨_, _, _, _, _, ⟨batches, _, _⟩, worker, _, _, _, _, _, _, _⟩ := r
  cases worker with
  | pulling =>
    cases batches with
    | cons b rest => rfl
    | nil =>
      dsimp only [withFault]
      split <;> rfl
  | putting b =>
    dsimp only [withFault]
    split <;> rfl
  | reporting v =>
    dsimp only [withFault]
    split <;> rfl
  | _ => rfl

/-- **The closing of the stream changes nothing but the note on it.** -/
theorem step_withFault [Timescale τ] (x : Option Crash) (r : Running τ) (m : Move τ) :
    ∃ y, (r.withFault x).step m.unbroken = ((r.step m).1.withFault y, (r.step m).2) := by
  refine ⟨x, ?_⟩
  cases m with
  | work => simp only [Move.unbroken, step, work_withFault]
  | workBreaking c =>
    simp only [Move.unbroken, step, work_withFault, workBreaking]
    split <;> rfl
  | swerve batches ending =>
    simp only [Move.unbroken, step, swerve]
    by_cases h : 0 < r.stops <;> simp [withFault, h]
  | cancel reason => rfl
  | take =>
    obtain ⟨_, _, _, _, _, _, _, channel, control, _, _, _, _, _⟩ := r
    cases channel with
    | nil => cases control <;> rfl
    | cons item rest => cases item <;> cases control <;> rfl
  | checkTime now =>
    have ho : (r.withFault x).isOverdue now = r.isOverdue now := rfl
    simp only [Move.unbroken, step, ho]
    obtain ⟨_, _, _, _, _, _, _, _, control, _, _, _, _, _⟩ := r
    cases control <;> try rfl
    case timing item =>
      dsimp only [withFault]
      split <;> rfl
  | observe =>
    obtain ⟨_, _, _, _, flag, _, _, _, control, _, observed, _, _, _⟩ := r
    cases control <;> try rfl
    case observing item =>
      cases hf : flag.isRaised <;> cases observed <;> simp [Move.unbroken, step, withFault, hf]
  | handle now =>
    obtain ⟨_, _, _, _, flag, _, _, _, control, _, _, _, _, _⟩ := r
    cases control <;> try rfl
    case handling item =>
      cases item with
      | none => rfl
      | some item =>
        cases item with
        | finished v => rfl
        | batch b => cases hf : flag.isRaised <;> simp [Move.unbroken, step, handle, withFault, hf]
  | _ =>
    obtain ⟨_, _, _, _, _, _, _, _, control, _, _, _, _, _⟩ := r
    cases control <;> rfl

/-- **A stream that breaks down over being closed** gives the same signals. -/
theorem signals_unbroken [Timescale τ] (r : Running τ) (ms : List (Move τ)) :
    (r.steps (ms.map Move.unbroken)).2 = (r.steps ms).2 := by
  -- The notes of the two runs may differ from the first closing on.
  have h (x : Option Crash) :
      ((r.withFault x).steps (ms.map Move.unbroken)).2 = (r.steps ms).2 := by
    induction ms generalizing r x with
    | nil => rfl
    | cons m ms ih =>
      obtain ⟨y, hy⟩ := r.step_withFault x m
      simp only [List.map_cons, steps, hy]
      rw [ih]
  exact h r.closeFault

/-- A control that waits at an empty channel waits for a worker at work. -/
theorem worker_of_isWaiting {r : Running τ} (o : Orderly r) (hw : r.isWaiting = true)
    (hch : r.channel = []) : r.worker ≠ .returned := by
  intro hr
  have hc : r.control ≠ .finished ∧ r.control.inHand = [] := by
    revert hw
    unfold isWaiting
    cases r.control <;> simp [Control.inHand]
  -- Otherwise the last item would have been put, and nobody has taken it.
  have hl := o.lined hc.1
  simp [pipeline, hc.2, hch, hr, Worker.hasReturned, Lined] at hl

section Runs

variable [Timescale τ] (s : Surroundings τ) (statement : Text) (c : Cancellation)
  (stream : ResultStream)

/-- The stream has been closed when the worker is done with it. -/
theorem closed_steps (ms : List (Move τ)) :
    let r := ((s.begun statement c stream).steps ms).1
    r.worker.hasShut = true → r.closed = stream.closable :=
  (steps_invariant (P := fun r _ => r.stream.closable = stream.closable ∧
      (r.worker.hasShut = true → r.closed = stream.closable))
    ⟨rfl, fun h => absurd h (by simp [Surroundings.begun, Worker.hasShut])⟩
    (fun _ _ _ _ t h => t.closed_eq h) ms).2

/-- A control that waits under a raised flag tells the query to stop when it has
    gone round once, if it has not been told yet. -/
theorem stops_of_waiting {r : Running τ} (once : StopsOnce r) (hw : r.isWaiting = true)
    (hf : r.flag.isRaised = true) (h0 : r.stops = 0) (now : τ) :
    (r.steps [.empty, .checkTime now, .observe]).1.stops = 1 := by
  -- A control that is draining has told the query already, so this one is not.
  have hc : r.control = .waiting := by
    have hd : r.control ≠ .draining := fun h => absurd (once.left h) (by omega)
    revert hw hd
    unfold isWaiting
    cases r.control <;> simp
  have ho : r.observed = false := by
    cases h : r.observed with
    | false => rfl
    | true => exact absurd (once.seen h) (by omega)
  have hlate (r' : Running τ) (hr : r'.flag.isRaised = true) : r'.isOverdue now = false := by
    unfold isOverdue
    cases r'.limit <;> simp [hr]
  simp [steps, step, received, hc, hf, ho, h0, hlate]

/-- **No worker is leaked and nobody is stuck.**  In every state that can be
    reached:

    - if the control has ended, the worker has returned, the stream has been
      closed if that is possible, and the channel is empty;
    - if the control waits, there is an item in the channel, or the worker brings
      one in a few steps, or the engine is blocked and has not been told to stop:
      nobody has cancelled the statement, or the control tells the query to stop
      in its next three moves.

    A stream that breaks down over being closed gives the same signals as one
    that lets itself be closed. -/
theorem nobody_stuck (ms : List (Move τ)) :
    let r₀ := s.begun statement c stream
    let r := (r₀.steps ms).1
    (r.control = .finished →
      r.worker = .returned ∧ r.closed = stream.closable ∧ r.channel = []) ∧
    (r.isWaiting = true →
      r.channel ≠ [] ∨ (workAhead stepsToItem r).channel ≠ [] ∨
        r.IsBlocked ∧ r.stops = 0 ∧
          (r.flag.isRaised = false ∨
            ∀ now, (r.steps [.empty, .checkTime now, .observe]).1.stops = 1)) ∧
    (r₀.steps (ms.map Move.unbroken)).2 = (r₀.steps ms).2 := by
  intro r₀ r
  have o : Orderly r := orderly_steps s statement c stream ms
  refine ⟨?_, ?_, signals_unbroken r₀ ms⟩
  · intro hc
    obtain ⟨hr, hch⟩ := o.ended hc
    have hret : r.worker = .returned := by
      revert hr
      cases r.worker <;> simp [Worker.hasReturned]
    exact ⟨hret, closed_steps s statement c stream ms (by rw [hret]; rfl), hch⟩
  · intro hw
    -- First the channel, then the worker, and what is left is a blocked engine.
    by_cases hch : r.channel = []
    case neg => exact .inl hch
    right
    by_cases hb : r.IsBlocked ∧ r.stops = 0
    case neg =>
      left
      have hcap : 0 < r.capacity := by
        rw [capacity_steps]
        simp only [r₀, Surroundings.begun, Surroundings.capacity]
        omega
      exact workAhead_channel hcap (worker_of_isWaiting o hw hch) hb (Worker.stepsLeft_le _)
    right
    refine ⟨hb.1, hb.2, ?_⟩
    cases hf : r.flag.isRaised with
    | false => exact .inl rfl
    | true =>
      have once : StopsOnce r := stopsOnce_steps s statement c stream ms
      exact .inr (stops_of_waiting once hw hf hb.2)

/-- Under a raised flag the control tells an engine to stop that gives nothing, the
    worker closes the stream, and both come to their end. -/
example (now : τ) :
    let stream : ResultStream := { batches := [], ending := .blocked }
    let r₀ := ({ reading := fun _ => now } : Surroundings τ).begun [] {} stream
    let r := (r₀.steps [.work, .empty, .cancel ['a'], .checkTime now, .observe, .handle now,
      .work, .work, .work, .take, .checkTime now, .observe, .handle now]).1
    r.control = .finished ∧ r.stops = 1 ∧ r.worker = .returned ∧ r.closed = true := by
  refine ⟨?_, ?_, ?_, ?_⟩ <;> cbv

end Runs

end Running

end SqlShell
