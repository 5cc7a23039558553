import SqlShell.Proofs.Execution.Run

/-! # The Pipeline

    Between the worker and the consumer there is a queue of items.  Two
    invariants say how it is used, whoever moves next:

    * **`Orderly`**: the queue holds batches, and the last item once the worker
      has returned; it never grows beyond its room, and it is empty when the
      control has ended.
    * **`StopsOnce`**: the query is told to stop at most once, and only under a
      raised flag. -/

namespace SqlShell

variable {τ : Type}

/-- The verdict that the worker is about to tell. -/
def Worker.verdict? : Worker → Option Verdict
  | .closing v | .reporting v => some v
  | _ => none

/-- A worker with a batch in its hand has not returned and has no verdict. -/
theorem Worker.of_inHand {w : Worker} {b : Batch} (h : w.inHand = [b]) :
    w.hasReturned = false ∧ w.verdict? = none := by
  cases w <;> simp [inHand, hasReturned, verdict?] at h ⊢

/-! ## Lines of items -/

/-- Batches only, and behind them the last item if it has been `told`. -/
def Lined (told : Bool) : List Item → Prop
  | [] => told = false
  | .batch _ :: rest => Lined told rest
  | .finished _ :: rest => told = true ∧ rest = []

namespace Lined

theorem push_batch {items : List Item} (h : Lined false items) (b : Batch) :
    Lined false (items ++ [.batch b]) := by
  induction items with
  | nil => exact h
  | cons item rest ih =>
    cases item with
    | batch _ => exact ih h
    | finished _ => exact absurd h.1 (by simp)

theorem push_finished {items : List Item} (h : Lined false items) (v : Verdict) :
    Lined true (items ++ [.finished v]) := by
  induction items with
  | nil => exact ⟨rfl, rfl⟩
  | cons item rest ih =>
    cases item with
    | batch _ => exact ih h
    | finished _ => exact absurd h.1 (by simp)

/-- A line is some batches and at most one last item, which is in it exactly if
    it has been told. -/
theorem exists_eq {told : Bool} {items : List Item} (h : Lined told items) :
    ∃ (bs : List Batch) (v? : Option Verdict),
      items = bs.map .batch ++ v?.toList.map .finished ∧ v?.isSome = told := by
  induction items with
  | nil => exact ⟨[], none, rfl, h.symm⟩
  | cons item rest ih =>
    cases item with
    | batch b =>
      obtain ⟨bs, v?, rfl, ht⟩ := ih h
      exact ⟨b :: bs, v?, rfl, ht⟩
    | finished v =>
      obtain ⟨rfl, rfl⟩ := h
      exact ⟨[], some v, rfl, rfl⟩

end Lined

namespace Running

/-! ## Order in the pipeline -/

/-- **The pipeline is in order.** -/
structure Orderly (r : Running τ) : Prop where
  /-- Until the control has ended, the items on their way form a line. -/
  lined : r.control ≠ .finished → Lined r.worker.hasReturned r.pipeline
  /-- When it has ended, the worker has returned and nothing is left. -/
  ended : r.control = .finished → r.worker.hasReturned = true ∧ r.channel = []
  /-- The channel is never overfull. -/
  room : r.channel.length ≤ r.capacity

namespace Orderly

/-- A control that moves on, and leaves what is on its way as it is, keeps the
    order. -/
theorem of_pipeline {r r' : Running τ} (o : Orderly r) (hc : r.control ≠ .finished)
    (hc' : r'.control ≠ .finished) (hw : r'.worker = r.worker) (hp : r'.pipeline = r.pipeline)
    (hroom : r'.channel.length ≤ r'.capacity) : Orderly r' := by
  refine ⟨?_, ?_, hroom⟩
  · intro _
    rw [hw, hp]
    exact o.lined hc
  · intro h
    exact absurd h hc'

theorem transition {r r' : Running τ} {signals : List (Signal τ)} (h : Transition r r' signals)
    (o : Orderly r) : Orderly r' := by
  have ⟨lined, ended, room⟩ := o
  cases h with
  | stay => exact o
  | pull b rest hw | exhaust v hw =>
    constructor <;> simp_all [Worker.hasReturned, pipeline]
  | offer b hw | giveUp b hw | refuse b hw =>
    -- The batch stays in the hand of the worker, which has thus not returned.
    have hr := (Worker.of_inHand hw).1
    constructor <;> simp_all [Worker.hasReturned, pipeline]
  | put b hw hroom =>
    have hr : r.worker.hasReturned = false := by rw [hw]; rfl
    rw [hr] at lined ended
    refine ⟨?_, ?_, ?_⟩
    · intro hc
      simpa [pipeline, Worker.hasReturned] using (lined hc).push_batch b
    · intro hc
      exact absurd (ended hc).1 (by simp)
    · simp
      omega
  | shut v fault hw =>
    constructor <;> simp_all [Worker.hasReturned, pipeline]
  | report v hw hroom =>
    have hr : r.worker.hasReturned = false := by rw [hw]; rfl
    rw [hr] at lined ended
    refine ⟨?_, ?_, ?_⟩
    · intro hc
      simpa [pipeline, Worker.hasReturned] using (lined hc).push_finished v
    · intro hc
      exact absurd (ended hc).1 (by simp)
    · simp
      omega
  | swerve | raise => exact ⟨lined, ended, room⟩
  | take item rest hc hch =>
    -- The item goes from the channel into the hand of the control.
    have hlen : r.channel.length = rest.length + 1 := by rw [hch]; rfl
    refine o.of_pipeline (by simp [hc]) (by simp) rfl ?_ ?_
    · simp [pipeline, hc, hch, Control.inHand]
    · dsimp only
      omega
  | pause hc | interrupt hc | resume hc | again hc =>
    refine o.of_pipeline (by simp [hc]) (by simp) rfl ?_ room
    simp [pipeline, hc, Control.inHand, Running.raise]
  | check item hc | timeout item hc | observe item hc | pass item hc =>
    -- The control keeps what it has in its hand, be it an item or nothing.
    refine o.of_pipeline (by simp [hc]) (by simp) rfl ?_ room
    cases item <;> simp [pipeline, hc, Control.inHand, Running.raise]
  | discard b hc | yield b hc =>
    have hl := lined (by simp [hc])
    refine ⟨?_, ?_, room⟩
    · intro _
      simpa [pipeline, hc, Control.inHand, Lined] using hl
    · intro h
      exact absurd h (by simp)
  | complete v elapsed hc =>
    -- The last item of the line is in the hand of the control.
    have hl : r.worker.hasReturned = true ∧ r.channel = [] := by
      simpa [pipeline, hc, Control.inHand, Lined] using lined (by simp [hc])
    refine ⟨?_, ?_, room⟩
    · intro h
      exact absurd rfl h
    · intro _
      exact hl
  | abandon hc =>
    refine o.of_pipeline (by simp [hc]) (by simp [Running.abandon]) rfl ?_ room
    simp [pipeline, hc, Control.inHand, Running.abandon, Running.raise]
  | drain b rest hc hch =>
    have hl := lined (by simp [hc])
    have hlen : r.channel.length = rest.length + 1 := by rw [hch]; rfl
    refine ⟨?_, ?_, ?_⟩
    · intro _
      simpa [pipeline, hc, hch, Control.inHand, Lined] using hl
    · intro h
      exact absurd h (by simp [hc])
    · dsimp only
      omega
  | drained v rest hc hch =>
    have hl : r.worker.hasReturned = true ∧ rest = [] := by
      simpa [pipeline, hc, hch, Control.inHand, Lined] using lined (by simp [hc])
    refine ⟨?_, ?_, ?_⟩
    · intro h
      exact absurd rfl h
    · intro _
      exact hl
    · simp [hl.2]

end Orderly

/-- The channel keeps its capacity. -/
theorem Transition.capacity_eq {r r' : Running τ} {signals : List (Signal τ)}
    (h : Transition r r' signals) : r'.capacity = r.capacity := by
  cases h <;> rfl

/-- So it does in a run. -/
theorem capacity_steps [Timescale τ] (r : Running τ) (ms : List (Move τ)) :
    (r.steps ms).1.capacity = r.capacity :=
  steps_invariant (P := fun r' _ => r'.capacity = r.capacity) rfl
    (fun _ _ _ _ t h => t.capacity_eq.trans h) ms

/-! ## Puts -/

section Puts

variable [Timescale τ]

/-- The items that a move puts into the channel: those by which it grows. -/
def put (r : Running τ) (m : Move τ) : List Item := (r.step m).1.channel.drop r.channel.length

/-- **The items that are put into the channel** in a run. -/
def puts (r : Running τ) : List (Move τ) → List Item
  | [] => []
  | m :: ms => r.put m ++ (r.step m).1.puts ms

theorem puts_append (r : Running τ) (ms ms' : List (Move τ)) :
    r.puts (ms ++ ms') = r.puts ms ++ (r.steps ms).1.puts ms' := by
  induction ms generalizing r with
  | nil => rfl
  | cons m ms ih => simp [puts, steps, ih, List.append_assoc]

end Puts

/-- A line stays a line when the items of a transition are put behind it. -/
theorem Transition.lined {r r' : Running τ} {signals : List (Signal τ)} {items : List Item}
    (h : Transition r r' signals) (hl : Lined r.worker.hasReturned items) :
    Lined r'.worker.hasReturned (items ++ r'.channel.drop r.channel.length) := by
  cases h with
  | put b hw =>
    have hr : r.worker.hasReturned = false := by rw [hw]; rfl
    simpa [Worker.hasReturned] using (hr ▸ hl).push_batch b
  | report v hw =>
    have hr : r.worker.hasReturned = false := by rw [hw]; rfl
    simpa [Worker.hasReturned] using (hr ▸ hl).push_finished v
  | pull b rest hw | exhaust v hw | shut v fault hw => simpa [hw, Worker.hasReturned] using hl
  | offer b hw | giveUp b hw | refuse b hw =>
    rw [(Worker.of_inHand hw).1] at hl
    simpa [Worker.hasReturned] using hl
  | take item rest hc hch | drain b rest hc hch | drained v rest hc hch =>
    -- The channel gets shorter, so nothing has been put into it.
    have hd : rest.drop (rest.length + 1) = [] := List.drop_eq_nil_of_le (Nat.le_succ _)
    simpa [hch, hd] using hl
  | _ => simpa [Running.abandon, Running.raise] using hl

/-- **The last item is put once, and nothing behind it.** -/
theorem lined_puts [Timescale τ] {r : Running τ} (hw : r.worker = .pulling) (ms : List (Move τ)) :
    Lined (r.steps ms).1.worker.hasReturned (r.puts ms) := by
  -- Taken items leave the channel but stay among the puts: the line of all puts is kept.
  refine steps_induction (P := fun ms r' _ => Lined r'.worker.hasReturned (r.puts ms)) ?_ ?_ ms
  · simp [hw, puts, Worker.hasReturned, Lined]
  · intro ms m h
    have t := (r.steps ms).1.step_transition m
    rw [puts_append]
    simpa [puts, put] using t.lined h

/-! ## Stops -/

/-- **The query is told to stop at most once**, and not without cause. -/
structure StopsOnce (r : Running τ) : Prop where
  /-- Only a statement that has been cancelled is stopped. -/
  raised : 0 < r.stops → r.flag.isRaised = true
  once : r.stops ≤ 1
  /-- Nobody has told the query to stop before the control sees the flag raised
      or gives the statement up. -/
  unseen : r.observed = false → r.control ≠ .draining → r.control ≠ .finished → r.stops = 0
  seen : r.observed = true → r.stops = 1
  left : r.control = .draining → r.stops = 1

namespace StopsOnce

theorem transition {r r' : Running τ} {signals : List (Signal τ)} (h : Transition r r' signals)
    (s : StopsOnce r) : StopsOnce r' := by
  obtain ⟨raised, once, unseen, seen, left⟩ := s
  cases h with
  | stay | pull | exhaust | offer | giveUp | put | refuse | shut | report | swerve =>
    exact ⟨raised, once, unseen, seen, left⟩
  | raise reason => exact ⟨fun _ => Cancellation.isRaised_raise _ _, once, unseen, seen, left⟩
  | interrupt hc | timeout item hc =>
    refine ⟨?_, once, ?_, seen, ?_⟩
    · intro _
      exact Cancellation.isRaised_raise _ _
    · intro ho _ _
      exact unseen ho (by simp [hc]) (by simp [hc])
    · intro h
      exact absurd h (by simp)
  | take item rest hc | pause hc | check item hc | pass item hc | again hc | discard b hc
  | yield b hc | complete v elapsed hc | resume hc =>
    refine ⟨raised, once, ?_, seen, ?_⟩
    · intro ho _ _
      exact unseen ho (by simp [hc]) (by simp [hc])
    · intro h
      exact absurd h (by simp)
  | observe item hc hf ho =>
    -- The control has not seen the flag before, so this stop is the first.
    have h0 : r.stops = 0 := unseen ho (by simp [hc]) (by simp [hc])
    refine ⟨?_, ?_, ?_, ?_, ?_⟩
    · intro _
      exact hf
    · simp [h0]
    · intro h
      exact absurd h (by simp)
    · intro _
      simp [h0]
    · intro h
      exact absurd h (by simp)
  | abandon hc =>
    -- The query is told to stop here unless the control has seen the flag before.
    have h1 : r.abandon.stops = 1 := by
      cases ho : r.observed with
      | true => simpa [Running.abandon, Running.raise, ho] using seen ho
      | false =>
        simpa [Running.abandon, Running.raise, ho] using unseen ho (by simp [hc]) (by simp [hc])
    refine ⟨?_, by omega, ?_, ?_, ?_⟩
    · intro _
      exact Cancellation.isRaised_raise _ _
    · intro _ h
      exact absurd rfl h
    · intro _
      exact h1
    · intro _
      exact h1
  | drain b rest hc => exact ⟨raised, once, unseen, seen, left⟩
  | drained v rest hc =>
    refine ⟨raised, once, ?_, seen, ?_⟩
    · intro _ _ h
      exact absurd rfl h
    · intro h
      exact absurd h (by simp)

end StopsOnce

section Runs

variable [Timescale τ] (s : Surroundings τ) (statement : Text) (c : Cancellation)
  (stream : ResultStream)

theorem orderly_steps (ms : List (Move τ)) :
    Orderly ((s.begun statement c stream).steps ms).1 := by
  refine steps_invariant (P := fun r _ => Orderly r) ?_ ?_ ms
  · refine ⟨?_, ?_, Nat.zero_le _⟩
    · intro _
      rfl
    · intro h
      exact absurd h (by simp [Surroundings.begun])
  · intro r past r' signals h o
    exact o.transition h

theorem stopsOnce_steps (ms : List (Move τ)) :
    StopsOnce ((s.begun statement c stream).steps ms).1 := by
  refine steps_invariant (P := fun r _ => StopsOnce r) ?_ ?_ ms
  · constructor <;> simp [Surroundings.begun]
  · intro r past r' signals h o
    exact o.transition h

end Runs

/-- The query is not told to stop less often than before. -/
theorem Transition.stops_le {r r' : Running τ} {signals : List (Signal τ)}
    (h : Transition r r' signals) : r.stops ≤ r'.stops := by
  cases h with
  | observe => exact Nat.le_succ _
  | abandon =>
    by_cases ho : r.observed = true <;> simp [Running.abandon, Running.raise, ho]
  | _ => exact Nat.le_refl _

end Running

end SqlShell
