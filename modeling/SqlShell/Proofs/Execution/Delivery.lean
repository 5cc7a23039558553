import SqlShell.Proofs.Execution.Pipeline

/-! # Delivery

    The batches of a stream reach the consumer in order, each of them once, and
    the outcome tells truly how the stream has ended.

    * **`Intact`** is the invariant of a statement that nobody has cancelled:
      what has been yielded and what is underway make up the stream.
    * **`Faithful`** is what is left of it in every state: the consumer has got
      a beginning of the stream, and an outcome that accounts for it. -/

namespace SqlShell

variable {τ : Type}

/-- The number of rows in some batches. -/
def rowCount : List Batch → Nat
  | [] => 0
  | b :: bs => b.rows.length + rowCount bs

@[simp] theorem rowCount_nil : rowCount [] = 0 := rfl

@[simp] theorem rowCount_append (bs bs' : List Batch) :
    rowCount (bs ++ bs') = rowCount bs + rowCount bs' := by
  induction bs with
  | nil => simp
  | cons b bs ih =>
    simp only [List.cons_append, rowCount, ih]
    omega

@[simp] theorem rowCount_singleton (b : Batch) : rowCount [b] = b.rows.length := rfl

/-- The verdict on a stream that ends by itself. -/
def Ending.verdict? : Ending → Option Verdict
  | .complete => some .complete
  | .failed e => some (.failed e)
  | .crashed c => some (.crashed c)
  | .cancelled => some .cancelled
  | .blocked => none

/-- **An outcome accounts for a stream** of which the batches `bs` have been
    yielded, under the flag `c`. -/
def Outcome.Accounts (stream : ResultStream) (bs : List Batch) (c : Cancellation) :
    Outcome τ → Prop
  | .success rows _ => stream.ending = .complete ∧ bs = stream.batches ∧ rows = rowCount bs
  | .failure e _ =>
    bs = stream.batches ∧
      (stream.ending = .failed e ∨ ∃ crash, stream.ending = .crashed crash ∧
        e.message = crash.kind.label ++ ": ".toList ++ crash.message ∧ e.stage = .execution)
  | .cancelled reason _ =>
    c.isRaised = true ∧ reason = c.reasonOr interruptReason
      ∨ stream.ending = .cancelled ∧ reason = interruptReason

/-- It still does when the flag is raised later. -/
theorem Outcome.Accounts.raise {stream : ResultStream} {bs : List Batch} {c : Cancellation}
    {outcome : Outcome τ} (h : outcome.Accounts stream bs c) (reason : Text) :
    outcome.Accounts stream bs (c.raise reason) := by
  cases outcome with
  | success | failure => exact h
  | cancelled =>
    rcases h with ⟨hr, h⟩ | h
    · rw [Cancellation.raise_of_isRaised hr]
      exact .inl ⟨hr, h⟩
    · exact .inr h

namespace Running

/-- A verdict is on its way to the control. -/
def Tells (r : Running τ) (v : Verdict) : Prop :=
  r.worker.verdict? = some v ∨ .finished v ∈ r.pipeline

/-! ## A statement that nobody has cancelled -/

/-- **Nothing is lost** of a stream. -/
structure Intact (stream : ResultStream) (past : List (Signal τ)) (r : Running τ) : Prop where
  unstopped : r.stops = 0
  attended : r.control ≠ .draining
  lined : r.control ≠ .finished → Lined r.worker.hasReturned r.pipeline
  /-- What has been yielded and what is underway is the whole stream. -/
  order : yieldedIn past ++ r.underway = stream.batches
  ending : r.stream.ending = stream.ending
  /-- A verdict comes after the last batch and is that of the stream. -/
  honest : ∀ v, r.Tells v → r.stream.batches = [] ∧ stream.ending.verdict? = some v

/-- A flag that is not raised after a move was not raised before it. -/
theorem Transition.lowered {r r' : Running τ} {signals : List (Signal τ)}
    (h : Transition r r' signals) (hf : r'.flag.isRaised = false) : r.flag.isRaised = false := by
  cases h with
  | raise | interrupt | timeout | abandon =>
    exact absurd hf (by simp [Running.abandon, Running.raise])
  | _ => exact hf

/-- Without a stop the worker tells the verdict of the stream. -/
theorem verdict?_of_unstopped {r : Running τ} (h : r.stops = 0) :
    r.verdict? = r.stream.ending.verdict? := by
  unfold verdict? Ending.verdict?
  cases r.stream.ending <;> simp [h]

namespace Intact

/-- Nothing is lost as long as the batches underway, the verdicts and the stream
    stay as they are. -/
theorem of_pipeline {stream : ResultStream} {past signals : List (Signal τ)} {r r' : Running τ}
    (i : Intact stream past r) (hstops : r'.stops = r.stops) (hc : r.control ≠ .finished)
    (hc' : r'.control ≠ .draining) (hw : r'.worker = r.worker) (hp : r'.pipeline = r.pipeline)
    (hs : r'.stream = r.stream) (hy : yieldedIn signals = []) :
    Intact stream (past ++ signals) r' := by
  have hu : r'.underway = r.underway := by rw [underway, underway, hw, hp, hs]
  refine ⟨hstops.trans i.unstopped, hc', ?_, ?_, ?_, ?_⟩
  · intro _
    rw [hw, hp]
    exact i.lined hc
  · rw [hu, yieldedIn_append, hy, List.append_nil]
    exact i.order
  · rw [hs]
    exact i.ending
  · intro v hv
    rw [hs]
    apply i.honest v
    rwa [Tells, hw, hp] at hv

theorem transition {stream : ResultStream} {past : List (Signal τ)} {r r' : Running τ}
    {signals : List (Signal τ)} (h : Transition r r' signals) (hf : r'.flag.isRaised = false)
    (i : Intact stream past r) : Intact stream (past ++ signals) r' := by
  have hlow := h.lowered hf
  have ⟨unstopped, attended, lined, order, ending, honest⟩ := i
  cases h with
  | stay =>
    rw [List.append_nil]
    exact i
  | pull b rest hw hs =>
    refine ⟨unstopped, attended, ?_, ?_, ending, ?_⟩
    · simpa [hw, pipeline, Worker.hasReturned] using lined
    · simpa [hw, hs, underway, pipeline, Worker.inHand] using order
    · -- No verdict is told as long as the engine has batches to give.
      intro v hv
      have hv' : r.Tells v := by simpa [hw, Tells, pipeline, Worker.verdict?] using hv
      exact absurd (honest v hv').1 (by simp [hs])
  | exhaust v hw hs hv =>
    -- Nobody has told the query to stop, so the verdict is that of the stream.
    have hv' : stream.ending.verdict? = some v := by
      rw [← ending, ← verdict?_of_unstopped unstopped, hv]
    refine ⟨unstopped, attended, ?_, ?_, ending, ?_⟩
    · simpa [hw, pipeline, Worker.hasReturned] using lined
    · simpa [hw, hs, underway, pipeline, Worker.inHand] using order
    · intro v' h
      rcases h with h | h
      · have hvv : v = v' := by simpa [Worker.verdict?] using h
        exact ⟨hs, hvv ▸ hv'⟩
      · exact honest v' (.inr h)
  | offer b hw | refuse b hw =>
    -- The batch only changes its place in the hand of the worker.
    obtain ⟨hr, hn⟩ := Worker.of_inHand hw
    rw [hr] at lined
    rw [underway, hw, ← List.append_nil past] at order
    refine ⟨unstopped, attended, lined, order, ending, ?_⟩
    intro v hv
    rcases hv with hv | hv
    · exact absurd hv (by simp [Worker.verdict?])
    · exact honest v (.inr hv)
  | giveUp b hw hr | observe item hc hr | discard b hc hr =>
    -- These moves are made under a raised flag only.
    exact absurd hlow (by simp [hr])
  | put b hw hroom =>
    have hr : r.worker.hasReturned = false := by rw [hw]; rfl
    refine ⟨unstopped, attended, ?_, ?_, ending, ?_⟩
    · intro hc
      rw [hr] at lined
      simpa [pipeline, Worker.hasReturned] using (lined hc).push_batch b
    · simpa [hw, underway, pipeline, Worker.inHand] using order
    · intro v hv
      apply honest v
      simpa [hw, Tells, pipeline, Worker.verdict?] using hv
  | shut v fault hw =>
    refine ⟨unstopped, attended, ?_, ?_, ending, ?_⟩
    · simpa [hw, pipeline, Worker.hasReturned] using lined
    · simpa [hw, underway, pipeline, Worker.inHand] using order
    · intro v hv
      apply honest v
      simpa [hw, Tells, pipeline, Worker.verdict?] using hv
  | report v hw hroom =>
    have hr : r.worker.hasReturned = false := by rw [hw]; rfl
    refine ⟨unstopped, attended, ?_, ?_, ending, ?_⟩
    · intro hc
      rw [hr] at lined
      simpa [pipeline, Worker.hasReturned] using (lined hc).push_finished v
    · simpa [hw, underway, pipeline, Worker.inHand] using order
    · -- The verdict goes from the hand of the worker into the channel.
      intro v' hv
      apply honest v'
      have h : .finished v' ∈ r.pipeline ∨ v' = v := by
        simpa [Tells, pipeline, Worker.verdict?, or_assoc] using hv
      rcases h with h | rfl
      · exact .inr h
      · exact .inl (by simp [hw, Worker.verdict?])
  | swerve batches ending' h => exact absurd h (by omega)
  | raise | interrupt | timeout | abandon =>
    exact absurd hf (by simp [Running.abandon, Running.raise])
  | take item rest hc hch =>
    -- The item goes from the channel into the hand of the control.
    have hp : item :: rest = r.pipeline := by simp [pipeline, hc, hch, Control.inHand]
    exact i.of_pipeline rfl (by simp [hc]) (by simp) rfl hp rfl (by simp [yieldedIn])
  | pause hc | resume hc | again hc =>
    refine i.of_pipeline rfl (by simp [hc]) (by simp) rfl ?_ rfl yieldedIn_nil
    simp [pipeline, hc, Control.inHand]
  | check item hc | pass item hc =>
    -- The control keeps what it has in its hand.
    refine i.of_pipeline rfl (by simp [hc]) (by simp) rfl ?_ rfl yieldedIn_nil
    cases item <;> simp [pipeline, hc, Control.inHand]
  | yield b hc hf =>
    -- The batch leaves the hand of the control and becomes the last one yielded.
    refine ⟨unstopped, by simp, ?_, ?_, ending, ?_⟩
    · intro _
      simpa [hc, pipeline, Control.inHand, Lined] using lined
    · simpa [hc, underway, pipeline, Control.inHand, yieldedIn, Event.batch?] using order
    · intro v hv
      apply honest v
      simpa [hc, Tells, pipeline, Control.inHand] using hv
  | complete v elapsed hc =>
    refine ⟨unstopped, by simp, ?_, ?_, ending, ?_⟩
    · intro h
      exact absurd rfl h
    · simpa [hc, underway, pipeline, Control.inHand, yieldedIn, Event.batch?,
        List.filterMap_cons] using order
    · intro v' hv
      apply honest v'
      rcases hv with hv | hv
      · exact .inl hv
      · have hch : .finished v' ∈ r.channel := by simpa [pipeline, Control.inHand] using hv
        exact .inr (List.mem_append_right _ hch)
  | drain b rest hc | drained v rest hc => exact absurd hc attended

/-- Nobody but a worker that is done ends an execution. -/
theorem answered {stream : ResultStream} {past : List (Signal τ)} {r r' : Running τ}
    {signals : List (Signal τ)} (h : Transition r r' signals) (i : Intact stream past r)
    (ha : r.control = .finished → outcomesIn past ≠ []) :
    r'.control = .finished → outcomesIn (past ++ signals) ≠ [] := by
  cases h with
  | complete v elapsed hc => simp
  | drained v rest hc => exact absurd hc i.attended
  | stay | pull | exhaust | offer | giveUp | put | refuse | shut | report | swerve | raise
  | drain =>
    simpa [Running.raise] using ha
  | _ => simp [Running.abandon]

/-- **With its last item the control has got the whole stream**, and the verdict is
    that of the stream. -/
theorem whole {stream : ResultStream} {past : List (Signal τ)} {r : Running τ} {v : Verdict}
    (i : Intact stream past r) (hc : r.control = .handling (some (.finished v))) :
    yieldedIn past = stream.batches ∧ stream.ending.verdict? = some v := by
  -- The last item comes out of a pipeline that is empty behind it.
  obtain ⟨hb, hv⟩ := i.honest v (.inr (by simp [pipeline, hc, Control.inHand]))
  have hl : r.worker.hasReturned = true ∧ r.channel = [] := by
    simpa [pipeline, hc, Control.inHand, Lined] using i.lined (by simp [hc])
  have hw : r.worker.inHand = [] := by
    revert hl
    cases r.worker <;> simp [Worker.hasReturned, Worker.inHand]
  have hall : yieldedIn past = stream.batches := by
    simpa [underway, pipeline, hc, hl.2, hw, hb, Control.inHand] using i.order
  exact ⟨hall, hv⟩

end Intact

/-! ## Every state -/

/-- **The consumer is told the truth**, whatever has become of the statement. -/
structure Faithful (stream : ResultStream) (past : List (Signal τ)) (r : Running τ) : Prop where
  intact : r.flag.isRaised = false → Intact stream past r
  /-- What has been yielded is a beginning of the stream. -/
  yielded : yieldedIn past <+: stream.batches
  rows : r.rows = rowCount (yieldedIn past)
  /-- The batches come first and the outcome last. -/
  told : eventsIn past = (yieldedIn past).map .batch ++ (outcomesIn past).map .completed
  /-- There is one outcome at the most, and it accounts for the stream. -/
  accounted : outcomesIn past = [] ∨ ∃ outcome : Outcome τ, outcomesIn past = [outcome] ∧
    r.control = .finished ∧ outcome.Accounts stream (yieldedIn past) r.flag
  /-- An execution that nobody has cancelled does not end without an outcome. -/
  answered : r.flag.isRaised = false → r.control = .finished → outcomesIn past ≠ []

/-- The outcome that a verdict leads to accounts for the stream. -/
theorem accounts_outcome {stream : ResultStream} {past : List (Signal τ)} {r : Running τ}
    (f : Faithful stream past r) {v : Verdict} (hc : r.control = .handling (some (.finished v)))
    (elapsed : τ) : (r.outcome v elapsed).Accounts stream (yieldedIn past) r.flag := by
  cases hf : r.flag.isRaised with
  | true => simp [outcome, hf, Outcome.Accounts]
  | false =>
    obtain ⟨hall, hv⟩ := (f.intact hf).whole hc
    have hrows : (r.rows : Int) = rowCount (yieldedIn past) := by rw [f.rows]
    cases he : stream.ending with
    | blocked => simp [he, Ending.verdict?] at hv
    | complete =>
      obtain rfl : .complete = v := by simpa [he, Ending.verdict?] using hv
      simpa [outcome, hf, Outcome.Accounts, he, hall] using hrows
    | failed e =>
      obtain rfl : .failed e = v := by simpa [he, Ending.verdict?] using hv
      simp [outcome, hf, Outcome.Accounts, he, hall]
    | crashed c =>
      obtain rfl : .crashed c = v := by simpa [he, Ending.verdict?] using hv
      simp [outcome, hf, Outcome.Accounts, he, hall, Crash.failure, Crash.describe]
    | cancelled =>
      obtain rfl : .cancelled = v := by simpa [he, Ending.verdict?] using hv
      have hr : r.flag.reason = none := by simpa [Cancellation.isRaised] using hf
      simp [outcome, hf, Outcome.Accounts, he, Cancellation.reasonOr, hr]

namespace Faithful

/-- After the end there is nothing left to tell. -/
theorem outcomesIn_eq_nil {stream : ResultStream} {past : List (Signal τ)} {r : Running τ}
    (f : Faithful stream past r) (h : r.control ≠ .finished) : outcomesIn past = [] := by
  rcases f.accounted with ho | ⟨o, _, hc, _⟩
  · exact ho
  · exact absurd hc h

/-- A batch is yielded as the next one of the stream. -/
theorem yield {stream : ResultStream} {past : List (Signal τ)} {r : Running τ} {b : Batch}
    (f : Faithful stream past r) (hc : r.control = .handling (some (.batch b)))
    (hf : r.flag.isRaised = false) : yieldedIn past ++ [b] <+: stream.batches := by
  refine ⟨batchesIn r.channel ++ r.worker.inHand ++ r.stream.batches, ?_⟩
  rw [← (f.intact hf).order]
  simp [underway, pipeline, hc, Control.inHand]

/-- Nothing changes for the consumer as long as it gets no event. -/
theorem unheard {stream : ResultStream} {past : List (Signal τ)} {r r' : Running τ}
    {signals : List (Signal τ)} (f : Faithful stream past r)
    (hi : r'.flag.isRaised = false → Intact stream (past ++ signals) r')
    (hs : eventsIn signals = []) (hrows : r'.rows = r.rows)
    (hc : r.control = .finished → r'.control = .finished)
    (hf : r'.flag = r.flag ∨ ∃ reason, r'.flag = r.flag.raise reason)
    (ha : r'.flag.isRaised = false → r'.control = .finished → outcomesIn (past ++ signals) ≠ []) :
    Faithful stream (past ++ signals) r' := by
  have hy : yieldedIn (past ++ signals) = yieldedIn past := by simp [yieldedIn, hs]
  have ho : outcomesIn (past ++ signals) = outcomesIn past := by simp [outcomesIn, hs]
  refine ⟨hi, hy ▸ f.yielded, by rw [hrows, hy, f.rows], ?_, ?_, ha⟩
  · rw [hy, ho, eventsIn_append, hs, List.append_nil, f.told]
  · rw [ho, hy]
    rcases f.accounted with h | ⟨outcome, h, hfin, ha⟩
    · exact .inl h
    · refine .inr ⟨outcome, h, hc hfin, ?_⟩
      rcases hf with hf | ⟨reason, hf⟩
      · rwa [hf]
      · rw [hf]
        exact ha.raise reason

theorem transition {stream : ResultStream} {past : List (Signal τ)} {r r' : Running τ}
    {signals : List (Signal τ)} (h : Transition r r' signals) (f : Faithful stream past r) :
    Faithful stream (past ++ signals) r' := by
  have hi (hf : r'.flag.isRaised = false) : Intact stream (past ++ signals) r' :=
    (f.intact (h.lowered hf)).transition h hf
  have ha (hf : r'.flag.isRaised = false) :
      r'.control = .finished → outcomesIn (past ++ signals) ≠ [] :=
    (f.intact (h.lowered hf)).answered h (f.answered (h.lowered hf))
  cases h with
  | yield b hc hf =>
    have ho := f.outcomesIn_eq_nil (by simp [hc])
    have hy : yieldedIn (past ++ [.event (.batch b)]) = yieldedIn past ++ [b] := by simp
    have ho' : outcomesIn (past ++ [.event (.batch b)]) = [] := by simp [ho]
    refine ⟨hi, hy ▸ f.yield hc hf, ?_, ?_, .inl ho', ha⟩
    · simp [hy, f.rows]
    · rw [hy, ho']
      simp [f.told, ho]
  | complete v elapsed hc =>
    have ho := f.outcomesIn_eq_nil (by simp [hc])
    refine ⟨hi, ?_, ?_, ?_, .inr ⟨r.outcome v elapsed, ?_, rfl, ?_⟩, ha⟩
    · rw [yieldedIn_append, yieldedIn_end, List.append_nil]
      exact f.yielded
    · rw [yieldedIn_append, yieldedIn_end, List.append_nil]
      exact f.rows
    · rw [yieldedIn_append, yieldedIn_end, outcomesIn_append, outcomesIn_end, eventsIn_append,
        eventsIn_end, f.told, ho]
      simp
    · rw [outcomesIn_append, outcomesIn_end, ho, List.nil_append]
    · rw [yieldedIn_append, yieldedIn_end, List.append_nil]
      exact accounts_outcome f hc elapsed
  | raise reason => exact f.unheard hi rfl rfl id (.inr ⟨reason, rfl⟩) ha
  | interrupt hc => exact f.unheard hi rfl rfl (by simp [hc]) (.inr ⟨_, rfl⟩) ha
  | timeout item hc => exact f.unheard hi rfl rfl (by simp [hc]) (.inr ⟨_, rfl⟩) ha
  | abandon hc => exact f.unheard hi rfl rfl (by simp [hc]) (.inr ⟨_, rfl⟩) ha
  | take item rest hc => exact f.unheard hi (by simp) rfl (by simp [hc]) (.inl rfl) ha
  | drained v rest hc => exact f.unheard hi (by simp) rfl (fun _ => rfl) (.inl rfl) ha
  | stay | pull | exhaust | offer | giveUp | put | refuse | shut | report | swerve | drain =>
    exact f.unheard hi rfl rfl id (.inl rfl) ha
  | pause hc | check item hc | observe item hc | pass item hc | again hc | discard b hc
  | resume hc =>
    exact f.unheard hi rfl rfl (by simp [hc]) (.inl rfl) ha

end Faithful

/-! ## Runs -/

section Runs

variable (s : Surroundings τ) (statement : Text) (c : Cancellation) (stream : ResultStream)

theorem intact_begun : Intact stream [] (s.begun statement c stream) where
  unstopped := rfl
  attended := by simp [Surroundings.begun]
  lined _ := rfl
  order := by simp [underway, pipeline, Surroundings.begun, Control.inHand, Worker.inHand]
  ending := rfl
  honest v hv := by
    simp [Tells, pipeline, Surroundings.begun, Control.inHand, Worker.verdict?] at hv

theorem faithful_begun : Faithful stream [] (s.begun statement c stream) where
  intact _ := intact_begun s statement c stream
  yielded := List.nil_prefix
  rows := rfl
  told := rfl
  accounted := .inl rfl
  answered _ h := by simp [Surroundings.begun] at h

variable [Timescale τ]

/-- **The consumer is told the truth in every state** that can be reached. -/
theorem faithful_steps (ms : List (Move τ)) :
    Faithful stream ((s.begun statement c stream).steps ms).2
      ((s.begun statement c stream).steps ms).1 :=
  steps_invariant (P := fun r past => Faithful stream past r)
    (faithful_begun s statement c stream) (fun _ _ _ _ t f => f.transition t) ms

/-- **Batches are delivered in order, each of them once.**  In every state that
    can be reached, and as long as nobody cancels, the batches yielded, those on
    their way through the hand of the control, the channel and the hand of the
    worker, and those that the engine has still to give are the stream.  The
    channel keeps to its size, and its last item is put once.

    An execution that is consumed to its end shows a beginning of the stream and
    then one outcome.  Unless it is a cancellation, the outcome comes after the
    whole stream and tells how the stream has ended. -/
theorem batches_delivered_in_order (ms : List (Move τ)) :
    let r₀ := s.begun statement c stream
    let r := (r₀.steps ms).1
    let past := (r₀.steps ms).2
    (r.flag.isRaised = false →
      yieldedIn past ++ batchesIn r.control.inHand ++ batchesIn r.channel ++ r.worker.inHand
        ++ r.stream.batches = stream.batches) ∧
    yieldedIn past <+: stream.batches ∧
    (r.channel.length : Int) ≤ max 1 s.queueSize ∧
    (∃ (bs : List Batch) (v? : Option Verdict),
      r₀.puts ms = bs.map .batch ++ v?.toList.map .finished) ∧
    (r.control = .finished → ¬ r₀.ClosesEarly ms →
      ∃ outcome : Outcome τ,
        eventsIn past = (yieldedIn past).map .batch ++ [.completed outcome] ∧
        outcome.Accounts stream (yieldedIn past) r.flag) := by
  intro r₀ r past
  have f : Faithful stream past r := faithful_steps s statement c stream ms
  refine ⟨?_, f.yielded, ?_, ?_, ?_⟩
  · intro hf
    simpa [underway, pipeline] using (f.intact hf).order
  · have hroom : r.channel.length ≤ r₀.capacity :=
      capacity_steps r₀ ms ▸ (orderly_steps s statement c stream ms).room
    have hcap : (r₀.capacity : Int) = max 1 s.queueSize := Int.toNat_of_nonneg (by omega)
    omega
  · obtain ⟨bs, v?, h, -⟩ := (lined_puts (r := r₀) rfl ms).exists_eq
    exact ⟨bs, v?, h⟩
  · intro hc he
    rcases f.accounted with ho | ⟨outcome, ho, -, ha⟩
    · -- Without an outcome, the consumer must have left.
      exact absurd (closesEarly_of_left rfl ms (.inr ⟨hc, ho⟩)) he
    · exact ⟨outcome, by simpa [ho] using f.told, ha⟩

/-- Two batches without any rows. -/
def twoBatches : ResultStream where
  batches := [⟨[], []⟩, ⟨[], []⟩]
  ending := .complete

/-- The worker brings the next item, and the control deals with it at this time. -/
def bringAt (now : τ) : List (Move τ) :=
  [.work, .work, .work, .take, .checkTime now, .observe, .handle now]

/-- Both batches are consumed, and then the outcome. -/
example (now : τ) :
    let r₀ := ({ reading := fun _ => now } : Surroundings τ).begun [] {} twoBatches
    let r := r₀.steps (bringAt now ++ .resume :: bringAt now ++ .resume :: bringAt now)
    r.1.control = .finished ∧
      eventsIn r.2 = twoBatches.batches.map .batch
        ++ [.completed (.success 0 (Timescale.since now now))] := by
  refine ⟨?_, ?_⟩ <;> cbv

end Runs

end Running

end SqlShell
