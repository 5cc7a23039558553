import Mathlib.Data.List.Induction
import SqlShell.Execution.Execution

/-! # Runs of a Statement

    What can be said of a running statement whatever its parties do:

    * **Views**: the events that a run shows, the batches among them, and the
      items and batches that are still on their way in a state.
    * **Transitions**: all that a single move can change, case by case.  Every
      invariant of an execution is derived from these cases.
    * **Induction over a run**, which is a list of moves. -/

namespace SqlShell

variable {τ : Type}

/-! ## Views -/

/-- The batch that an event hands over. -/
def Event.batch? : Event τ → Option Batch
  | .batch b => some b
  | .completed _ => none

/-- The outcome that an event tells. -/
def Event.outcome? : Event τ → Option (Outcome τ)
  | .batch _ => none
  | .completed outcome => some outcome

/-- The event that a signal is, if it is one. -/
def Signal.event? : Signal τ → Option (Event τ)
  | .event e => some e
  | _ => none

/-- **The events** among some signals. -/
def eventsIn (signals : List (Signal τ)) : List (Event τ) := signals.filterMap Signal.event?

/-- The batches that are handed over by some signals. -/
def yieldedIn (signals : List (Signal τ)) : List Batch := (eventsIn signals).filterMap Event.batch?

/-- The outcomes that are told by some signals. -/
def outcomesIn (signals : List (Signal τ)) : List (Outcome τ) :=
  (eventsIn signals).filterMap Event.outcome?

@[simp] theorem eventsIn_nil : eventsIn ([] : List (Signal τ)) = [] := rfl

@[simp] theorem eventsIn_append (l l' : List (Signal τ)) :
    eventsIn (l ++ l') = eventsIn l ++ eventsIn l' := List.filterMap_append

@[simp] theorem yieldedIn_nil : yieldedIn ([] : List (Signal τ)) = [] := rfl

@[simp] theorem yieldedIn_append (l l' : List (Signal τ)) :
    yieldedIn (l ++ l') = yieldedIn l ++ yieldedIn l' := by
  simp [yieldedIn]

@[simp] theorem outcomesIn_nil : outcomesIn ([] : List (Signal τ)) = [] := rfl

@[simp] theorem outcomesIn_append (l l' : List (Signal τ)) :
    outcomesIn (l ++ l') = outcomesIn l ++ outcomesIn l' := by
  simp [outcomesIn]

/-- The batch in an item. -/
def Item.batch? : Item → Option Batch
  | .batch b => some b
  | .finished _ => none

/-- The batches among some items. -/
def batchesIn (items : List Item) : List Batch := items.filterMap Item.batch?

@[simp] theorem batchesIn_nil : batchesIn [] = [] := rfl

@[simp] theorem batchesIn_batch (b : Batch) (items : List Item) :
    batchesIn (.batch b :: items) = b :: batchesIn items := rfl

@[simp] theorem batchesIn_finished (v : Verdict) (items : List Item) :
    batchesIn (.finished v :: items) = batchesIn items := rfl

@[simp] theorem batchesIn_append (items items' : List Item) :
    batchesIn (items ++ items') = batchesIn items ++ batchesIn items' := List.filterMap_append

/-- The batch in the hand of the worker. -/
def Worker.inHand : Worker → List Batch
  | .holding b | .putting b | .refused b => [b]
  | _ => []

/-- The worker has returned. -/
def Worker.hasReturned : Worker → Bool
  | .returned => true
  | _ => false

/-- The item in the hand of the control. -/
def Control.inHand : Control → List Item
  | .timing (some item) | .observing (some item) | .handling (some item) => [item]
  | _ => []

/-! ## The events of single signals -/

@[simp] theorem eventsIn_event (e : Event τ) (l : List (Signal τ)) :
    eventsIn (.event e :: l) = e :: eventsIn l := rfl

@[simp] theorem eventsIn_closed (report : QueryReport) (l : List (Signal τ)) :
    eventsIn (.closed report :: l) = eventsIn l := rfl

@[simp] theorem yieldedIn_batch (b : Batch) :
    yieldedIn [(.event (.batch b) : Signal τ)] = [b] := rfl

@[simp] theorem outcomesIn_batch (b : Batch) :
    outcomesIn [(.event (.batch b) : Signal τ)] = [] := rfl

@[simp] theorem yieldedIn_completed (outcome : Outcome τ) :
    yieldedIn [.event (.completed outcome)] = [] := rfl

@[simp] theorem outcomesIn_completed (outcome : Outcome τ) :
    outcomesIn [.event (.completed outcome)] = [outcome] := rfl

@[simp] theorem eventsIn_cancelling (reason : Text) (l : List (Signal τ)) :
    eventsIn (.cancelling reason :: l) = eventsIn l := rfl

@[simp] theorem eventsIn_item (item : Item) :
    eventsIn (Running.Item.signals item : List (Signal τ)) = [] := by
  unfold Running.Item.signals
  split <;> rfl

@[simp] theorem eventsIn_outcome (rows : Nat) (outcome : Outcome τ) :
    eventsIn (Running.Outcome.signals rows outcome) = [] := by
  cases outcome <;> rfl

/-- The signals of an end tell one outcome and nothing else. -/
@[simp] theorem eventsIn_end (report : QueryReport) (rows : Nat) (outcome : Outcome τ) :
    eventsIn (.closed report :: (Running.Outcome.signals rows outcome
      ++ [.event (.completed outcome)])) = [.completed outcome] := by
  simp

@[simp] theorem yieldedIn_end (report : QueryReport) (rows : Nat) (outcome : Outcome τ) :
    yieldedIn (.closed report :: (Running.Outcome.signals rows outcome
      ++ [.event (.completed outcome)])) = [] := by
  rw [yieldedIn, eventsIn_end]; rfl

@[simp] theorem outcomesIn_end (report : QueryReport) (rows : Nat) (outcome : Outcome τ) :
    outcomesIn (.closed report :: (Running.Outcome.signals rows outcome
      ++ [.event (.completed outcome)])) = [outcome] := by
  rw [outcomesIn, eventsIn_end]; rfl

namespace Running

/-- The items on their way from the worker to the consumer, the next one in
    front: first the one in the hand of the control. -/
def pipeline (r : Running τ) : List Item := r.control.inHand ++ r.channel

/-- **The batches still on their way**: those in the pipeline, the one in the
    hand of the worker, and those that the engine has still to give. -/
def underway (r : Running τ) : List Batch :=
  batchesIn r.pipeline ++ r.worker.inHand ++ r.stream.batches

/-! ## Transitions -/

/-- **What one move can change**, with the signals that it gives. -/
inductive Transition (r : Running τ) : Running τ → List (Signal τ) → Prop where
  /-- The move does not fit where its party stands. -/
  | stay : Transition r r []
  -- The worker.
  | pull (b : Batch) (rest : List Batch) (hw : r.worker = .pulling)
      (hs : r.stream.batches = b :: rest) :
      Transition r
        { r with worker := .holding b, stream := { r.stream with batches := rest } } []
  | exhaust (v : Verdict) (hw : r.worker = .pulling) (hs : r.stream.batches = [])
      (hv : r.verdict? = some v) : Transition r { r with worker := .closing v } []
  | offer (b : Batch) (hw : r.worker.inHand = [b]) (hf : r.flag.isRaised = false) :
      Transition r { r with worker := .putting b } []
  | giveUp (b : Batch) (hw : r.worker.inHand = [b]) (hf : r.flag.isRaised = true) :
      Transition r { r with worker := .closing .cancelled } []
  | put (b : Batch) (hw : r.worker = .putting b) (hroom : r.channel.length < r.capacity) :
      Transition r { r with channel := r.channel ++ [.batch b], worker := .pulling } []
  | refuse (b : Batch) (hw : r.worker.inHand = [b]) :
      Transition r { r with worker := .refused b } []
  | shut (v : Verdict) (fault : Option Crash) (hw : r.worker = .closing v) :
      Transition r
        { r with closed := r.stream.closable, worker := .reporting v, closeFault := fault } []
  | report (v : Verdict) (hw : r.worker = .reporting v)
      (hroom : r.channel.length < r.capacity) :
      Transition r { r with channel := r.channel ++ [.finished v], worker := .returned } []
  -- The engine and the flag.
  | swerve (batches : List Batch) (ending : Ending) (h : 0 < r.stops) :
      Transition r { r with stream := { r.stream with batches, ending } } []
  | raise (reason : Text) : Transition r (r.raise reason) []
  -- The control.
  | take (item : Item) (rest : List Item) (hc : r.control = .waiting)
      (hch : r.channel = item :: rest) :
      Transition r { r with channel := rest, control := .timing (some item) }
        (Item.signals item)
  | pause (hc : r.control = .waiting) : Transition r { r with control := .timing none } []
  | interrupt (hc : r.control = .waiting) :
      Transition r { r.raise interruptReason with control := .timing none } []
  | check (item : Option Item) (hc : r.control = .timing item) :
      Transition r { r with control := .observing item } []
  | timeout (item : Option Item) (hc : r.control = .timing item) :
      Transition r { r.raise timeoutReason with control := .observing item } []
  | observe (item : Option Item) (hc : r.control = .observing item)
      (hf : r.flag.isRaised = true) (ho : r.observed = false) :
      Transition r
        { r with control := .handling item, observed := true, stops := r.stops + 1 }
        [.cancelling (r.flag.reason.getD [])]
  | pass (item : Option Item) (hc : r.control = .observing item) :
      Transition r { r with control := .handling item } []
  | again (hc : r.control = .handling none) : Transition r { r with control := .waiting } []
  | discard (b : Batch) (hc : r.control = .handling (some (.batch b)))
      (hf : r.flag.isRaised = true) : Transition r { r with control := .waiting } []
  | yield (b : Batch) (hc : r.control = .handling (some (.batch b)))
      (hf : r.flag.isRaised = false) :
      Transition r { r with control := .yielded, rows := r.rows + b.rows.length }
        [.event (.batch b)]
  | complete (v : Verdict) (elapsed : τ) (hc : r.control = .handling (some (.finished v))) :
      Transition r { r with control := .finished }
        (.closed r.report :: (Outcome.signals r.rows (r.outcome v elapsed)
          ++ [.event (.completed (r.outcome v elapsed))]))
  | resume (hc : r.control = .yielded) : Transition r { r with control := .waiting } []
  | abandon (hc : r.control = .yielded) : Transition r r.abandon []
  | drain (b : Batch) (rest : List Item) (hc : r.control = .draining)
      (hch : r.channel = .batch b :: rest) : Transition r { r with channel := rest } []
  | drained (v : Verdict) (rest : List Item) (hc : r.control = .draining)
      (hch : r.channel = .finished v :: rest) :
      Transition r { r with channel := rest, control := .finished }
        (Item.signals (.finished v) ++ [.closed r.report])

/-- A statement keeps its time limit. -/
theorem Transition.limit_eq {r r' : Running τ} {signals : List (Signal τ)}
    (h : Transition r r' signals) : r'.limit = r.limit := by
  cases h <;> rfl

/-- It keeps the time at which it was begun. -/
theorem Transition.start_eq {r r' : Running τ} {signals : List (Signal τ)}
    (h : Transition r r' signals) : r'.start = r.start := by
  cases h <;> rfl

/-- The step of the worker is a transition. -/
theorem work_transition (r : Running τ) : Transition r r.work [] := by
  unfold work
  split
  -- The cases are the places where the worker stands.
  case h_1 hw =>
    split
    case h_1 b rest hs => exact .pull b rest hw hs
    case h_2 hs =>
      split
      case h_1 v hv => exact .exhaust v hw hs hv
      case h_2 => exact .stay
  case h_2 b hw =>
    have hand : r.worker.inHand = [b] := by rw [hw]; rfl
    split
    case isTrue hf => exact .giveUp b hand hf
    case isFalse hf => exact .offer b hand (by simpa using hf)
  case h_3 b hw =>
    split
    case isTrue hroom => exact .put b hw (by simpa [hasRoom] using hroom)
    case isFalse => exact .refuse b (by rw [hw]; rfl)
  case h_4 b hw =>
    have hand : r.worker.inHand = [b] := by rw [hw]; rfl
    split
    case isTrue hf => exact .giveUp b hand hf
    case isFalse hf => exact .offer b hand (by simpa using hf)
  case h_5 v hw => exact .shut v r.closeFault hw
  case h_6 v hw =>
    split
    case isTrue hroom => exact .report v hw (by simpa [hasRoom] using hroom)
    case isFalse => exact .stay
  case h_7 => exact .stay

/-- So it is when the stream breaks down over being closed. -/
theorem workBreaking_transition (c : Crash) (r : Running τ) :
    Transition r (r.workBreaking c) [] := by
  unfold workBreaking
  split
  case h_1 v hw =>
    -- The breakdown is noted, and the worker goes on to its report.
    have h : ({ r.work with closeFault := some c } : Running τ)
        = { r with closed := r.stream.closable, worker := .reporting v, closeFault := some c } := by
      simp only [work, hw]
    rw [h]
    exact .shut v (some c) hw
  case h_2 => exact r.work_transition

@[simp] theorem closing_fst (before after : Running τ) : (closing before after).1 = after := by
  unfold closing
  split <;> rfl

@[simp] theorem received_flag (item : Option Item) (r : Running τ) :
    (r.received item).flag = r.flag := by
  unfold received
  split <;> rfl

/-- The worker does not touch the control. -/
@[simp] theorem work_control (r : Running τ) : r.work.control = r.control := by
  unfold work
  split <;> (try split) <;> (try split) <;> rfl

/-- The worker does not touch the flag. -/
@[simp] theorem work_flag (r : Running τ) : r.work.flag = r.flag := by
  unfold work
  split <;> (try split) <;> (try split) <;> rfl

variable [Timescale τ]

/-- Taking an item out of the channel is a transition. -/
theorem take_transition (r : Running τ) : Transition r (r.step .take).1 (r.step .take).2 := by
  rcases hch : r.channel with _ | ⟨item, rest⟩
  · have h : r.step .take = (r, []) := by simp [step, hch]
    rw [h]
    exact .stay
  by_cases hw : r.control = .waiting
  · simpa [step, isWaiting, received, closing, hw, hch] using .take item rest hw hch
  by_cases hd : r.control = .draining
  · cases item with
    | batch b =>
      have h : r.step .take = ({ r with channel := rest }, []) := by
        simp [step, isWaiting, received, closing, hd, hch, Item.signals]
      rw [h]
      exact .drain b rest hd hch
    | finished v =>
      simpa [step, isWaiting, received, closing, hd, hch] using .drained v rest hd hch
  -- A control that does not wait takes nothing.
  · have h : r.isWaiting = false := by
      unfold isWaiting
      split <;> simp_all
    simpa [step, h] using .stay

/-- **Every move is a transition.** -/
theorem step_transition (r : Running τ) (m : Move τ) :
    Transition r (r.step m).1 (r.step m).2 := by
  cases m with
  | work => exact r.work_transition
  | workBreaking c => exact r.workBreaking_transition c
  | swerve batches ending =>
    simp only [step, Running.swerve]
    split
    case isTrue h => exact .swerve batches ending h
    case isFalse => exact .stay
  | cancel reason => exact .raise reason
  | take => exact r.take_transition
  | empty =>
    simp only [step, received]
    cases hc : r.control <;> try exact .stay
    case waiting => exact .pause hc
  | interrupt =>
    simp only [step, received]
    cases hc : r.control <;> try exact .stay
    case waiting => simpa [Running.raise, hc] using .interrupt hc
  | checkTime now =>
    simp only [step]
    cases hc : r.control <;> try exact .stay
    case timing item =>
      dsimp only
      split
      case isTrue => exact .timeout item hc
      case isFalse => exact .check item hc
  | observe =>
    simp only [step]
    cases hc : r.control <;> try exact .stay
    case observing item =>
      dsimp only
      split
      case isTrue h =>
        obtain ⟨hf, ho⟩ : r.flag.isRaised = true ∧ r.observed = false := by simpa using h
        exact .observe item hc hf ho
      case isFalse => exact .pass item hc
  | handle now =>
    simp only [step]
    cases hc : r.control <;> try exact .stay
    case handling item =>
      cases item with
      | none => exact .again hc
      | some item =>
        cases item with
        | finished v => exact .complete v _ hc
        | batch b =>
          simp only [handle]
          split
          case isTrue hf => exact .discard b hc hf
          case isFalse hf => exact .yield b hc (by simpa using hf)
  | resume =>
    simp only [step]
    cases hc : r.control <;> try exact .stay
    case yielded => exact .resume hc
  | close =>
    simp only [step]
    cases hc : r.control <;> try exact .stay
    case yielded => exact .abandon hc

/-! ## Induction over a run -/

@[simp] theorem steps_nil (r : Running τ) : r.steps [] = (r, []) := rfl

theorem steps_append (r : Running τ) (ms ms' : List (Move τ)) :
    r.steps (ms ++ ms')
      = (((r.steps ms).1.steps ms').1, (r.steps ms).2 ++ ((r.steps ms).1.steps ms').2) := by
  induction ms generalizing r with
  | nil => rfl
  | cons m ms ih => simp [steps, ih]

@[simp] theorem steps_singleton (r : Running τ) (m : Move τ) : r.steps [m] = r.step m := by
  simp [steps]

/-- What holds in the beginning, and is kept by every move after any others,
    holds after all moves. -/
theorem steps_induction {r : Running τ}
    {P : List (Move τ) → Running τ → List (Signal τ) → Prop} (start : P [] r [])
    (next : ∀ ms m, P ms (r.steps ms).1 (r.steps ms).2 →
      P (ms ++ [m]) ((r.steps ms).1.step m).1 ((r.steps ms).2 ++ ((r.steps ms).1.step m).2))
    (ms : List (Move τ)) : P ms (r.steps ms).1 (r.steps ms).2 := by
  -- The run grows at its end, so that the invariant goes from state to state.
  induction ms using List.reverseRecOn with
  | nil => exact start
  | append_singleton ms m ih =>
    rw [steps_append, steps_singleton]
    exact next ms m ih

/-- **An invariant of the transitions** holds in every state of a run. -/
theorem steps_invariant {r : Running τ} {P : Running τ → List (Signal τ) → Prop} (start : P r [])
    (next : ∀ r past r' signals, Transition r r' signals → P r past → P r' (past ++ signals))
    (ms : List (Move τ)) : P (r.steps ms).1 (r.steps ms).2 :=
  steps_induction (P := fun _ r past => P r past) start
    (fun _ m h => next _ _ _ _ (step_transition _ m) h) ms

/-! ## Consumers that leave -/

/-- **The consumer closes the execution early**: it stops while it holds a batch. -/
def ClosesEarly (r : Running τ) (ms : List (Move τ)) : Prop :=
  ∃ before after, ms = before ++ .close :: after ∧ (r.steps before).1.control = .yielded

/-- Only the consumer makes the control give a statement up. -/
theorem step_of_yielded {r : Running τ} {m : Move τ} (hc : r.control = .yielded)
    (hm : m ≠ .close) : (r.step m).1.control ≠ .draining := by
  cases m with
  | work => simp [step, hc]
  | workBreaking c =>
    simp only [step, workBreaking]
    split <;> simp [hc]
  | swerve batches ending =>
    simp only [step, swerve]
    split <;> simp [hc]
  | close => exact absurd rfl hm
  | _ => simp [step, Running.raise, isWaiting, received, hc]

/-- A control that is giving the statement up, or has ended without an outcome,
    has been left early by its consumer. -/
theorem closesEarly_of_left {r : Running τ} (hstart : r.control = .waiting) (ms : List (Move τ)) :
    (r.steps ms).1.control = .draining
      ∨ (r.steps ms).1.control = .finished ∧ outcomesIn (r.steps ms).2 = [] →
    r.ClosesEarly ms := by
  refine steps_induction (P := fun ms r' past =>
    r'.control = .draining ∨ r'.control = .finished ∧ outcomesIn past = [] → r.ClosesEarly ms)
    (by simp [hstart]) ?_ ms
  intro ms m ih h
  have later (he : r.ClosesEarly ms) : r.ClosesEarly (ms ++ [m]) := by
    obtain ⟨before, after, rfl, hc⟩ := he
    exact ⟨before, after ++ [m], by simp, hc⟩
  -- The control was not on its way out before, or the move is its closing.
  have now (hy : (r.steps ms).1.control = .yielded)
      (hd : ((r.steps ms).1.step m).1.control = .draining) : r.ClosesEarly (ms ++ [m]) := by
    by_cases hm : m = .close
    · exact ⟨ms, [], by rw [hm], hy⟩
    · exact absurd hd (step_of_yielded hy hm)
  have t := (r.steps ms).1.step_transition m
  revert h now t
  generalize (r.steps ms).1.step m = next
  obtain ⟨r', signals⟩ := next
  intro h now t
  cases t with
  | abandon hc => exact now hc rfl
  | complete v elapsed hc => simp at h
  | drained v rest hc => exact later (ih (.inl hc))
  | drain b rest hc => exact later (ih (.inl hc))
  | stay | pull | exhaust | offer | giveUp | put | refuse | shut | report | swerve | raise =>
    exact later (ih (by simpa [Running.raise] using h))
  | _ => simp at h

end Running

end SqlShell
