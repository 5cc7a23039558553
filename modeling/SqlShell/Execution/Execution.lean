import SqlShell.Execution.Attendance

/-! # Executions

    An execution is the sequence of events that a statement gives rise to.  It
    is lazy: nothing is offered to the engine before the first event is asked
    for, and every further event is worked out when it is asked for. -/

namespace SqlShell

/-- **An execution.** -/
inductive Execution (τ : Type) where
  /-- Not yet begun. -/
  | fresh (statement : Text) (flag : Cancellation)
  /-- Taken by the engine. -/
  | running (r : Running τ)
  /-- Over without having been taken by the engine. -/
  | ended (flag : Cancellation)

/-- **What the request for an event gives.** -/
inductive Reply (τ : Type) where
  | event (e : Event τ)
  /-- There are no more events. -/
  | exhausted
  /-- The user interrupts. -/
  | interrupted
  /-- The engine breaks down. -/
  | crashed (c : Crash)
  /-- The engine is blocked, and nobody has told the query to stop within the
      patience of the surroundings. -/
  | stalled

/-- The event among some signals. -/
def eventOf? {τ : Type} (signals : List (Signal τ)) : Option (Event τ) :=
  signals.findSome? fun
    | .event e => some e
    | _ => none

namespace Execution

variable {τ : Type}

/-- The cancellation flag. -/
def flag : Execution τ → Cancellation
  | fresh _ c => c
  | running r => r.flag
  | ended c => c

/-- Raises the flag. -/
def raise (reason : Text) : Execution τ → Execution τ
  | fresh statement c => fresh statement (c.raise reason)
  | running r => running (r.raise reason)
  | ended c => ended (c.raise reason)

variable [Timescale τ]

/-- **The beginning** of an execution, after the engine has answered: the
    statement is running, or this is the only reply. -/
def begin (submission : Submission) (statement : Text) (c : Cancellation) (s : Surroundings τ) :
    Surroundings τ × Except (Reply τ) (Running τ) :=
  match submission with
  -- The clock is read a second time for the time that the refusal has taken.
  | .refused e =>
    (s.tick.tick, .error (.event (.completed (.failure e (Timescale.since s.tick.now s.now)))))
  | .crashed crash => (s.tick, .error (.crashed crash))
  | .accepted stream => (s.tick, .ok (s.begun statement c stream))

/-- How many events can still come, at the most. -/
def eventBound (submit : Text → Submission) : Execution τ → Nat
  | fresh statement _ =>
    match submit statement with
    | .accepted stream => stream.batches.length + 1
    | _ => 1
  | running r =>
    r.stream.batches.length + r.channel.length
      + (match r.worker with
        | .holding _ | .putting _ | .refused _ => 1
        | _ => 0) + 1
  | ended _ => 0

end Execution

end SqlShell
