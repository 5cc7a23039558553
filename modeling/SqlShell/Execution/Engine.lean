import SqlShell.Execution.Outcome

/-! # Engines

    An engine takes statements and answers each with a stream of batches.  How
    it answers is a function of the statement and of those before it. -/

namespace SqlShell

/-- What comes after the last batch of a stream. -/
inductive Ending where
  /-- Nothing: the result is complete. -/
  | complete
  /-- The engine reports a failure. -/
  | failed (e : EngineFailure)
  /-- The engine breaks down. -/
  | crashed (c : Crash)
  /-- The engine cancels the statement by itself. -/
  | cancelled
  /-- The engine goes on without a batch until the statement is cancelled. -/
  | blocked
deriving DecidableEq, Repr

/-- **The stream of a result**: the batches still to come and what is behind
    them. -/
structure ResultStream where
  batches : List Batch
  ending : Ending
  /-- Whether the stream can be closed before its end. -/
  closable : Bool := true

/-- The answer to a statement. -/
inductive Submission where
  /-- The engine does not take the statement. -/
  | refused (e : EngineFailure)
  /-- The engine breaks down over the statement. -/
  | crashed (c : Crash)
  /-- The engine executes the statement. -/
  | accepted (stream : ResultStream)

/-- **An engine.** -/
structure Engine where
  /-- The answer to a statement after the statements of a history, the last of
      which is the statement itself. -/
  submit : (history : List Text) → (statement : Text) → Submission
  /-- Whether the closing of the engine is logged. -/
  logsClosing : Bool := false

/-- The kind of failure that a breakdown of the engine is reported as. -/
def Crash.failure (c : Crash) : EngineFailure := { message := c.describe }

end SqlShell
