import SqlShell.Failure
import SqlShell.Result

/-! # Outcomes

    An execution of a statement is a sequence of events: batches, and at the
    end its outcome.  Times are of a type `τ` of their own, so that statements
    about executions hold for every way of measuring time. -/

namespace SqlShell

/-- **How an execution ends.** -/
inductive Outcome (τ : Type) where
  /-- The whole result has come, so many rows. -/
  | success (rows : Int) (elapsed : τ)
  /-- The engine has given the statement up. -/
  | failure (error : EngineFailure) (elapsed : τ)
  /-- The statement has been cancelled. -/
  | cancelled (reason : Text) (elapsed : τ)
deriving DecidableEq, Repr

/-- **Events of an execution.** -/
inductive Event (τ : Type) where
  | batch (b : Batch)
  | completed (outcome : Outcome τ)

/-- The statement has succeeded. -/
def Outcome.isSuccess {τ : Type} : Outcome τ → Bool
  | .success _ _ => true
  | _ => false

/-! ## Time -/

/-- What an execution asks of a measure of time. -/
class Timescale (τ : Type) where
  /-- The time from a start to a moment. -/
  since : (now start : τ) → τ
  /-- Whether a time is longer than a limit. -/
  exceeds : (elapsed limit : τ) → Bool

end SqlShell
