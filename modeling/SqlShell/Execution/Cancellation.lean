import SqlShell.Text.Blank

/-! # Cancellation

    A flag that several parties share while a statement is executed.  Whoever
    raises it first gives the reason; it is never lowered again. -/

namespace SqlShell

/-- **The cancellation flag** of a statement: raised if it has a reason. -/
structure Cancellation where
  reason : Option Text := none
deriving DecidableEq, Repr

namespace Cancellation

/-- The flag has been raised. -/
def isRaised (c : Cancellation) : Bool := c.reason.isSome

/-- Raises the flag; only the first reason counts. -/
def raise (reason : Text) (c : Cancellation) : Cancellation :=
  match c.reason with
  | some _ => c
  | none => { reason := some reason }

/-- The reason, or `default` if there is none or an empty one. -/
def reasonOr (default : Text) (c : Cancellation) : Text :=
  match c.reason with
  | none | some [] => default
  | some reason => reason

@[simp] theorem isRaised_raise (reason : Text) (c : Cancellation) :
    (c.raise reason).isRaised = true := by
  cases h : c.reason <;> simp [raise, isRaised, h]

/-- A raised flag keeps its reason. -/
theorem raise_of_isRaised {c : Cancellation} (h : c.isRaised = true) (reason : Text) :
    c.raise reason = c := by
  cases hr : c.reason with
  | none => simp [isRaised, hr] at h
  | some _ => simp [raise, hr]

end Cancellation

/-- The reason of a user who interrupts. -/
def interruptReason : Text := "interrupt".toList

/-- The reason of a time limit. -/
def timeoutReason : Text := "timeout".toList

/-- The reason of a consumer that stops early. -/
def abandonedReason : Text := "abandoned".toList

end SqlShell
