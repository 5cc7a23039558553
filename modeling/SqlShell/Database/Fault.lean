import SqlShell.Execution.Engine
import SqlShell.Text.Blank

/-! # Faults of the Database

    What the database reports, and the failure of a statement that it becomes. -/

namespace SqlShell

/-- The kinds of fault that are told apart. -/
inductive DatabaseFaultKind where
  /-- The statement cannot be parsed. -/
  | parser
  /-- The statement names something that does not exist. -/
  | catalog
  /-- The names of the statement do not fit together. -/
  | binder
  /-- The query has been told to stop. -/
  | interrupted
  /-- Any other fault. -/
  | other
deriving DecidableEq, Repr

/-- **What goes wrong with a database.** -/
inductive DatabaseFault where
  /-- The database reports it. -/
  | reported (kind : DatabaseFaultKind) (message : Text)
  /-- The connection breaks down. -/
  | crash (c : Crash)
deriving DecidableEq, Repr

/-- The stage that a kind of fault belongs to. -/
def DatabaseFaultKind.stage : DatabaseFaultKind → Stage
  | .parser => .parse
  | .catalog | .binder => .planning
  | .interrupted | .other => .execution

/-- A word or two in front of a message that say what kind of fault it is: some
    letters and blanks that end with `Error`, a colon, and blanks. -/
def dropFaultLabel (message : Text) : Text :=
  let isLabel := fun c : Char => c.isAlpha || c = ' '
  match message.dropWhile isLabel with
  | ':' :: r =>
    if "Error".toList.isSuffixOf (message.takeWhile isLabel) then Text.trimStart r else message
  | _ => message

namespace DatabaseFault

/-- The message of a fault. -/
def message : DatabaseFault → Text
  | reported _ m => m
  | crash c => c.message

/-- **The failure** that a fault becomes: the message without its label, and
    the stage. -/
def failure (f : DatabaseFault) : EngineFailure :=
  { message := dropFaultLabel (Text.trim f.message)
    stage :=
      match f with
      | reported kind _ => kind.stage
      | crash _ => .execution }

/-- How a stream ends that a fault breaks off. -/
def ending (f : DatabaseFault) : Ending :=
  match f with
  | reported .interrupted _ => .cancelled
  | reported _ _ => .failed f.failure
  | crash c => .crashed c

end DatabaseFault

end SqlShell
