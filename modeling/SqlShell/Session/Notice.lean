import SqlShell.Execution.Running
import SqlShell.Files.FileTree
import SqlShell.Output.ClosingLine

/-! # Notices

    The diagnostics of a session: each notice has a level and a text, and goes
    to the log and not to the user. -/

namespace SqlShell

/-- **The phases** of the main loop. -/
inductive Phase where
  | awaitingInput
  | assembling
  | dispatching
  | executing
  | rendering
  | terminating
deriving DecidableEq, Repr

/-- The name of a phase. -/
def Phase.label : Phase → Text
  | .awaitingInput => "AwaitingInput".toList
  | .assembling => "Assembling".toList
  | .dispatching => "Dispatching".toList
  | .executing => "Executing".toList
  | .rendering => "Rendering".toList
  | .terminating => "Terminating".toList

/-- **Notices.** -/
inductive Notice where
  /-- The main loop goes from one phase to another. -/
  | phase (left entered : Phase)
  /-- The engine has taken a statement. -/
  | submitted (statement : Text)
  /-- The engine has broken down over a statement. -/
  | engineBroken
  /-- A statement is being cancelled. -/
  | cancelling (reason : Text)
  /-- A statement has failed. -/
  | failed (e : EngineFailure)
  /-- A statement has succeeded. -/
  | succeeded (rows : Nat) (elapsed : Binary64)
  /-- The shell has met with a failure that it does not expect. -/
  | unexpected
  /-- The output cannot be written. -/
  | outputLost (f : WriteFault)
  /-- The statements cannot be saved. -/
  | historyUnwritable (path : Text) (f : FileFault)
  /-- The statements of earlier sessions cannot be read. -/
  | historyUnreadable (path : Text)
  /-- The engine has been opened. -/
  | engineOpened (database : Text)
  /-- The engine has been closed. -/
  | engineClosed
  /-- A query could not be told to stop. -/
  | stopFailed (message : Text)
deriving DecidableEq, Repr

/-- The levels of notices. -/
inductive Level where
  | debug
  | info
  | warning
  | error
deriving DecidableEq, Repr

/-- The name of a level. -/
def Level.label : Level → Text
  | .debug => "DEBUG".toList
  | .info => "INFO".toList
  | .warning => "WARNING".toList
  | .error => "ERROR".toList

namespace Notice

/-- The level of a notice. -/
def level : Notice → Level
  | cancelling _ => .info
  | failed _ | historyUnwritable _ _ => .warning
  | engineBroken | unexpected | outputLost _ => .error
  | _ => .debug

/-- The text of a notice. -/
def text : Notice → Text
  | phase left entered => left.label ++ " -> ".toList ++ entered.label
  | submitted statement => "submit: ".toList ++ statement
  | engineBroken => "unexpected error while executing statement".toList
  | cancelling reason => "cancelling statement (".toList ++ reason ++ [')']
  | failed e => "statement failed: ".toList ++ e.describe
  | succeeded rows elapsed =>
    "statement finished: ".toList ++ decimalText rows ++ " rows in ".toList ++ secondsText elapsed
      ++ ['s']
  | unexpected => "unexpected error while rendering".toList
  | outputLost f => "output lost: ".toList ++ f.message
  | historyUnwritable path f =>
    "could not write history file ".toList ++ path ++ ": ".toList ++ f.message path
  | historyUnreadable path =>
    "could not load history ".toList ++ path ++ ": [Errno 5] Input/output error".toList
  | engineOpened database => "engine session opened: ".toList ++ database
  | engineClosed => "engine session closed".toList
  | stopFailed message => "interrupt failed: ".toList ++ message

/-- The notice that a signal of an execution gives rise to, if any. -/
def ofSignal? : Signal Binary64 → Option Notice
  | .submitted statement => some (submitted statement)
  | .broken => some engineBroken
  | .cancelling reason => some (cancelling reason)
  | .failed e => some (failed e)
  | .succeeded rows elapsed => some (succeeded rows elapsed)
  | .event _ | .offered _ | .closed _ => none

end Notice

/-- Time is measured in seconds. -/
instance : Timescale Binary64 where
  since now start := now.sub start
  exceeds elapsed limit := limit.lt elapsed

end SqlShell
