import SqlShell.Execution.Execution
import SqlShell.Session.Command
import SqlShell.Session.Console
import SqlShell.Statement.Buffer

/-! # The Shell

    The state of a whole session at work, and the small actions on it.  An
    action may end early, with an `Exit`, and leaves the shell as it is then. -/

namespace SqlShell

/-! ## Sources of events -/

/-- What a recording of events holds. -/
inductive Recorded where
  | event (e : Event Binary64)
  /-- The user interrupts. -/
  | interrupt
  /-- Someone raises the cancellation flag. -/
  | cancel (reason : Text)
  /-- The source breaks down. -/
  | crash (c : Crash)

/-- **Where events come from.** -/
inductive EventSource where
  /-- A recording, with a cancellation flag or without any. -/
  | recording (items : List Recorded) (flag : Option Cancellation)
  /-- The execution of a statement. -/
  | execution (x : Execution Binary64)

namespace EventSource

/-- The cancellation flag. -/
def flag? : EventSource → Option Cancellation
  | recording _ c => c
  | execution x => some x.flag

/-- Raises the cancellation flag. -/
def raise (reason : Text) : EventSource → EventSource
  | recording items c => recording items (c.map (·.raise reason))
  | execution x => execution (x.raise reason)

/-- The flag has been raised. -/
def isRaised (s : EventSource) : Bool := (s.flag?.map (·.isRaised)).getD false

end EventSource

/-! ## The state -/

/-- **A shell at work.** -/
structure Shell where
  console : Console := {}
  session : Session := {}
  historyFile : HistoryFile := {}
  engine : Engine
  surroundings : Surroundings Binary64
  /-- Where the events of the current statement come from. -/
  source : EventSource := .recording [] none
  /-- The statement that is being entered. -/
  buffer : StatementBuffer := .empty
  phase : Phase := .awaitingInput
  /-- How many commands and statements have failed. -/
  errors : Nat := 0
  /-- Whether a person enters the lines, who is prompted for them. -/
  interactive : Bool := false
  /-- Whether the prompts are written by the shell itself. -/
  writesPrompts : Bool := false

/-- **Why an action ends early.** -/
inductive Exit where
  /-- The user interrupts. -/
  | interrupted
  /-- The output cannot be written. -/
  | outputLost (f : WriteFault)
  /-- Something breaks down. -/
  | crashed (c : Crash)
  /-- An engine is blocked, and nobody has told its query to stop in time; or a
      prompt has been interrupted too often. -/
  | stalled
deriving DecidableEq, Repr

/-- **Actions of the shell.** -/
abbrev ShellM := EStateM Exit Shell

namespace Shell

/-- Does an action and tells how it has ended; it never ends early. -/
def attempt {α : Type} (action : ShellM α) : ShellM (Except Exit α) := fun shell =>
  match action shell with
  | .ok a shell => .ok (.ok a) shell
  | .error e shell => .ok (.error e) shell

/-! ## Writing -/

/-- Changes the console. -/
def onConsole (f : Console → Console) : ShellM Unit :=
  modify fun shell => { shell with console := f shell.console }

/-- Adds an entry to the transcript. -/
def enter (e : Entry) : ShellM Unit := onConsole (·.enter e)

/-- Writes a text and tells whether that has failed. -/
def put (c : Channel) (text : Text) : ShellM (Option SinkFault) :=
  modifyGet fun shell =>
    let (fault, console) := shell.console.put c text
    (fault, { shell with console })

/-- The exit for a fault of an output. -/
def exitOf : SinkFault → Exit
  | .interrupt => .interrupted
  | .fault f => .outputLost f

/-- Writes a text; a fault ends the action. -/
def write (c : Channel) (text : Text) : ShellM Unit := do
  match ← put c text with
  | none => pure ()
  | some fault => throw (exitOf fault)

/-- Writes texts one after the other. -/
def writeAll (c : Channel) : List Text → ShellM Unit
  | [] => pure ()
  | text :: r => do
    write c text
    writeAll c r

/-- Flushes an output; a fault ends the action. -/
def flushSink (c : Channel) : ShellM Unit := do
  let fault ← modifyGet fun shell =>
    let (fault, console) := shell.console.flush c
    (fault, { shell with console })
  match fault with
  | none => pure ()
  | some fault => throw (exitOf fault)

/-- Flushes both outputs. -/
def flush : ShellM Unit := do
  flushSink .out
  flushSink .err

/-- Gives a notice.  Only an interruption, or the loss of the output on which
    even a complaint would show, ends the action. -/
def note (n : Notice) : ShellM Unit := do
  let fault ← modifyGet fun shell =>
    let (fault, console) := shell.console.note n
    (fault, { shell with console })
  match fault with
  | none => pure ()
  | some .interrupt => throw .interrupted
  | some (.fault f) => throw (.crashed f.crash)

/-- The line for an error. -/
def errorLine (message : Text) : Text := "Error: ".toList ++ message ++ ['\n']

/-- Counts a failure. -/
def countError : ShellM Unit := modify fun shell => { shell with errors := shell.errors + 1 }

/-- Goes over to a phase. -/
def enterPhase (phase : Phase) : ShellM Unit := do
  let left := (← get).phase
  if left ≠ phase then
    note (.phase left phase)
    modify fun shell => { shell with phase }

end Shell

end SqlShell
