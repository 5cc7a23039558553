import SqlShell.Session.Presentation

/-! # Running a Session

    Lines are read, put together to statements, and each statement or command
    is carried out before the next.  Whatever goes wrong with one of them costs
    one line of text, and the session goes on; only the loss of the output ends
    it. -/

namespace SqlShell

/-- What comes out of the input. -/
inductive InputLine where
  | line (text : Text)
  /-- The user interrupts instead of entering a line. -/
  | interrupt
  /-- The input breaks down. -/
  | crash (c : Crash)
deriving DecidableEq, Repr

/-- Everything went well, or the failures do not count. -/
def exitOk : Nat := 0

/-- The session could not be started, or a statement has failed. -/
def exitFailure : Nat := 1

/-- The output could not be written. -/
def exitOutputLost : Nat := 2

namespace Shell

/-! ## One statement -/

/-- The format and the settings of the session make a writer. -/
def createWriter : ShellM Writer := do
  let session := (← get).session
  pure (Writer.create session.settings session.format)

/-- What follows a statement that has been presented. -/
def conclude (outcome : Outcome Binary64) : ShellM Unit := do
  closeEvents
  if !outcome.isSuccess then countError
  flush

/-- An action, and then another one however the first ends. -/
def followedBy {α : Type} (action : ShellM α) (last : ShellM Unit) : ShellM α := do
  let ended ← attempt action
  last
  match ended with
  | .ok a => pure a
  | .error e => throw e

/-- Goes over to the presentation of the current statement and presents it. -/
def showResult : ShellM (Outcome Binary64) := do
  enterPhase .rendering
  let w ← createWriter
  present w

/-- Reports a breakdown in one line. -/
def reportCrash (c : Crash) : ShellM Unit := do
  note .unexpected
  countError
  write .err (errorLine c.describe)

/-- **Executes a statement** and presents its result.  A breakdown costs one
    line; an interruption at the very end counts as a cancellation. -/
def executeStatement (statement : Text) : ShellM Unit := do
  modify fun shell => { shell with session := shell.session.record statement }
  enter (.recorded statement)
  enterPhase .executing
  modify fun shell => { shell with source := .execution (.fresh statement {}) }
  match ← attempt showResult with
  | .ok outcome => conclude outcome
  | .error .stalled => throw .stalled
  -- A lost output ends the session, but not before the worker has returned.
  | .error (.outputLost f) => followedBy (throw (.outputLost f)) closeEvents
  -- The result had come, and only its end was being written: the session goes on.
  | .error .interrupted => do
    raise interruptReason
    let outcome := Outcome.cancelled interruptReason Binary64.zero
    match ← attempt (tellOutcome outcome) with
    | .ok () => conclude outcome
    | .error e => followedBy (throw e) closeEvents
  | .error (.crashed c) => followedBy (reportCrash c) closeEvents

/-- Carries a command out. -/
def perform (c : ShellCommand) : ShellM Unit := do
  match c.perform (← get).session with
  | .error e => do
    countError
    write .err (errorLine e.message)
  | .ok (session, answer) => do
    modify fun shell => { shell with session }
    writeAll .out answer

/-- Does what a text asks for. -/
def handle (input : Input) : ShellM Unit := do
  enterPhase .dispatching
  match input with
  | .empty => pure ()
  | .command c => perform c
  | .statement text => executeStatement text

/-- Handles texts one after the other, as long as the session runs. -/
def handleAll : List Text → ShellM Unit
  | [] => pure ()
  | text :: r => do
    -- A command may have left the session, with more on the same line.
    if (← get).session.running then
      handle (Input.ofText text)
      handleAll r

/-! ## The main loop -/

/-- What the user is asked with. -/
def currentPrompt (shell : Shell) : Text :=
  if !shell.interactive then []
  else if shell.buffer.inProgress then continuationPrompt
  else prompt

/-- The statement that is being entered is thrown away. -/
def discard : ShellM Unit := do
  modify fun shell => { shell with buffer := .empty }
  if (← get).interactive then write .out ['\n']

/-- **Asks for a line.**  If the prompt itself is interrupted the user is asked
    again, at most `fuel` times. -/
def ask : Nat → ShellM Unit
  | 0 => throw .stalled
  | fuel + 1 => do
    if !(← get).buffer.inProgress then enterPhase .awaitingInput
    let shell ← get
    enter (.asked shell.currentPrompt)
    if shell.writesPrompts then
      match ← put .out shell.currentPrompt with
      | none => pure ()
      | some (.fault f) => throw (.crashed f.crash)
      | some .interrupt => do
        discard
        ask fuel

/-- A line has been read.  Between statements a line may be a command as it
    stands; otherwise it goes on with the statement that is being entered. -/
def readLine (line : Text) : ShellM Unit := do
  let shell ← get
  -- In a statement that is being entered nothing is a command.
  match Input.ofText line, shell.buffer.inProgress with
  | .command c, false => handle (.command c)
  | _, _ => do
    enterPhase .assembling
    let (texts, buffer) := shell.buffer.takeLine line
    modify fun shell => { shell with buffer }
    handleAll texts

/-- The input has ended: what is left of it is a statement too. -/
def endInput : ShellM Unit := do
  let (left, buffer) := (← get).buffer.close
  modify fun shell => { shell with buffer }
  match left with
  | .error e => do
    countError
    write .err (errorLine e.message)
  | .ok none => pure ()
  | .ok (some text) => handle (Input.ofText text)

/-- One turn of the main loop, unless the session has been left: a line is
    asked for, and `answer` deals with what comes. -/
def turn (answer : ShellM Unit) : ShellM Unit := do
  let shell ← get
  if shell.session.running then
    ask (shell.surroundings.patience + 2)
    answer

/-- **The main loop**, until the input ends or the session is left. -/
def loop : List InputLine → ShellM Unit
  | [] => turn endInput
  | .interrupt :: r => do
    turn discard
    loop r
  | .line text :: r => do
    turn (readLine text)
    loop r
  | .crash c :: r => do
    turn (throw (.crashed c))
    loop r

/-- Saves the statements of the session; a file that cannot be used costs a
    notice. -/
def saveHistory : ShellM Nat := do
  let shell ← get
  let result := shell.session.saveHistory shell.historyFile
  set { shell with session := result.session, historyFile := result.file }
  enter (.saved result.text)
  match result.fault with
  | some (path, f) =>
    if f.isBreakdown then throw (.crashed (f.crash path)) else note (.historyUnwritable path f)
  | none => pure ()
  pure result.written

/-- Closes the engine. -/
def closeEngine : ShellM Unit := do
  enter .engineClosed
  if (← get).engine.logsClosing then note .engineClosed

/-- Saves the statements and closes the engine. -/
def closeSession : ShellM Unit := do
  let _ ← saveHistory
  closeEngine

/-- **Ends the session.** -/
def terminate : ShellM Unit := do
  enterPhase .terminating
  followedBy closeSession (enter .inputClosed)

/-- The exit code of a session whose output was not lost. -/
def codeOf (failOnError : Bool) (shell : Shell) : Nat :=
  if failOnError && 0 < shell.errors then exitFailure else exitOk

/-- Runs the main loop and gives the exit code of the session. -/
def runLoop (failOnError : Bool) (input : List InputLine) : ShellM Nat := do
  match ← attempt (loop input) with
  | .ok () => pure ((← get).codeOf failOnError)
  | .error (.outputLost f) => do
    note (.outputLost f)
    pure exitOutputLost
  | .error e => throw e

/-- **Runs a session** on some input and gives its exit code.  The session ends
    in order whatever happens. -/
def run (failOnError : Bool) (input : List InputLine) : ShellM Nat :=
  followedBy (runLoop failOnError input) terminate

/-! ## Starting up -/

/-- The format that a session starts with: one that is known, or the name of
    one as a user gives it. -/
inductive InitialFormat where
  | known (f : ResultFormat)
  | named (name : Text)
deriving DecidableEq, Repr

/-- The format meant. -/
def InitialFormat.resolve : InitialFormat → Except CommandError ResultFormat
  | known f => .ok f
  | named name => ResultFormat.parse (some name)

/-- A session without an engine: it is not started. -/
def refuse : ShellM Nat := do
  write .err (errorLine "no engine session".toList)
  pure exitFailure

/-- **Starts a session** with a format and runs it.  If there is no such format
    the engine is closed and the session is not started. -/
def start (format : InitialFormat) (failOnError : Bool) (input : List InputLine) : ShellM Nat := do
  match format.resolve with
  | .error e => do
    write .err (errorLine e.message)
    closeEngine
    pure exitFailure
  | .ok f => do
    modify fun shell => { shell with session := { shell.session with format := f } }
    run failOnError input

end Shell

end SqlShell
