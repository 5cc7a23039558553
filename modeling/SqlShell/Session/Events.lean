import SqlShell.Session.Shell

/-! # Events

    The events of the current statement, asked for one at a time.  Each move of
    the control shows in the transcript before the next one is made; if a
    notice of it cannot be given, the execution breaks off there.

    - `Shell.nextEvent` asks for the next event;
    - `Shell.closeEvents` stops asking. -/

namespace SqlShell.Shell

/-! ## Signals -/

/-- The entries that a signal of an execution gives rise to. -/
def signal (s : Signal Binary64) : ShellM Unit := do
  match s with
  | .offered statement => enter (.offered statement)
  | .submitted statement => enter (.submitted statement)
  | .closed report => enter (.executed report)
  | _ => pure ()
  match Notice.ofSignal? s with
  | some n => note n
  | none => pure ()

/-- The entries of some signals. -/
def signalAll : List (Signal Binary64) → ShellM Unit
  | [] => pure ()
  | s :: r => do
    signal s
    signalAll r

/-- Raises the cancellation flag of the current statement. -/
def raise (reason : Text) : ShellM Unit :=
  modify fun shell => { shell with source := shell.source.raise reason }

/-! ## Executions -/

/-- Goes on with an execution in another state. -/
def setExecution (x : Execution Binary64) : ShellM Unit :=
  modify fun shell => { shell with source := .execution x }

/-- The control of a running statement makes its next move. -/
def advance (r : Running Binary64) : ShellM (Running Binary64 × List (Signal Binary64)) :=
  modifyGet fun shell =>
    let (surroundings, r, signals) := r.advance shell.surroundings
    ((r, signals), { shell with surroundings, source := .execution (.running r) })

/-- The control goes on to its end without an event; it makes at most `fuel`
    moves. -/
def drain : Nat → Running Binary64 → ShellM Unit
  | 0, _ => pure ()
  | fuel + 1, r =>
    if r.isAtRest then pure ()
    else do
      let (r, signals) ← advance r
      signalAll signals
      drain fuel r

/-- **Gives the current statement up**, wherever its execution stands.  What was
    not begun is never offered to the engine. -/
def closeEvents : ShellM Unit := do
  let shell ← get
  match shell.source with
  | .execution (.fresh _ c) => setExecution (.ended c)
  | .execution (.running r) =>
    match r.control with
    | .finished => pure ()
    -- The worker may stand before a full channel, which is emptied for it.
    | _ => drain (r.enoughMoves shell.surroundings) r.abandon
  | _ => pure ()

/-- The control breaks down over its look at the clock. -/
def failCheck (c : Crash) : ShellM (Reply Binary64) := do
  modify fun shell => { shell with surroundings := shell.surroundings.tick }
  closeEvents
  pure (.crashed c)

/-- The control goes on until it has an event or has ended.  It makes at most
    `fuel` moves; how it goes on behind them is up to `last`. -/
def attend (last : Running Binary64 → ShellM (Reply Binary64)) (fuel : Nat)
    (r : Running Binary64) : ShellM (Reply Binary64) :=
  if r.isAtRest then pure .exhausted
  else match fuel with
    | 0 => last r
    | fuel + 1 => do
      match r.checkFault? (← get).surroundings with
      | some c => failCheck c
      | none => do
        let (r, signals) ← advance r
        match ← attempt (signalAll signals) with
        -- What goes wrong over a notice goes wrong in the control, which then cleans up.
        | .error e => do
          closeEvents
          throw e
        | .ok () =>
          match eventOf? signals with
          | some e => pure (.event e)
          | none => attend last fuel r

/-- Goes on behind the moves that the surroundings bear.  A query that has been
    told to stop ends by itself, and is waited for; any other one keeps the
    control waiting. -/
def insist (r : Running Binary64) : ShellM (Reply Binary64) := do
  if 0 < r.stops then attend (fun _ => pure .stalled) (r.enoughMoves (← get).surroundings) r
  else pure .stalled

/-- Goes on with a running statement until it has an event or has ended. -/
def attendAll (r : Running Binary64) : ShellM (Reply Binary64) := do
  setExecution (.running r)
  attend insist (r.enoughMoves (← get).surroundings) r

/-- **Offers a statement to the engine** and waits for the first event.  The
    execution is over if the notice that the engine has taken the statement
    cannot be given. -/
def begin (statement : Text) (c : Cancellation) : ShellM (Reply Binary64) := do
  signal (.offered statement)
  let shell ← get
  let submission := shell.engine.submit shell.session.history statement
  let (surroundings, begun) := Execution.begin submission statement c shell.surroundings
  -- If the notice cannot be given, the worker is never started.
  set { shell with surroundings, source := .execution (.ended c) }
  match begun with
  | .error reply => pure reply
  | .ok r => do
    signal (.submitted statement)
    attendAll r

/-! ## Sources -/

/-- The next reply of a recording. -/
def nextRecorded (c : Option Cancellation) :
    List Recorded → Reply Binary64 × List Recorded × Option Cancellation
  | [] => (.exhausted, [], c)
  | .event e :: r => (.event e, r, c)
  | .interrupt :: r => (.interrupted, r, c)
  | .crash crash :: r => (.crashed crash, r, c)
  | .cancel reason :: r => nextRecorded (c.map (·.raise reason)) r

/-- The next reply of an execution. -/
def replyOf : Execution Binary64 → ShellM (Reply Binary64)
  | .fresh statement c => begin statement c
  | .running r => attendAll (r.step .resume).1
  | .ended _ => pure .exhausted

/-- The same; an interruption on the way to the reply takes its place. -/
def nextOfExecution (x : Execution Binary64) : ShellM (Reply Binary64) := do
  let reply ← attempt (replyOf x)
  match reply with
  | .ok reply => pure reply
  | .error .interrupted => pure .interrupted
  | .error e => throw e

/-- **Asks for the next event** of the current statement. -/
def nextEvent : ShellM (Reply Binary64) := do
  let shell ← get
  match shell.source with
  | .recording items c =>
    let (reply, items, c) := nextRecorded c items
    set { shell with source := .recording items c }
    pure reply
  | .execution x => nextOfExecution x

/-- How many replies the current statement can still give, at the most. -/
def replyBound (shell : Shell) : Nat :=
  match shell.source with
  | .recording items _ => items.length + 1
  | .execution x => x.eventBound (shell.engine.submit shell.session.history) + 1

end SqlShell.Shell
