import SqlShell.Output.Writer
import SqlShell.Session.Events

/-! # Presenting a Result

    The events of a statement are taken one by one.  Batches are written as
    they come, in the chosen format, and at the end the outcome is reported.

    An interruption while events are awaited or written raises the cancellation
    flag, and the events are taken on until the execution says that it has been
    cancelled; only without a flag the interruption goes through. -/

namespace SqlShell.Shell

/-- What keeps a writer from finishing a request. -/
inductive Lapse where
  | sink (f : SinkFault)
  | crash (c : Crash)

/-- The exit for a lapse. -/
def Lapse.exit : Lapse → Exit
  | sink f => exitOf f
  | crash c => .crashed c

/-- Writes texts one after the other, until one is not written; the writer is
    then in the state that belongs to that text. -/
def writeSteps {σ : Type} (last : σ) (crash : Option Crash) :
    List (σ × Text) → ShellM (σ × Option Lapse)
  | [] => pure (last, crash.map .crash)
  | (s, text) :: r => do
    match ← put .out text with
    | none => writeSteps last crash r
    | some f => pure (s, some (.sink f))

/-- Does what a writer does with a request. -/
def produce {σ : Type} (p : Production σ) : ShellM (σ × Option Lapse) :=
  writeSteps p.last p.crash p.steps

/-- Does what a writer does with a request; a lapse ends the action. -/
def produceAll {σ : Type} (p : Production σ) : ShellM Unit := do
  match ← produce p with
  | (_, none) => pure ()
  | (_, some lapse) => throw lapse.exit

/-- The other parties do what they do while the shell is busy. -/
def interlude : ShellM Unit :=
  modify fun shell =>
    match shell.source with
    | .execution (.running r) =>
      let (surroundings, r) := r.interlude shell.surroundings
      { shell with surroundings, source := .execution (.running r) }
    | _ => shell

/-- An interruption: it raises the flag, or ends the action if there is none. -/
def interrupted : ShellM Unit := do
  match (← get).source.flag? with
  | none => throw .interrupted
  | some _ => raise interruptReason

/-- **Takes the events** of the current statement until it is over, and at most
    `fuel` of them: the writer afterwards, and the outcome if one has come. -/
def takeEvents : Nat → Writer → ShellM (Writer × Option (Outcome Binary64))
  | 0, w => pure (w, none)
  | fuel + 1, w => do
    match ← nextEvent with
    | .exhausted => pure (w, none)
    | .stalled => throw .stalled
    | .crashed c => throw (.crashed c)
    | .interrupted => do
      interrupted
      takeEvents fuel w
    | .event (.completed outcome) => pure (w, some outcome)
    | .event (.batch b) => do
      interlude
      -- A batch that comes with a cancellation is dropped, as the control drops its own.
      if (← get).source.isRaised then takeEvents fuel w
      else
        match ← produce (w.batch b) with
        | (w, none) => takeEvents fuel w
        -- The interruption strikes the writer, which keeps what it has got so far.
        | (w, some (.sink .interrupt)) => do
          interrupted
          takeEvents fuel w
        | (_, some lapse) => throw lapse.exit

/-- The outcome of events that end without one. -/
def missingOutcome (c : Option Cancellation) : Outcome Binary64 :=
  match c with
  | some c =>
    if c.isRaised then .cancelled (c.reasonOr interruptReason) .zero
    else .failure { message := "result stream ended without an outcome".toList } .zero
  | none => .failure { message := "result stream ended without an outcome".toList } .zero

/-- Tells the user how a statement has ended. -/
def tellOutcome (outcome : Outcome Binary64) : ShellM Unit := do
  match outcome.closingLine (← get).session.settings with
  | none => pure ()
  | some (c, line) => write c line

/-- **Presents the current statement** through a writer. -/
def present (w : Writer) : ShellM (Outcome Binary64) := do
  let (w, came) ← takeEvents (← get).replyBound w
  let outcome := came.getD (missingOutcome (← get).source.flag?)
  produceAll (if outcome.isSuccess then w.finish else w.abort)
  tellOutcome outcome
  pure outcome

end SqlShell.Shell
