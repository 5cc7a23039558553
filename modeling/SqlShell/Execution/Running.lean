import SqlShell.Execution.Cancellation
import SqlShell.Execution.Engine

/-! # Running Statements

    A statement is executed by two parties.  The **worker** pulls batches from
    the stream of the engine and puts them into a channel that holds a limited
    number of them; the **control** takes them out, watches the time and the
    cancellation flag, and hands events to a consumer, which may resume it or
    close it.  The state of all this is `Running`, and every single step of a
    party is a `Move`, so that the ways in which the parties can interleave
    are the lists of moves.

    - `Running.work` is the step of the worker;
    - `Running.step` is the step that belongs to a move, with the signals that
      it gives. -/

namespace SqlShell

/-! ## The parties -/

/-- How the work on a stream ends. -/
inductive Verdict where
  | complete
  /-- The engine has reported a failure. -/
  | failed (e : EngineFailure)
  /-- The engine has broken down. -/
  | crashed (c : Crash)
  | cancelled
deriving DecidableEq, Repr

/-- **What goes through the channel.** -/
inductive Item where
  | batch (b : Batch)
  /-- The worker is done; nothing follows. -/
  | finished (v : Verdict)

/-- **Where the worker stands.** -/
inductive Worker where
  /-- It is about to ask the stream for a batch. -/
  | pulling
  /-- It has a batch and is about to look at the flag. -/
  | holding (b : Batch)
  /-- It is about to put a batch into the channel. -/
  | putting (b : Batch)
  /-- The channel had no room for the batch; it is about to look at the flag. -/
  | refused (b : Batch)
  /-- It is about to close the stream. -/
  | closing (v : Verdict)
  /-- It is about to tell how the work has ended. -/
  | reporting (v : Verdict)
  /-- It has told so and returned. -/
  | returned

/-- **Where the control stands.** -/
inductive Control where
  /-- It waits for an item. -/
  | waiting
  /-- It is about to check the time, with the item that has come, if any. -/
  | timing (item : Option Item)
  /-- It is about to look at the flag. -/
  | observing (item : Option Item)
  /-- It is about to deal with the item. -/
  | handling (item : Option Item)
  /-- It has handed a batch to the consumer. -/
  | yielded
  /-- It has been closed early and waits for the worker to finish. -/
  | draining
  /-- It has ended. -/
  | finished

/-- What is known about a query when its execution has ended. -/
structure QueryReport where
  statement : Text
  /-- The query was told to stop. -/
  cancelled : Bool
  /-- The stream was closed. -/
  closed : Bool
deriving DecidableEq, Repr

/-- **The state of a running statement.** -/
structure Running (τ : Type) where
  statement : Text
  /-- How many items the channel can hold. -/
  capacity : Nat
  /-- The time limit. -/
  limit : Option τ
  /-- When the statement was begun. -/
  start : τ
  flag : Cancellation
  /-- What the engine has still to give. -/
  stream : ResultStream
  worker : Worker := .pulling
  /-- The items in the channel, the first to come out in front. -/
  channel : List Item := []
  control : Control := .waiting
  /-- The number of rows handed to the consumer. -/
  rows : Nat := 0
  /-- The control has seen the flag raised. -/
  observed : Bool := false
  /-- How often the query was told to stop. -/
  stops : Nat := 0
  /-- The stream has been closed. -/
  closed : Bool := false
  /-- What the closing of the stream has broken down with, if it has. -/
  closeFault : Option Crash := none

/-- **What the outside can see of a step.** -/
inductive Signal (τ : Type) where
  /-- The consumer gets an event. -/
  | event (e : Event τ)
  /-- A statement is offered to the engine. -/
  | offered (statement : Text)
  /-- The engine has taken the statement. -/
  | submitted (statement : Text)
  /-- The engine has broken down over the statement. -/
  | broken
  /-- The control has seen the flag raised. -/
  | cancelling (reason : Text)
  /-- The statement has failed. -/
  | failed (e : EngineFailure)
  /-- The statement has succeeded. -/
  | succeeded (rows : Nat) (elapsed : τ)
  /-- The execution has ended. -/
  | closed (report : QueryReport)

/-- **The moves.** -/
inductive Move (τ : Type) where
  /-- The worker takes its next step. -/
  | work
  /-- The same; if the step is to close the stream, the stream breaks down over it. -/
  | workBreaking (c : Crash)
  /-- The engine, once told to stop, goes on in another way than it would have. -/
  | swerve (batches : List Batch) (ending : Ending)
  /-- Some party raises the flag. -/
  | cancel (reason : Text)
  /-- The control takes an item out of the channel. -/
  | take
  /-- The control has waited for a while and got no item. -/
  | empty
  /-- The user interrupts the control while it waits. -/
  | interrupt
  /-- The control checks the time. -/
  | checkTime (now : τ)
  /-- The control looks at the flag. -/
  | observe
  /-- The control deals with the item; the time counts if it is the last one. -/
  | handle (now : τ)
  /-- The consumer asks for the next event. -/
  | resume
  /-- The consumer stops. -/
  | close

namespace Running

variable {τ : Type}

/-! ## The worker -/

/-- The channel has room. -/
def hasRoom (r : Running τ) : Bool := r.channel.length < r.capacity

/-- How the work ends behind the last batch; `none` while the engine goes on
    without one. -/
def verdict? (r : Running τ) : Option Verdict :=
  match r.stream.ending with
  | .complete => some .complete
  | .failed e => some (.failed e)
  | .crashed c => some (.crashed c)
  | .cancelled => some .cancelled
  | .blocked => if 0 < r.stops then some .cancelled else none

/-- **The step of the worker.**  It gives up when the flag is raised, before it
    puts a batch and whenever the channel has no room; how the work has ended
    it reports as soon as there is room. -/
def work (r : Running τ) : Running τ :=
  match r.worker with
  | .pulling =>
    match r.stream.batches with
    | b :: rest => { r with worker := .holding b, stream := { r.stream with batches := rest } }
    | [] =>
      match r.verdict? with
      | some v => { r with worker := .closing v }
      | none => r
  | .holding b => { r with worker := if r.flag.isRaised then .closing .cancelled else .putting b }
  | .putting b =>
    if r.hasRoom then { r with channel := r.channel ++ [.batch b], worker := .pulling }
    else { r with worker := .refused b }
  | .refused b => { r with worker := if r.flag.isRaised then .closing .cancelled else .putting b }
  | .closing v => { r with closed := r.stream.closable, worker := .reporting v }
  | .reporting v =>
    if r.hasRoom then { r with channel := r.channel ++ [.finished v], worker := .returned } else r
  | .returned => r

/-- The step of the worker, with a breakdown of the stream if it is closed in
    this step.  The breakdown is noted, and nothing else comes of it. -/
def workBreaking (c : Crash) (r : Running τ) : Running τ :=
  match r.worker with
  | .closing _ => { r.work with closeFault := some c }
  | _ => r.work

/-- The engine gives other batches, and ends in another way, than it would have
    without having been told to stop; until then it goes on as before. -/
def swerve (batches : List Batch) (ending : Ending) (r : Running τ) : Running τ :=
  if 0 < r.stops then { r with stream := { r.stream with batches, ending } } else r

/-! ## The control -/

/-- Raises the flag. -/
def raise (reason : Text) (r : Running τ) : Running τ := { r with flag := r.flag.raise reason }

/-- Where the control goes with an item, or without one. -/
def received (item : Option Item) (r : Running τ) : Running τ :=
  match r.control, item with
  | .waiting, _ => { r with control := .timing item }
  | .draining, some (.finished _) => { r with control := .finished }
  | _, _ => r

/-- What is known about the query. -/
def report (r : Running τ) : QueryReport := ⟨r.statement, 0 < r.stops, r.closed⟩

/-- What shows of an item when it comes out of the channel: a breakdown of the
    engine. -/
def Item.signals : Item → List (Signal τ)
  | .finished (.crashed _) => [.broken]
  | _ => []

/-- The control waits for an item. -/
def isWaiting (r : Running τ) : Bool :=
  match r.control with
  | .waiting | .draining => true
  | _ => false

/-- The end of the execution shows as a report. -/
def closing (before after : Running τ) : Running τ × List (Signal τ) :=
  match before.control, after.control with
  | .draining, .finished => (after, [.closed after.report])
  | _, _ => (after, [])

/-- **The outcome** of a statement whose work has ended with a verdict.  A
    raised flag goes before everything else. -/
def outcome (r : Running τ) (v : Verdict) (elapsed : τ) : Outcome τ :=
  if r.flag.isRaised then .cancelled (r.flag.reasonOr interruptReason) elapsed
  else match v with
    | .cancelled => .cancelled (r.flag.reasonOr interruptReason) elapsed
    | .failed e => .failure e elapsed
    | .crashed c => .failure c.failure elapsed
    | .complete => .success r.rows elapsed

/-- What an outcome has to tell besides being an event. -/
def Outcome.signals (rows : Nat) : Outcome τ → List (Signal τ)
  | .success _ elapsed => [.succeeded rows elapsed]
  | .failure e _ => [.failed e]
  | .cancelled _ _ => []

/-- The control gives the statement up: it raises the flag, tells the query to
    stop if it has not done so yet, and waits for the worker to finish. -/
def abandon (r : Running τ) : Running τ :=
  let r := r.raise (r.flag.reasonOr abandonedReason)
  { r with control := .draining, stops := if r.observed then r.stops else r.stops + 1 }

variable [Timescale τ]

/-- The limit is exceeded, and nobody has raised the flag yet. -/
def isOverdue (r : Running τ) (now : τ) : Bool :=
  match r.limit with
  | none => false
  | some limit => !r.flag.isRaised && Timescale.exceeds (Timescale.since now r.start) limit

/-- The control deals with an item.  Batches are dropped when the flag is
    raised, and the last item brings the outcome. -/
def handle (r : Running τ) (now : τ) : Option Item → Running τ × List (Signal τ)
  | none => ({ r with control := .waiting }, [])
  | some (.finished v) =>
    let outcome := r.outcome v (Timescale.since now r.start)
    let r := { r with control := .finished }
    (r, .closed r.report :: Outcome.signals r.rows outcome ++ [.event (.completed outcome)])
  | some (.batch b) =>
    if r.flag.isRaised then ({ r with control := .waiting }, [])
    else ({ r with control := .yielded, rows := r.rows + b.rows.length }, [.event (.batch b)])

/-- **One step** of the party whose move it is; a move that does not fit where
    the control stands changes nothing. -/
def step (r : Running τ) : Move τ → Running τ × List (Signal τ)
  | .work => (r.work, [])
  | .workBreaking c => (r.workBreaking c, [])
  | .swerve batches ending => (r.swerve batches ending, [])
  | .cancel reason => (r.raise reason, [])
  | .take =>
    if r.isWaiting then
      match r.channel with
      | [] => (r, [])
      | item :: rest =>
        let (after, signals) := closing r ({ r with channel := rest }.received (some item))
        (after, Item.signals item ++ signals)
    else (r, [])
  | .empty => (r.received none, [])
  | .interrupt =>
    match r.control with
    | .waiting => ((r.raise interruptReason).received none, [])
    | _ => (r, [])
  | .checkTime now =>
    match r.control with
    | .timing item =>
      let r := if r.isOverdue now then r.raise timeoutReason else r
      ({ r with control := .observing item }, [])
    | _ => (r, [])
  | .observe =>
    match r.control with
    | .observing item =>
      if r.flag.isRaised && !r.observed then
        ({ r with control := .handling item, observed := true, stops := r.stops + 1 },
          [.cancelling (r.flag.reason.getD [])])
      else ({ r with control := .handling item }, [])
    | _ => (r, [])
  | .handle now =>
    match r.control with
    | .handling item => r.handle now item
    | _ => (r, [])
  | .resume =>
    match r.control with
    | .yielded => ({ r with control := .waiting }, [])
    | _ => (r, [])
  | .close =>
    match r.control with
    | .yielded => (r.abandon, [])
    | _ => (r, [])

/-- All moves of a list, one after the other. -/
def steps (r : Running τ) : List (Move τ) → Running τ × List (Signal τ)
  | [] => (r, [])
  | m :: ms =>
    let (r, signals) := r.step m
    let (r, more) := r.steps ms
    (r, signals ++ more)

end Running

end SqlShell
