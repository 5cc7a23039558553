import SqlShell.Execution.Running

/-! # Attending to a Running Statement

    The control does not choose when the clock advances, what the user does
    while it waits, and how far the worker gets in between.  All this is in the
    `Surroundings`; with them the control goes on by itself, move by move,
    until it has an event for the consumer or has ended. -/

namespace SqlShell

/-- **What happens while the control waits for an item.** -/
inductive Wait where
  /-- It gets the next item. -/
  | item
  /-- The wait ends without one. -/
  | empty
  /-- The user interrupts. -/
  | interrupt
deriving DecidableEq, Repr

/-- **What another party does** between two moves of the control. -/
inductive Interlude where
  /-- The worker takes a step. -/
  | work
  /-- The same, with a breakdown of the stream if it is closed in this step. -/
  | workBreaking (c : Crash)
  /-- The engine, once told to stop, goes on in another way. -/
  | swerve (batches : List Batch) (ending : Ending)
  /-- Someone raises the flag. -/
  | cancel (reason : Text)

/-- The move of an interlude. -/
def Interlude.move {τ : Type} : Interlude → Move τ
  | .work => .work
  | .workBreaking c => .workBreaking c
  | .swerve batches ending => .swerve batches ending
  | .cancel reason => .cancel reason

/-- **The surroundings of an execution.** -/
structure Surroundings (τ : Type) where
  /-- What the clock shows at each reading. -/
  reading : Nat → τ
  /-- How often it has been read. -/
  readings : Nat := 0
  /-- What happens at the next waits; afterwards each of them gets an item. -/
  waits : List Wait := []
  /-- What the other parties do before each move of the control. -/
  interludes : Nat → List Interlude := fun _ => []
  /-- How many moves the control has made. -/
  moves : Nat := 0
  /-- How many fruitless waits one event may cost while nobody has told the query
      to stop.  Behind them a statement that is kept waiting counts as stalled,
      also where a cancellation or the limit would still come later. -/
  patience : Nat := 0
  /-- The time that a statement may take. -/
  limit : Option τ := none
  /-- Why no time can be compared with the limit, if none can. -/
  limitFault : Option Crash := none
  /-- How many batches may wait in the channel; a number below one means one. -/
  queueSize : Int := 4

namespace Surroundings

variable {τ : Type}

/-- What the clock shows. -/
def now (s : Surroundings τ) : τ := s.reading s.readings

/-- The surroundings after the clock has been read. -/
def tick (s : Surroundings τ) : Surroundings τ := { s with readings := s.readings + 1 }

/-- The room in a channel. -/
def capacity (s : Surroundings τ) : Nat := (max 1 s.queueSize).toNat

/-- **The state in which a statement begins** that the engine has taken. -/
def begun (s : Surroundings τ) (statement : Text) (c : Cancellation) (stream : ResultStream) :
    Running τ :=
  { statement, capacity := s.capacity, limit := s.limit, start := s.now, flag := c, stream }

end Surroundings

namespace Running

variable {τ : Type} [Timescale τ]

/-- The other parties do what they do before the next move of the control. -/
def interlude (s : Surroundings τ) (r : Running τ) : Surroundings τ × Running τ :=
  ({ s with moves := s.moves + 1 },
    (r.steps ((s.interludes s.moves).map Interlude.move)).1)

/-- The worker goes on until there is an item in the channel or it can do
    nothing more; it gets at most `fuel` steps. -/
def workAhead : Nat → Running τ → Running τ
  | 0, r => r
  | fuel + 1, r => if r.channel.isEmpty then workAhead fuel r.work else r

/-- With an empty channel, the worker needs at most so many steps for an item. -/
def stepsToItem : Nat := 5

/-- **A wait** of the control.  While the engine is blocked, and at an empty
    channel, a wait for an item ends without one. -/
def wait (s : Surroundings τ) (r : Running τ) :
    Surroundings τ × Running τ × List (Signal τ) :=
  let (first, waits) :=
    match s.waits with
    | [] => (Wait.item, [])
    | w :: rest => (w, rest)
  let s := { s with waits }
  match first with
  | .item =>
    -- The wait is as long as it takes, so the worker is given the time it needs.
    let r := workAhead stepsToItem r
    (s, if r.channel.isEmpty then r.step .empty else r.step .take)
  | .empty => (s, r.step .empty)
  | .interrupt => (s, r.step .interrupt)

/-- **The next move of the control.**  It reads the clock only where the time
    counts: while there is a limit and the flag is not raised, and at the end. -/
def advance (s : Surroundings τ) (r : Running τ) :
    Surroundings τ × Running τ × List (Signal τ) :=
  let (s, r) := interlude s r
  match r.control with
  | .waiting | .draining => wait s r
  | .timing _ =>
    let timed := r.limit.isSome && !r.flag.isRaised
    (if timed then s.tick else s, r.step (.checkTime s.now))
  | .observing _ => (s, r.step .observe)
  | .handling (some (.finished _)) => (s.tick, r.step (.handle s.now))
  | .handling _ => (s, r.step (.handle s.now))
  -- Here it is the move of the consumer.
  | .yielded | .finished => (s, r, [])

/-- What breaks the control down when it checks the time. -/
def checkFault? (s : Surroundings τ) (r : Running τ) : Option Crash :=
  match r.control with
  | .timing _ => if r.flag.isRaised then none else s.limitFault
  | _ => none

/-- The consumer has to be asked before the control goes on. -/
def isAtRest (r : Running τ) : Bool :=
  match r.control with
  | .yielded | .finished => true
  | _ => false

/-- Enough moves to pass over every item that can still come, every wait that
    is laid down, and as many fruitless waits as the surroundings bear. -/
def enoughMoves (s : Surroundings τ) (r : Running τ) : Nat :=
  4 * (s.patience + s.waits.length + r.stream.batches.length + r.channel.length + 4)

end Running

end SqlShell
