import SqlShell.Database.Connection
import SqlShell.Session.Notice

/-! # The Console

    The two outputs of the program, either of which may fail, and a transcript
    of all that can be seen of a session, in the order in which it happens. -/

namespace SqlShell

/-! ## Outputs -/

/-- What keeps a text from being written. -/
inductive SinkFault where
  /-- The user interrupts the write. -/
  | interrupt
  /-- The output does not take the text. -/
  | fault (f : WriteFault)
deriving DecidableEq, Repr

/-- **An output.**  Its writes and its flushes are counted, and any of them may
    fail. -/
structure Sink where
  writes : Nat := 0
  flushes : Nat := 0
  /-- Whether the write of this number, counted from zero, fails. -/
  writeFault : Nat → Option SinkFault := fun _ => none
  /-- Whether the flush of this number, counted from zero, fails. -/
  flushFault : Nat → Option SinkFault := fun _ => none

/-! ## The transcript -/

/-- **What can be seen of a session.** -/
inductive Entry where
  /-- A line of input is asked for. -/
  | asked (prompt : Text)
  /-- A text is written. -/
  | written (c : Channel) (text : Text)
  /-- A text is not written. -/
  | unwritten (c : Channel) (f : SinkFault)
  /-- An output is not flushed. -/
  | unflushed (c : Channel) (f : SinkFault)
  /-- A notice is given; it is `echoed` if it shows on the error output. -/
  | noted (n : Notice) (echoed : Bool)
  /-- A statement is added to the history. -/
  | recorded (statement : Text)
  /-- A statement is offered to the engine. -/
  | offered (statement : Text)
  /-- The engine takes a statement. -/
  | submitted (statement : Text)
  /-- The execution of a statement has ended. -/
  | executed (report : QueryReport)
  /-- The statements are offered to the history file, which takes this text. -/
  | saved (text : Text)
  /-- A database is being opened. -/
  | connecting (o : ConnectionOptions)
  /-- The statements of earlier sessions are read. -/
  | historyRead (path : Text)
  /-- The engine is closed. -/
  | engineClosed
  /-- The input is closed. -/
  | inputClosed
deriving DecidableEq, Repr

/-- **The console.** -/
structure Console where
  out : Sink := {}
  err : Sink := {}
  /-- What has happened, the last entry in front. -/
  transcript : List Entry := []
  /-- Whether notices show on the error output. -/
  echoesNotices : Bool := false

namespace Console

/-- Adds an entry to the transcript. -/
def enter (e : Entry) (k : Console) : Console := { k with transcript := e :: k.transcript }

/-- An output. -/
def sink (k : Console) : Channel → Sink
  | .out => k.out
  | .err => k.err

/-- Puts an output in the place of another. -/
def setSink (c : Channel) (s : Sink) (k : Console) : Console :=
  match c with
  | .out => { k with out := s }
  | .err => { k with err := s }

/-- **Writes a text**, unless the output fails. -/
def put (c : Channel) (text : Text) (k : Console) : Option SinkFault × Console :=
  let s := k.sink c
  let counted := k.setSink c { s with writes := s.writes + 1 }
  match s.writeFault s.writes with
  | none => (none, counted.enter (.written c text))
  | some f => (some f, counted.enter (.unwritten c f))

/-- **Flushes an output**, unless it fails. -/
def flush (c : Channel) (k : Console) : Option SinkFault × Console :=
  let s := k.sink c
  let counted := k.setSink c { s with flushes := s.flushes + 1 }
  match s.flushFault s.flushes with
  | none => (none, counted)
  | some f => (some f, counted.enter (.unflushed c f))

/-- What is left of a fault at showing a notice.  The fault is complained of on
    the error output, and only an output that has been closed keeps even the
    complaint from being made; an interruption is no fault of the output.  The
    complaint is a write like any other, but no part of the transcript. -/
def complain (f : SinkFault) (k : Console) : Option SinkFault × Console :=
  match f with
  | .interrupt => (some .interrupt, k)
  | .fault _ =>
    let s := k.err
    let counted := { k with err := { s with writes := s.writes + 1 } }
    match s.writeFault s.writes with
    | some .interrupt => (some .interrupt, counted)
    | some (.fault .closed) => (some (.fault .closed), counted)
    | _ => (none, counted)

/-- **Gives a notice**, and tells what has come of it in its place.  If it is to
    show it is written to the error output, which is then flushed. -/
def note (n : Notice) (k : Console) : Option SinkFault × Console :=
  if k.echoesNotices then
    let s := k.err
    let counted := { k with err := { s with writes := s.writes + 1 } }
    match s.writeFault s.writes with
    -- The notice is given all the same, to those who keep a log.
    | some f => (counted.enter (.noted n false)).complain f
    | none =>
      match (counted.enter (.noted n true)).flush .err with
      | (some f, k) => k.complain f
      | (none, k) => (none, k)
  else (none, k.enter (.noted n false))

/-- What has happened, in order. -/
def entries (k : Console) : List Entry := k.transcript.reverse

end Console

/-- The line of a notice in a log: when it was given, its level and its text. -/
def Notice.logLine (time : Text) (n : Notice) : Text :=
  time ++ " [".toList ++ n.level.label ++ "] ".toList ++ n.text ++ ['\n']

/-- What an entry shows on an output, if it happens at `time`. -/
def Entry.shown (time : Text) (c : Channel) : Entry → Text
  | .written c' text => if c = c' then text else []
  | .noted n true => if c = .err then n.logLine time else []
  | _ => []

/-- What some entries show on an output. -/
def shownOn (time : Text) (c : Channel) (entries : List Entry) : Text :=
  entries.flatMap (Entry.shown time c)

end SqlShell
