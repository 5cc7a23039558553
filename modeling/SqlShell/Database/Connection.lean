import SqlShell.Database.Query
import SqlShell.Given

/-! # Connections

    How the database is opened, and the engine that an open database is. -/

namespace SqlShell

/-- **How a database is opened.** -/
structure ConnectionOptions where
  /-- The file of the database, or the word for one in memory. -/
  database : Given Text := some ":memory:".toList
  /-- How many rows make a batch. -/
  batchSize : Int := 8192
  /-- How much memory the database may use. -/
  memoryLimit : Option Text := none
  /-- How many threads the database may use. -/
  threads : Option Int := none
  /-- Whether the database may not be changed. -/
  readOnly : Bool := false
deriving DecidableEq, Repr

namespace ConnectionOptions

/-- The name of the database in notices. -/
def databaseName (o : ConnectionOptions) : Text := Given.shown o.database

/-- The number of threads that the database is told; none and zero are left to
    the database. -/
def threads? (o : ConnectionOptions) : Option Int :=
  match o.threads with
  | some 0 | none => none
  | some n => some n

/-- The memory limit that the database is told; an empty one is none. -/
def memoryLimit? (o : ConnectionOptions) : Option Text :=
  match o.memoryLimit with
  | some [] | none => none
  | some s => some s

end ConnectionOptions

/-- An open database. -/
abbrev Database := Text → Answer

/-- The failure of an operation on a connection that has been closed. -/
def Crash.connectionClosed (operation : String) : Crash := .noOperation "NoneType" operation

/-- A database that has been closed executes nothing. -/
def Database.closed : Database := fun _ => .error (.crash (.connectionClosed "execute"))

/-- Why a database is not opened. -/
inductive OpenFailure where
  /-- It cannot be: this is reported to the user. -/
  | startup (e : EngineFailure)
  /-- Something breaks down. -/
  | crash (c : Crash)

/-- **What a fault at the opening means.**  Faults of the database and of the
    system, and options without sense, are failures to start up. -/
def DatabaseFault.atOpening (f : DatabaseFault) : OpenFailure :=
  let startup := OpenFailure.startup { message := f.message, stage := .startup }
  match f with
  | .reported _ _ => startup
  | .crash c =>
    match c.kind with
    | .system | .brokenPipe | .badValue | .undecodable => startup
    | _ => .crash c

/-- The engine that an open database is. -/
def Engine.ofDatabase (o : ConnectionOptions) (d : Database) : Engine where
  submit _ statement := .accepted (Query.stream d statement o.batchSize.toNat)
  logsClosing := true

end SqlShell
