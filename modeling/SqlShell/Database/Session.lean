import SqlShell.Database.Connection
import SqlShell.Session.Notice

/-! # Database Sessions

    A session holds the connection to a database until it is closed.

    - `DatabaseSession.submit` makes a query of a statement;
    - `DatabaseSession.stop` tells a query to stop;
    - `DatabaseSession.close` closes the session, once. -/

namespace SqlShell

/-- **A session of a database.** -/
structure DatabaseSession where
  /-- The open database, until the session is closed. -/
  connection : Option Database
  /-- How many rows make a batch. -/
  batchSize : Nat

namespace DatabaseSession

/-- The session on a database that has been opened. -/
def opened (o : ConnectionOptions) (d : Database) : DatabaseSession where
  connection := some d
  batchSize := o.batchSize.toNat

/-- The session has not been closed. -/
def isOpen (s : DatabaseSession) : Bool := s.connection.isSome

/-- What the queries are executed by. -/
def database (s : DatabaseSession) : Database := s.connection.getD .closed

/-- The query of a statement, which the database has not seen yet. -/
def submit (s : DatabaseSession) (statement : Text) : Query :=
  { statement, batchSize := s.batchSize }

/-- **Tells a query to stop**, and then the database, which may meet with a fault.
    What the database reports is only noted; anything else breaks down, as it
    does without a connection. -/
def stop (s : DatabaseSession) (fault : Option DatabaseFault) (q : Query) :
    Query × Except Crash (List Notice) :=
  -- The query knows of it whatever becomes of the database.
  (q.stop,
    match s.connection, fault with
    | none, _ => .error (.connectionClosed "interrupt")
    | some _, none => .ok []
    | some _, some (.reported _ message) => .ok [.stopFailed message]
    | some _, some (.crash c) => .error c)

/-- **Closes the session**, with the notices of it.  A session that has been closed
    stays as it is. -/
def close (s : DatabaseSession) : DatabaseSession × List Notice :=
  match s.connection with
  | some _ => ({ s with connection := none }, [.engineClosed])
  | none => (s, [])

end DatabaseSession

end SqlShell
