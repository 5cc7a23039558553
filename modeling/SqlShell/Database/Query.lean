import SqlShell.Database.Fault
import SqlShell.Execution.Cancellation

/-! # Queries

    A statement is executed by the database when its result is first asked for.
    The rows are then fetched a batch at a time through a cursor.

    - `Cursor.fetch` is what the database does;
    - `Query.next` is the next step of a query, which can be told to stop
      between two steps;
    - `Query.stream` is the whole result of a query that is left alone. -/

namespace SqlShell

/-! ## Cursors -/

/-- **A cursor**: the rows not yet fetched. -/
structure Cursor where
  /-- The columns, if the statement has a result. -/
  columns : Option Schema
  rows : List Row
  /-- How many fetches there have been. -/
  fetches : Nat := 0
  /-- The fetch that fails, if one does. -/
  fault : Option (Nat × DatabaseFault) := none
  /-- Whether a fetch behind the last row waits to be told to stop. -/
  blocks : Bool := false

/-- What a fetch gives. -/
inductive Fetched where
  | rows (rs : List Row) (rest : Cursor)
  | fault (f : DatabaseFault)
  | blocked

/-- **Fetches** at most `size` rows. -/
def Cursor.fetch (size : Nat) (c : Cursor) : Fetched :=
  let rest := { c with rows := c.rows.drop size, fetches := c.fetches + 1 }
  match c.fault with
  | some (n, f) =>
    if n = c.fetches then .fault f
    else if c.blocks && c.rows.isEmpty then .blocked
    else .rows (c.rows.take size) rest
  | none =>
    if c.blocks && c.rows.isEmpty then .blocked else .rows (c.rows.take size) rest

/-! ## Queries -/

/-- Where a query stands. -/
inductive QueryState where
  /-- The database has not seen the statement. -/
  | ready
  /-- Rows are being fetched; `first` until some have come. -/
  | fetching (schema : Schema) (cursor : Cursor) (first : Bool)
  /-- There is nothing more to come. -/
  | done

/-- **A query.** -/
structure Query where
  statement : Text
  /-- How many rows make a batch. -/
  batchSize : Nat
  /-- The query has been told to stop. -/
  stopped : Bool := false
  state : QueryState := .ready

/-- What a step of a query gives. -/
inductive Pull where
  | batch (b : Batch)
  /-- There are no more batches, for this reason. -/
  | ended (why : Ending)

/-- The answer of a database to a statement. -/
abbrev Answer := Except DatabaseFault Cursor

namespace Query

/-- Fetches the next batch.  A result without rows has one batch all the same,
    so that its columns are known. -/
def fetchNext (size : Nat) (schema : Schema) (cursor : Cursor) (first : Bool) :
    Pull × QueryState :=
  match cursor.fetch size with
  | .fault f => (.ended f.ending, .done)
  | .blocked => (.ended .blocked, .done)
  | .rows [] _ =>
    if first then (.batch ⟨schema, []⟩, .done) else (.ended .complete, .done)
  | .rows (r :: rs) rest => (.batch ⟨schema, r :: rs⟩, .fetching schema rest false)

/-- **The next step of a query.**  One that has been told to stop asks the
    database for nothing more. -/
def next (database : Text → Answer) (q : Query) : Pull × Query :=
  let step : Pull × QueryState :=
    match q.state with
    | .done => (.ended .complete, .done)
    | .ready =>
      -- A query that is stopped before its first step is never seen by the database.
      if q.stopped then (.ended .cancelled, .done)
      else match database q.statement with
        | .error f => (.ended f.ending, .done)
        | .ok cursor =>
          match cursor.columns with
          | none | some [] => (.ended .complete, .done)
          | some schema => fetchNext q.batchSize schema cursor true
    | .fetching schema cursor first =>
      if q.stopped then (.ended .cancelled, .done)
      else fetchNext q.batchSize schema cursor first
  (step.1, { q with state := step.2 })

/-- Tells a query to stop. -/
def stop (q : Query) : Query := { q with stopped := true }

/-! ## Whole results -/

/-- All batches that can still be fetched, and how they end. -/
def fetchAll (size : Nat) (schema : Schema) : Nat → Cursor → List Batch × Ending
  | 0, _ => ([], .complete)
  | fuel + 1, cursor =>
    match cursor.fetch size with
    | .fault f => ([], f.ending)
    | .blocked => ([], .blocked)
    | .rows [] _ => ([], .complete)
    | .rows (r :: rs) rest =>
      let (batches, ending) := fetchAll size schema fuel rest
      (⟨schema, r :: rs⟩ :: batches, ending)

/-- **The stream of a query** that is left alone. -/
def stream (database : Text → Answer) (statement : Text) (size : Nat) : ResultStream :=
  match database statement with
  | .error f => ⟨[], f.ending, true⟩
  | .ok cursor =>
    match cursor.columns with
    | none | some [] => ⟨[], .complete, true⟩
    | some schema =>
      -- Each fetch that gives rows takes at least one of them.
      match fetchAll size schema (cursor.rows.length + 1) cursor with
      | ([], .complete) => ⟨[⟨schema, []⟩], .complete, true⟩
      | (batches, ending) => ⟨batches, ending, true⟩

end Query

end SqlShell
