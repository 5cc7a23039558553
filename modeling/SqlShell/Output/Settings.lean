import SqlShell.Given
import SqlShell.Number.Binary64.Basic
import SqlShell.Value.Cell

/-! # Settings

    What a user can choose about a session. -/

namespace SqlShell

/-- **Settings of a session.** -/
structure Settings where
  /-- The greatest width of a table column. -/
  maxWidth : Int := 40
  /-- The text for missing values in tables. -/
  nullMarker : Given Text := some defaultNullMarker
  /-- How many rows a table keeps back to measure its columns; with none, the
      columns are as wide as their types ask for. -/
  lookaheadRows : Int := 1000
  /-- Whether the summary line is left out. -/
  quiet : Bool := false
  /-- Whether the summary line tells the time. -/
  timing : Bool := true
  /-- The time that a statement may take, in seconds. -/
  statementTimeout : Option Binary64 := none
  /-- How many batches of a result may wait to be written. -/
  queueSize : Int := 4
  /-- The file that keeps the statements of the session. -/
  historyFile : Option Text := none
deriving DecidableEq, Repr

/-- What asks for a statement. -/
def prompt : Text := "minisql> ".toList

/-- What asks for the rest of a statement. -/
def continuationPrompt : Text := "     -> ".toList

end SqlShell
