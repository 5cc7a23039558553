import SqlShell.Output.Format
import SqlShell.Output.Settings
import SqlShell.Session.Notice

/-! # Sessions

    What a session remembers from one statement to the next, and the file in
    which it keeps its statements for later sessions. -/

namespace SqlShell

/-- **The state of a session.** -/
structure Session where
  /-- The format of the results. -/
  format : ResultFormat := .table
  settings : Settings := {}
  /-- The statements of the session, the first one in front. -/
  history : List Text := []
  /-- How many of them have been saved. -/
  saved : Nat := 0
  /-- The session has not been left. -/
  running : Bool := true
deriving DecidableEq, Repr

/-- **The history file.** -/
structure HistoryFile where
  /-- Its content, if there is such a file. -/
  content : Option Text := none
  /-- How often somebody has tried to add a text to it. -/
  attempts : Nat := 0
  /-- Whether an attempt to add a text to it fails, and why. -/
  fault : Nat → Option FileFault := fun _ => none

namespace Session

/-- Remembers a statement. -/
def record (statement : Text) (s : Session) : Session :=
  { s with history := s.history ++ [statement] }

/-- The line of a statement in the history file: line ends become blanks. -/
def historyLine (statement : Text) : Text :=
  Text.substitute '\n' [' '] (Text.substitute '\r' [' '] statement) ++ ";\n".toList

/-- The statements that have not been saved. -/
def unsaved (s : Session) : List Text := s.history.drop s.saved

/-- The session with all its statements saved. -/
def allSaved (s : Session) : Session := { s with saved := s.history.length }

/-- The path of the history file, if the statements are to be saved. -/
def historyPath? (s : Session) : Option Text :=
  match s.settings.historyFile with
  | none | some [] => none
  | some path => some path

/-- What an attempt to save statements has done. -/
structure SaveResult where
  session : Session
  file : HistoryFile
  /-- How many statements were written. -/
  written : Nat := 0
  /-- The text that was written. -/
  text : Text := []
  /-- Why they could not be written. -/
  fault : Option (Text × FileFault) := none

/-- **Saves the statements** that have not been saved, at the end of the file.
    If the file cannot be used they stay to be saved, and if no file is wanted
    they count as saved. -/
def saveHistory (s : Session) (file : HistoryFile) : SaveResult :=
  match s.unsaved, s.historyPath? with
  | first :: others, some path =>
    let tried := { file with attempts := file.attempts + 1 }
    match file.fault file.attempts with
    | some f => { session := s, file := tried, fault := some (path, f) }
    | none =>
      let text := (first :: others).flatMap historyLine
      { session := s.allSaved
        file := { tried with content := some (file.content.getD [] ++ text) }
        written := (first :: others).length
        text }
  | _, _ => { session := s.allSaved, file }

end Session

end SqlShell
