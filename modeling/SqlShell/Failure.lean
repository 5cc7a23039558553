import SqlShell.Text.LetterCase
import SqlShell.Text.Quoted

/-! # Failures

    What can go wrong with one statement or command, each cause with the words
    in which the shell reports it:

    - `Unterminated`: the input ends inside a quote or a comment;
    - `CommandError`: a command is unknown or used in the wrong way;
    - `EngineFailure`: the engine refuses or abandons a statement;
    - a cancellation, by the user or by the time limit;
    - `Crash`: a defect, or a failure that none of these covers;
    - `WriteFault`: the output cannot be written, which ends the session. -/

namespace SqlShell

/-! ## Unfinished input -/

/-- The input has ended in the scanner state called `state`; `text` is what
    was read of the unfinished statement. -/
structure Unterminated where
  state : Text
  text : Text := []
deriving DecidableEq, Repr

/-- What is left open in a scanner state. -/
def Unterminated.construct (e : Unterminated) : Text :=
  if e.state = "IN_SINGLE_QUOTE".toList then "single-quoted string".toList
  else if e.state = "IN_DOUBLE_QUOTE".toList then "double-quoted identifier".toList
  else if e.state = "IN_BLOCK_COMMENT".toList then "block comment".toList
  else Text.lower e.state

/-- The message for unfinished input. -/
def Unterminated.message (e : Unterminated) : Text :=
  "unterminated ".toList ++ e.construct ++ " at end of input".toList

/-! ## Commands -/

/-- Why a command is refused. -/
inductive CommandError where
  /-- There is no command of this name. -/
  | unknownCommand (name : Text)
  /-- The command is used in another way than this. -/
  | usage (form : Text)
  /-- There is no output format of this name. -/
  | unknownFormat (name : Text)
  /-- Table cells cannot be that narrow. -/
  | widthTooSmall
deriving DecidableEq, Repr

/-- The message for a refused command. -/
def CommandError.message : CommandError → Text
  | .unknownCommand name => "unknown command: ".toList ++ name
  | .usage form => "usage: ".toList ++ form
  | .unknownFormat name =>
    "unknown format '".toList ++ name ++ "' (choose from: table, csv, tsv, json)".toList
  | .widthTooSmall => "max width must be at least 4".toList

/-! ## The engine -/

/-- The stage at which the engine gives a statement up. -/
inductive Stage where
  | parse
  | planning
  | execution
  | startup
deriving DecidableEq, Repr

/-- The stage in words. -/
def Stage.label : Stage → Text
  | .parse => "Parse error".toList
  | .planning => "Planning error".toList
  | .execution => "Execution error".toList
  | .startup => "Startup error".toList

/-- A failure that the engine reports. -/
structure EngineFailure where
  message : Text
  stage : Stage := .execution
deriving DecidableEq, Repr

/-- The failure with its stage in front. -/
def EngineFailure.describe (e : EngineFailure) : Text := e.stage.label ++ ": ".toList ++ e.message

/-- The message for a cancelled statement. -/
def cancellationMessage (reason : Text) : Text :=
  "query cancelled (".toList ++ reason ++ ")".toList

/-! ## Crashes -/

/-- The kinds of failure that are no error of the input or of a statement. -/
inductive CrashKind where
  | general
  | badValue
  | badType
  | badIndex
  | missingKey
  | divisionByZero
  | undecodable
  | system
  | brokenPipe
  | other (label : Text)
deriving DecidableEq, Repr

/-- The name under which a kind of failure is reported. -/
def CrashKind.label : CrashKind → Text
  | .general => "RuntimeError".toList
  | .badValue => "ValueError".toList
  | .badType => "TypeError".toList
  | .badIndex => "IndexError".toList
  | .missingKey => "KeyError".toList
  | .divisionByZero => "ZeroDivisionError".toList
  | .undecodable => "UnicodeDecodeError".toList
  | .system => "OSError".toList
  | .brokenPipe => "BrokenPipeError".toList
  | .other label => label

/-- The kinds of failure that have a name of their own. -/
def CrashKind.named : List CrashKind :=
  [.general, .badValue, .badType, .badIndex, .missingKey, .divisionByZero, .undecodable,
   .system, .brokenPipe]

/-- The kind of failure that is reported under a name. -/
def CrashKind.ofLabel (label : Text) : CrashKind :=
  (CrashKind.named.find? fun k => k.label = label).getD (.other label)

/-- A failure with the detail that was given with it. -/
structure Crash where
  kind : CrashKind
  detail : Text
deriving DecidableEq, Repr

/-- The detail in words; a missing key is shown as a literal. -/
def Crash.message (c : Crash) : Text :=
  match c.kind with
  | .missingKey => Text.quoted c.detail
  | _ => c.detail

/-- The failure with its name in front. -/
def Crash.describe (c : Crash) : Text := c.kind.label ++ ": ".toList ++ c.message

/-- A row has more cells than its table has columns. -/
def Crash.rowTooLong : Crash := ⟨.badIndex, "list index out of range".toList⟩

/-- What is of the kind `owner` has no such operation. -/
def Crash.noOperation (owner operation : String) : Crash :=
  ⟨.other "AttributeError".toList,
    ("'" ++ owner ++ "' object has no attribute '" ++ operation ++ "'").toList⟩

/-- It cannot be told whether something of one kind is greater than something
    of another. -/
def Crash.incomparable (kind other : String) : Crash :=
  ⟨.badType, ("'>' not supported between instances of '" ++ kind ++ "' and '" ++ other
    ++ "'").toList⟩

/-- No writer has this name. -/
def Crash.noSuchWriter (name : Text) : Crash :=
  ⟨.badValue, "unsupported output format: ".toList ++ name⟩

/-! ## Output -/

/-- Why a text could not be written. -/
inductive WriteFault where
  /-- Nobody reads the output any more. -/
  | brokenPipe
  /-- There is no room left. -/
  | noSpace
  /-- The output has been closed. -/
  | closed
deriving DecidableEq, Repr

/-- The message for a text that could not be written. -/
def WriteFault.message : WriteFault → Text
  | .brokenPipe => "[Errno 32] Broken pipe".toList
  | .noSpace => "[Errno 28] No space left on device".toList
  | .closed => "I/O operation on closed file.".toList

/-- The failure of a text written without any guard. -/
def WriteFault.crash (f : WriteFault) : Crash :=
  ⟨match f with
    | .brokenPipe => .brokenPipe
    | .noSpace => .system
    | .closed => .badValue, f.message⟩

end SqlShell
