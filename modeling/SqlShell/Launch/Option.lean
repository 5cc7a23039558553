import SqlShell.Given
import SqlShell.Number.Binary64.Reader
import SqlShell.Text.Quoted

/-! # Options of the Command Line

    The options that the program knows, how each is written, and what the
    program is told by them. -/

namespace SqlShell

/-! ## The options -/

/-- The options. -/
inductive OptionName where
  | help
  | data
  | format
  | command
  | file
  | quiet
  | batchSize
  | memoryLimit
  | threads
  | readOnly
  | maxWidth
  | null
  | lookahead
  | timeout
  | historyFile
  | noHistory
  | failOnError
  | logFile
  | debug
deriving DecidableEq, Repr

namespace OptionName

/-- The ways to write an option, a short one before a long one. -/
def flags : OptionName → List String
  | help => ["-h", "--help"]
  | data => ["--data"]
  | format => ["--format"]
  | command => ["-c", "--command"]
  | file => ["-f", "--file"]
  | quiet => ["-q", "--quiet"]
  | batchSize => ["--batch-size"]
  | memoryLimit => ["--memory-limit"]
  | threads => ["--threads"]
  | readOnly => ["--read-only"]
  | maxWidth => ["--max-width"]
  | null => ["--null"]
  | lookahead => ["--lookahead"]
  | timeout => ["--timeout"]
  | historyFile => ["--history-file"]
  | noHistory => ["--no-history"]
  | failOnError => ["--fail-on-error"]
  | logFile => ["--log-file"]
  | debug => ["--debug"]

/-- All options. -/
def all : List OptionName :=
  [help, data, format, command, file, quiet, batchSize, memoryLimit, threads, readOnly, maxWidth,
   null, lookahead, timeout, historyFile, noHistory, failOnError, logFile, debug]

/-- The option takes a value. -/
def takesValue : OptionName → Bool
  | help | quiet | readOnly | noHistory | failOnError | debug => false
  | _ => true

/-- An option with all the ways to write it. -/
def label (o : OptionName) : Text := Text.joinWith ['/'] (o.flags.map String.toList)

/-- Every way to write an option, with the option. -/
def table : List (Text × OptionName) := all.flatMap fun o => o.flags.map fun f => (f.toList, o)

/-- The option that is written in exactly this way. -/
def ofFlag? (flag : Text) : Option OptionName := table.lookup flag

end OptionName

/-! ## What the program is told -/

/-- **The choices of a command line.** -/
structure Choices where
  data : Given Text := some ":memory:".toList
  format : Given Text := some "table".toList
  commands : List (Given Text) := []
  files : List (Given Text) := []
  quiet : Bool := false
  batchSize : Given Int := some 8192
  memoryLimit : Option Text := none
  threads : Option Int := none
  readOnly : Bool := false
  maxWidth : Given Int := some 40
  null : Given Text := some "NULL".toList
  lookahead : Given Int := some 1000
  timeout : Option (Given Binary64) := none
  historyFile : Option Text := none
  noHistory : Bool := false
  failOnError : Bool := false
  logFile : Option Text := none
  debug : Bool := false
deriving DecidableEq, Repr

/-- Why a command line is not obeyed. -/
inductive Refusal where
  /-- Help is asked for instead. -/
  | help
  /-- The command line makes no sense. -/
  | usage (message : Text)
deriving DecidableEq, Repr

/-- A complaint about an option. -/
def Refusal.about (o : OptionName) (complaint : Text) : Refusal :=
  .usage ("argument ".toList ++ o.label ++ ": ".toList ++ complaint)

/-- The refusal of a value that is no number of the wanted kind. -/
def Refusal.invalid (o : OptionName) (kind : String) (value : Text) : Refusal :=
  .about o (("invalid " ++ kind ++ " value: ").toList ++ Text.quoted value)

namespace Choices

/-- Reads what an option is given, if it is given anything. -/
def number {α : Type} (o : OptionName) (kind : String) (read : Text → Option α) :
    Given Text → Except Refusal (Given α)
  | none => .ok none
  | some value =>
    match read value with
    | some n => .ok (some n)
    | none => .error (.invalid o kind value)

/-- Reads an integer. -/
def integer (o : OptionName) : Given Text → Except Refusal (Given Int) :=
  number o "int" readInteger

/-- **Takes an option into account**; `value` is what it is given.  Of an option
    used again the last value counts, but commands and files add up. -/
def give (c : Choices) (o : OptionName) (value : Given Text) : Except Refusal Choices :=
  match o with
  | .help => .error .help
  | .data => .ok { c with data := value }
  | .format => .ok { c with format := value }
  | .command => .ok { c with commands := c.commands ++ [value] }
  | .file => .ok { c with files := c.files ++ [value] }
  | .quiet => .ok { c with quiet := true }
  | .batchSize => (integer o value).map fun n => { c with batchSize := n }
  | .memoryLimit => .ok { c with memoryLimit := value }
  | .threads => (integer o value).map fun n => { c with threads := n }
  | .readOnly => .ok { c with readOnly := true }
  | .maxWidth => (integer o value).map fun n => { c with maxWidth := n }
  | .null => .ok { c with null := value }
  | .lookahead => (integer o value).map fun n => { c with lookahead := n }
  | .timeout => (number o "float" Binary64.read? value).map fun x => { c with timeout := some x }
  | .historyFile => .ok { c with historyFile := value }
  | .noHistory => .ok { c with noHistory := true }
  | .failOnError => .ok { c with failOnError := true }
  | .logFile => .ok { c with logFile := value }
  | .debug => .ok { c with debug := true }

end Choices

end SqlShell
