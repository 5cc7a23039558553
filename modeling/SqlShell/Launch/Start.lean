import SqlShell.Launch.Help
import SqlShell.Launch.Script
import SqlShell.Session.Run

/-! # Starting the Program

    From the command line to the exit code: the log is set up, scripts are
    read, the database is opened, and a session runs on the scripts, on what a
    user enters, or on the standard input. -/

namespace SqlShell

/-! ## The place where the program runs -/

/-- **What the program finds.** -/
structure Workplace where
  /-- The files that it can come across. -/
  files : FileTree := {}
  /-- The path of the home directory. -/
  home : Text := ['.']
  /-- What comes from the standard input. -/
  input : List InputLine := []
  /-- The standard input is a terminal. -/
  isTerminal : Bool := false
  /-- The history file can be read. -/
  historyReadable : Bool := true
  /-- How many processors there are. -/
  processors : Int := 1
  /-- The kind of number that the clock shows. -/
  clockKind : String := "float"
  /-- How a database is opened. -/
  connect : ConnectionOptions → Except DatabaseFault Database

/-- **How the program ends.** -/
inductive ProgramEnd where
  /-- With the exit code of its session. -/
  | code (n : Nat)
  /-- With the exit code of a command line that was not obeyed. -/
  | refused (n : Nat)
deriving DecidableEq, Repr

/-- Whether what is left of the output is dropped at the end.  Once the output of
    the session has been lost, it goes to the null device, so that the end itself
    does not break down over it. -/
def ProgramEnd.dropsOutput : ProgramEnd → Bool
  | .code n => n = exitOutputLost
  | .refused _ => false

namespace Choices

/-- The path of the history file, if one is wanted. -/
def historyPath (c : Choices) (home : Text) : Option Text :=
  if c.noHistory then none
  else match c.historyFile with
    | none | some [] => some (home ++ "/.minisql_history".toList)
    | some path => some path

/-- What makes the settings impossible: a number with a bound is not given. -/
def fault? (c : Choices) : Option Crash :=
  if c.maxWidth.isNone || c.lookahead.isNone || c.batchSize.isNone then
    some (.incomparable "list" "int")
  else none

/-- The settings of the session. -/
def settings (c : Choices) (home : Text) : Settings where
  maxWidth := max 4 (c.maxWidth.getD 0)
  nullMarker := c.null
  lookaheadRows := max 0 (c.lookahead.getD 0)
  quiet := c.quiet
  statementTimeout := c.timeout.join
  historyFile := c.historyPath home

/-- How the database is to be opened. -/
def connection (c : Choices) (processors : Int) : ConnectionOptions where
  database := c.data
  batchSize := max 1 (c.batchSize.getD 0)
  memoryLimit := c.memoryLimit
  threads :=
    match c.threads with
    | none | some 0 => some processors
    | some n => some n
  readOnly := c.readOnly

/-- The path of the log file, if one is wanted. -/
def logPath (c : Choices) : Option Text :=
  match c.logFile with
  | none | some [] => none
  | some path => some path

/-- A notice goes into the log file. -/
def logs (c : Choices) (n : Notice) : Bool := c.debug || n.level ≠ .debug

/-- The session runs on scripts. -/
def hasScripts (c : Choices) : Bool := !c.commands.isEmpty || !c.files.isEmpty

end Choices

namespace Workplace

/-- The log file: the path by which it is opened, and its place. -/
def logFile (p : Workplace) (path : Text) : Text × Except FileFault Place :=
  let absolute := absolutePath p.files.here path
  (absolute, p.files.appendPlace absolute)

/-- The place of the log file, if one is kept. -/
def logPlace? (p : Workplace) (c : Choices) : Option Place :=
  c.logPath.bind fun path => (p.logFile path).2.toOption

/-- The files after the log file has been opened, which makes it if it is not
    there. -/
def filesWithLog (p : Workplace) (c : Choices) : FileTree :=
  match p.logPlace? c with
  | some place => p.files.touch place
  | none => p.files

/-- The place of the history file, if statements can be saved. -/
def historyPlace? (p : Workplace) (c : Choices) : Option Place :=
  (c.historyPath p.home).bind fun path => ((p.filesWithLog c).appendPlace path).toOption

end Workplace

/-- What an entry adds to the file at a place, if it happens at `time`; the log
    and the history may be kept in the same file. -/
def Entry.added (p : Workplace) (c : Choices) (time : Text) (place : Place) : Entry → Text
  | .noted n _ => if p.logPlace? c = some place ∧ c.logs n then n.logLine time else []
  | .saved text => if p.historyPlace? c = some place then text else []
  | _ => []

namespace Shell

/-! ## Writing without a session -/

/-- Writes a text; a fault breaks the program down. -/
def writeOrBreak (c : Channel) (text : Text) : ShellM Unit := do
  match ← put c text with
  | none => pure ()
  | some .interrupt => throw .interrupted
  | some (.fault f) => throw (.crashed f.crash)

/-- Prints a text, and then a line feed. -/
def print (c : Channel) (text : Text) : ShellM Unit := do
  writeOrBreak c text
  writeOrBreak c ['\n']

/-- Prints an error; the program ends with a failure. -/
def failWith (message : Text) : ShellM ProgramEnd := do
  print .err ("Error: ".toList ++ message)
  pure (.code exitFailure)

/-! ## The program -/

/-- Answers a command line that is not obeyed. -/
def answerRefusal : Refusal → ShellM ProgramEnd
  | .help => do
    writeOrBreak .out commandLineHelp
    pure (.refused 0)
  | .usage message => do
    writeOrBreak .err usageText
    writeOrBreak .err (usageErrorLine message)
    pure (.refused 2)

/-- Sets the session up. -/
def configure (p : Workplace) (c : Choices) : ShellM Unit := do
  match c.fault? with
  | some crash => throw (.crashed crash)
  | none => pure ()
  let settings := c.settings p.home
  let fault := (p.filesWithLog c).appendFault? (settings.historyFile.getD [])
  modify fun shell =>
    { shell with
      session := { settings }
      historyFile := { fault := fun _ => fault }
      surroundings :=
        { shell.surroundings with
          limit := settings.statementTimeout
          limitFault :=
            if c.timeout = some none then some (.incomparable p.clockKind "list") else none
          queueSize := settings.queueSize } }

/-- Makes the shell ready for a user: the statements of earlier sessions are
    read, and the user is greeted. -/
def greet (p : Workplace) (c : Choices) : ShellM Unit := do
  match c.historyPath p.home with
  | none => pure ()
  | some path =>
    if (p.filesWithLog c).holds path then
      enter (.historyRead path)
      if !p.historyReadable then note (.historyUnreadable path)
  if !c.quiet then print .out banner
  modify fun shell => { shell with interactive := true, writesPrompts := true }

/-- The lines of a script; the input breaks down where no script is given. -/
def linesOfScript : Given Text → List InputLine
  | none => [.crash (.noOperation "list" "splitlines")]
  | some script => (scriptLines script).map .line

/-- The input of the session. -/
def inputOf (p : Workplace) (c : Choices) (scripts : List Text) : List InputLine :=
  -- Commands go before files, whatever their order on the command line.
  if c.hasScripts then (c.commands ++ scripts.map some).flatMap linesOfScript else p.input

/-- Answers a fault at the opening of the database. -/
def refuseDatabase (fault : DatabaseFault) : ShellM ProgramEnd := do
  match fault.atOpening with
  | .startup e => failWith e.describe
  | .crash crash => throw (.crashed crash)

/-- Runs the session on an open database. -/
def runOnDatabase (p : Workplace) (c : Choices) (scripts : List Text) : ShellM ProgramEnd := do
  if !c.hasScripts && p.isTerminal then greet p c
  let code ← start (.named (Given.shown c.format)) c.failOnError (inputOf p c scripts)
  pure (.code code)

/-- **Opens the database** and runs the session on it.  The notice of the
    opening belongs to the opening: its breakdown is one of the database. -/
def openDatabase (p : Workplace) (c : Choices) (scripts : List Text) : ShellM ProgramEnd := do
  let o := c.connection p.processors
  enter (.connecting o)
  match p.connect o with
  | .error fault => refuseDatabase fault
  | .ok database => do
    match ← attempt (note (.engineOpened o.databaseName)) with
    | .error (.crashed crash) => refuseDatabase (.crash crash)
    | .error e => throw e
    | .ok () => do
      modify fun shell => { shell with engine := .ofDatabase o database }
      runOnDatabase p c scripts

/-- Opens the log. -/
def openLog (p : Workplace) (c : Choices) : ShellM Unit := do
  match c.logPath.map p.logFile with
  | some (path, .error f) => throw (.crashed (f.crash path))
  | _ => onConsole fun k => { k with echoesNotices := c.debug }

/-- Answers a script that cannot be read. -/
def refuseScript : ScriptFault → ShellM ProgramEnd
  | .unnamed =>
    throw (.crashed ⟨.badType, "expected str, bytes or os.PathLike object, not list".toList⟩)
  | .unread path f =>
    if f.isBreakdown then throw (.crashed (f.crash path)) else failWith (f.message path)
  | .undecodable f => throw (.crashed ⟨.undecodable, f.message⟩)

/-- **Runs the program** with a command line. -/
def runProgram (p : Workplace) (words : List Text) : ShellM ProgramEnd := do
  match CommandLine.parse words with
  | .error refusal => answerRefusal refusal
  | .ok c => do
    openLog p c
    configure p c
    match (p.filesWithLog c).scripts c.files with
    | .error fault => refuseScript fault
    | .ok scripts => openDatabase p c scripts

/-! ## Files -/

/-- **What a run adds to files.**  The log file is made also if nothing is
    logged. -/
def additions (p : Workplace) (words : List Text) (time : Text) (entries : List Entry) :
    List (Place × Text) :=
  match CommandLine.parse words with
  | .error _ => []
  | .ok c =>
    ((p.logPlace? c).toList ++ (p.historyPlace? c).toList).eraseDups.filterMap fun place =>
      let added := entries.flatMap (Entry.added p c time place)
      -- The history file is not made before there is something to save.
      if added = [] ∧ p.logPlace? c ≠ some place then none else some (place, added)

/-- The text of a file with an addition, if that makes it a new or another one.
    A device keeps nothing, and of a file that is no text only the addition is
    shown. -/
def contentWith (added : Text) : Option Node → Option Text
  | none => some added
  | some (.file bytes) =>
    if added = [] then none
    else match Utf8.decode bytes with
      | .ok text => some (text ++ added)
      | .error _ => some added
  | some _ => none

/-- **The files that are new or changed** after the program has run, with all
    their text. -/
def changedFiles (p : Workplace) (words : List Text) (time : Text) (entries : List Entry) :
    List (Place × Text) :=
  (additions p words time entries).filterMap fun (place, added) =>
    (contentWith added (p.files.find? place)).map (place, ·)

end Shell

end SqlShell
