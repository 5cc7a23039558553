import SqlShell.Launch.Start

/-! # The Program

    The command line of the shell.  No database is linked into it: the one that
    it opens has no tables, so that commands are carried out and every
    statement fails.

    All decisions are made by `Shell.runProgram`.  What is left for this module
    is to read the files that the command line names and the standard input,
    and to write what the run shows.  With a terminal, the run on the lines
    entered so far tells what to show before the next one is read. -/

namespace SqlShell

/-- A database without tables. -/
def Database.withoutTables : Database := fun statement =>
  .error (.reported .catalog ("no database is attached to answer: ".toList ++ statement))

/-- Nothing but the user's lines happens around the program. -/
def undisturbed : Surroundings Binary64 := { reading := fun _ => .zero }

/-- A shell before the program starts. -/
def Shell.idle : Shell :=
  { engine := ⟨fun _ _ => .accepted ⟨[], .complete, true⟩, false⟩
    surroundings := undisturbed }

/-- The paths of the files that a command line names. -/
def pathsNamed (home : Text) (words : List Text) : List Text :=
  match CommandLine.parse words with
  | .error _ => []
  | .ok c => c.files.filterMap id ++ c.logPath.toList ++ (c.historyPath home).toList

/-- The lines of the standard input that the session asks for are entered by a
    user. -/
def isConversation (terminal : Bool) (words : List Text) : Bool :=
  match CommandLine.parse words with
  | .error _ => false
  | .ok c => terminal && !c.hasScripts

/-- The entries up to the last line asked for, its prompt included, and the
    entries after them. -/
def splitAtQuestion (entries : List Entry) : List Entry × List Entry :=
  let isQuestion := fun e : Entry => match e with
    | .asked _ => true
    | _ => false
  let after := (entries.reverse.takeWhile (!isQuestion ·)).length
  let before := entries.length - after + 1
  (entries.take before, entries.drop before)

/-- How many lines have been asked for. -/
def questions (entries : List Entry) : Nat :=
  entries.countP fun e => match e with
    | .asked _ => true
    | _ => false

/-- The exit code of the process, and what it says about a breakdown. -/
def processEnd : Except Exit ProgramEnd → UInt32 × Text
  | .ok (.code n) | .ok (.refused n) => (n.toUInt32, [])
  | .error (.crashed c) => (1, c.describe ++ ['\n'])
  | .error .interrupted => (130, [])
  | .error _ => (1, [])

/-- Runs the program on some input: how it ends, and all that it shows. -/
def runOn (p : Workplace) (words : List Text) (input : List InputLine) :
    Except Exit ProgramEnd × List Entry :=
  match Shell.runProgram { p with input } words Shell.idle with
  | .ok ended shell => (.ok ended, shell.console.entries)
  | .error e shell => (.error e, shell.console.entries)

/-! ## Input and output -/

/-- The places that a path leads over. -/
def placesOn (here : Place) (path : Text) : List Place :=
  (pathParts path).foldl (fun places name => (places.headD []).step name :: places)
    [pathStart here path]

/-- Looks at what is at a place; only within a directory a point can be opened. -/
def readNode (place : Place) : IO (Option Node) := do
  let path := String.ofList place.path
  try
    let _ ← IO.FS.Handle.mk (path ++ "/.") .read
    return some .directory
  catch _ =>
    try
      return some (.file (← IO.FS.readBinFile path).toList)
    catch _ => return none

/-- Looks at what some paths lead over. -/
def readTree (paths : List Text) : IO FileTree := do
  let here := placeOfPath [] (toString (← IO.currentDir)).toList
  let mut nodes := []
  for place in (paths.flatMap (placesOn here)).eraseDups do
    if let some node ← readNode place then
      nodes := nodes ++ [(place, node)]
  return { here, nodes }

/-- Shows some entries on the outputs of the process. -/
def display (time : Text) (entries : List Entry) : IO Unit := do
  for e in entries do
    IO.print (String.ofList (e.shown time .out))
    IO.eprint (String.ofList (e.shown time .err))
  (← IO.getStdout).flush

/-- Shows the rest of a run, writes the files and gives the exit code. -/
def conclude (p : Workplace) (words : List Text) (time : Text) (shown : Nat)
    (run : Except Exit ProgramEnd × List Entry) : IO UInt32 := do
  display time (run.2.drop shown)
  for (place, text) in Shell.additions p words time run.2 do
    (← IO.FS.Handle.mk (String.ofList place.path) .append).putStr (String.ofList text)
  let (code, complaint) := processEnd run.1
  IO.eprint (String.ofList complaint)
  return code

/-- All lines that are left on a stream. -/
partial def readLines (stream : IO.FS.Stream) (lines : List InputLine) : IO (List InputLine) := do
  let line ← stream.getLine
  if line.isEmpty then return lines.reverse
  readLines stream (.line line.toList :: lines)

/-- Runs the program with a user, who enters one line at a time; the run on the
    lines so far shows everything up to the next prompt. -/
partial def converse (p : Workplace) (words : List Text) (time : Text) (stream : IO.FS.Stream)
    (lines : List InputLine) (shown : Nat) : IO UInt32 := do
  let run := runOn p words lines
  if questions run.2 ≤ lines.length then conclude p words time shown run
  else
    let (before, _) := splitAtQuestion run.2
    display time (before.drop shown)
    let line ← stream.getLine
    if line.isEmpty then conclude p words time before.length run
    else
      let entered := InputLine.line (Text.dropLineEnd line.toList)
      converse p words time stream (lines ++ [entered]) before.length

end SqlShell

open SqlShell in
/-- Runs the shell with the words of the command line. -/
def main (args : List String) : IO UInt32 := do
  let words := args.map String.toList
  let stream ← IO.getStdin
  let terminal ← stream.isTty
  let time := decimalText (← IO.monoMsNow)
  let place : Workplace :=
    { files := ← readTree (pathsNamed ['.'] words)
      isTerminal := terminal
      connect := fun _ => .ok Database.withoutTables }
  if isConversation terminal words then converse place words time stream [] 0
  else conclude place words time 0 (runOn place words (← readLines stream []))
