import SqlShell.Session.Basic

/-! # Commands

    A line of input is a statement for the engine, a command to the shell, or
    empty.  Commands only change the session and answer with some text.

    - `Input.ofText` tells the three apart;
    - `ShellCommand.perform` carries a command out. -/

namespace SqlShell

open Text

/-! ## Recognition -/

/-- **A command to the shell**: its name and the rest of its line. -/
structure ShellCommand where
  name : Text
  args : Text := []
deriving DecidableEq, Repr

/-- **What a text asks for.** -/
inductive Input where
  /-- A statement for the engine. -/
  | statement (text : Text)
  /-- A command to the shell. -/
  | command (c : ShellCommand)
  /-- Nothing. -/
  | empty
deriving DecidableEq, Repr

/-- The commands. -/
inductive Verb where
  | help
  | quit
  | format
  | pset
  | quiet
  | timing
  | maxWidth
  | null
  | history
deriving DecidableEq, Repr

/-- The names of the commands. -/
def verbNames : List (Text × Verb) :=
  [("help".toList, .help), ("\\?".toList, .help), ("\\h".toList, .help), ("quit".toList, .quit),
   ("exit".toList, .quit), ("\\q".toList, .quit), ("format".toList, .format),
   ("\\pset".toList, .pset), ("\\quiet".toList, .quiet), ("\\timing".toList, .timing),
   ("\\maxwidth".toList, .maxWidth), ("\\null".toList, .null), ("\\history".toList, .history)]

/-- The command of a name. -/
def Verb.ofName? (name : Text) : Option Verb := verbNames.lookup name

/-- A text without blanks around it and without the semicolons at its end. -/
def undecorated (s : Text) : Text := dropEndWhile (fun c => isBlank c || c = ';') (trim s)

/-- **What a text asks for.**  It is a command if its first word is the name of
    one, or begins like one; semicolons at its end do not count. -/
def Input.ofText (s : Text) : Input :=
  match splitWord (undecorated s) with
  | none => .empty
  | some (word, rest) =>
    let name := lower word
    -- An unknown name behind a backslash is a command too, which will be refused.
    if (Verb.ofName? name).isSome ∨ name.head? = some '\\' then .command ⟨name, trim rest⟩
    else .statement (trim s)

/-! ## Performance -/

/-- What `help` shows. -/
def helpText : Text :=
  ("Commands:\n"
    ++ "  help, \\?, \\h                show this help\n"
    ++ "  quit, exit, \\q               leave the shell\n"
    ++ "  format <name>                switch output format (table, csv, tsv, json)\n"
    ++ "  \\pset format <name>          same as format\n"
    ++ "  \\quiet [on|off]              hide/show the summary line\n"
    ++ "  \\timing [on|off]             hide/show elapsed time in the summary line\n"
    ++ "  \\maxwidth <n>                maximum table cell width\n"
    ++ "  \\null <marker>               text shown for NULL in tables\n"
    ++ "  \\history [n]                 show the last n statements\n"
    ++ "SQL statements end with ';' and may span several lines.\n").toList

/-- The position of a switch after a command: turned over if none is given. -/
def switchTo (form : String) (args : Text) (current : Bool) : Except CommandError Bool :=
  let word := String.ofList (lower (trim args))
  if word = "" then .ok (!current)
  else if word ∈ ["on", "true", "1", "yes"] then .ok true
  else if word ∈ ["off", "false", "0", "no"] then .ok false
  else .error (.usage form.toList)

/-- The position of a switch in words. -/
def onOff (b : Bool) : Text := (if b then "on" else "off").toList

/-- The line that tells the format of the results. -/
def formatLine (f : ResultFormat) : Text := "Output format is ".toList ++ f.name ++ ".\n".toList

/-- Changes the format, or tells it if no name is given. -/
def chooseFormat (s : Session) (name : Text) : Except CommandError (Session × List Text) :=
  if name.isEmpty then .ok (s, [formatLine s.format])
  else (ResultFormat.parse (some name)).map fun f => ({ s with format := f }, [formatLine f])

/-- How many statements are shown if no number is given. -/
def defaultHistoryLength : Int := 20

/-- The last `n` statements, with their numbers. -/
def historyLines (history : List Text) (n : Int) : List Text :=
  -- For a number below one nothing is shown.
  let shown := history.drop (history.length - n.toNat)
  let first := history.length - shown.length + 1
  shown.zipIdx.map fun (statement, i) =>
    padLeft 5 ' ' (decimalText (first + i)) ++ "  ".toList ++ statement ++ ['\n']

/-- **Carries a command out**: the session afterwards and the texts of the
    answer, each of which is written by itself. -/
def ShellCommand.perform (c : ShellCommand) (s : Session) :
    Except CommandError (Session × List Text) :=
  match Verb.ofName? c.name with
  | none => .error (.unknownCommand c.name)
  | some .help => .ok (s, [helpText])
  | some .quit => .ok ({ s with running := false }, [])
  | some .format => chooseFormat s c.args
  | some .pset =>
    match splitWord c.args with
    | some (word, name) =>
      if lower word = "format".toList then chooseFormat s name
      else .error (.usage "\\pset format <name>".toList)
    | none => .error (.usage "\\pset format <name>".toList)
  | some .quiet =>
    (switchTo "\\quiet [on|off]" c.args s.settings.quiet).map fun b =>
      ({ s with settings := { s.settings with quiet := b } },
        ["Quiet mode is ".toList ++ onOff b ++ ".\n".toList])
  | some .timing =>
    (switchTo "\\timing [on|off]" c.args s.settings.timing).map fun b =>
      ({ s with settings := { s.settings with timing := b } },
        ["Timing is ".toList ++ onOff b ++ ".\n".toList])
  | some .maxWidth =>
    match readInteger c.args with
    | none => .error (.usage "\\maxwidth <n>".toList)
    | some n =>
      if n < 4 then .error .widthTooSmall
      else
        .ok ({ s with settings := { s.settings with maxWidth := n } },
          ["Max column width is ".toList ++ integerText n ++ ".\n".toList])
  | some .null =>
    .ok ({ s with settings := { s.settings with nullMarker := some c.args } },
      ["Null display is \"".toList ++ c.args ++ "\".\n".toList])
  | some .history =>
    match if c.args.isEmpty then some defaultHistoryLength else readInteger c.args with
    | none => .error (.usage "\\history [n]".toList)
    | some n => .ok (s, historyLines s.history n)

end SqlShell
