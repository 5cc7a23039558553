import SqlShell.Files.FileTree
import SqlShell.Given
import SqlShell.Text.Lines
import SqlShell.Text.Utf8

/-! # Scripts

    Statements that are given on the command line or in files.  Behind every
    script comes a line with a semicolon, so that a statement without one does
    not run together with the script after it. -/

namespace SqlShell

/-- The line that separates two scripts. -/
def scriptEnd : Text := [';']

/-- The lines of one script. -/
def scriptLines (script : Text) : List Text := Text.lines script ++ [scriptEnd]

/-- Why the script in a file cannot be read. -/
inductive ScriptFault where
  /-- No file is named. -/
  | unnamed
  /-- The file cannot be read. -/
  | unread (path : Text) (f : FileFault)
  /-- The file holds no text. -/
  | undecodable (f : Utf8Fault)

namespace FileTree

/-- The script in a file: its text with every line end turned into a line feed. -/
def script (t : FileTree) (path : Text) : Except ScriptFault Text :=
  match t.read path with
  | .error f => .error (.unread path f)
  | .ok content =>
    match Utf8.decode content with
    | .ok text => .ok (Text.unifyLineEnds text)
    | .error f => .error (.undecodable f)

/-- **The scripts in some files**, or what is wrong with the first file that
    cannot be read. -/
def scripts (t : FileTree) : List (Given Text) → Except ScriptFault (List Text)
  | [] => .ok []
  | none :: _ => .error .unnamed
  | some path :: r => do
    let text ← t.script path
    let others ← t.scripts r
    pure (text :: others)

end FileTree

end SqlShell
