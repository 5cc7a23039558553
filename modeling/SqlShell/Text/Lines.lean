import SqlShell.Text.Blank

/-! # Lines

    Three ways to take a text apart at line ends:

    - `lines` breaks at every character that ends a line;
    - `streamLines` breaks at the line feed only and keeps it;
    - `unifyLineEnds` turns the other two common line ends into line feeds. -/

namespace SqlShell.Text

/-- **Line breaks**: the characters that end a line. -/
def isLineBreak (c : Char) : Bool :=
  let n := c.toNat
  (10 ≤ n && n ≤ 13) || (28 ≤ n && n ≤ 30) || n == 0x85 || n == 0x2028 || n == 0x2029

/-- Lines of a text that goes on after `line`, which is kept backwards. -/
def linesAfter (line : Text) : Text → List Text
  | [] => if line.isEmpty then [] else [line.reverse]
  | '\r' :: '\n' :: r => line.reverse :: linesAfter [] r
  | c :: r => if isLineBreak c then line.reverse :: linesAfter [] r else linesAfter (c :: line) r

/-- **Lines**, without the breaks that end them; a carriage return and the
    line feed after it are one break.  What follows the last break is a line
    only if it is not empty. -/
def lines (s : Text) : List Text := linesAfter [] s

/-- Lines of a stream that goes on after `line`, which is kept backwards. -/
def streamLinesAfter (line : Text) : Text → List Text
  | [] => if line.isEmpty then [] else [line.reverse]
  | c :: r =>
    if c = '\n' then (c :: line).reverse :: streamLinesAfter [] r
    else streamLinesAfter (c :: line) r

/-- **Lines of a stream**: each up to and with its line feed. -/
def streamLines (s : Text) : List Text := streamLinesAfter [] s

/-- Writes every carriage return, together with a line feed after it, as one
    line feed. -/
def unifyLineEnds : Text → Text
  | [] => []
  | '\r' :: '\n' :: r => '\n' :: unifyLineEnds r
  | c :: r => (if c = '\r' then '\n' else c) :: unifyLineEnds r

/-- A line without the line feed, or carriage return and line feed, at its end. -/
def dropLineEnd (line : Text) : Text :=
  match line.reverse with
  | '\n' :: '\r' :: r => r.reverse
  | '\n' :: r => r.reverse
  | _ => line

end SqlShell.Text
