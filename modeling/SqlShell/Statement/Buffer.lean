import SqlShell.Failure
import SqlShell.Statement.ScanMode
import SqlShell.Text.Lines

/-! # The Statement Buffer

    Lines of input go in, complete statements come out.  A statement ends at a
    semicolon outside every quote and comment; the last one may go without.
    Statements without content (blanks and comments only) are dropped.

    - `addLine` adds a line and scans on, `next` scans on in what is left of it;
    - `finish` is what is left at the end of the input, `close` empties the
      buffer besides;
    - `drain` and `takeLine` take every complete statement at once;
    - `statementsOfLines` is the whole way from lines to statements. -/

namespace SqlShell

/-! ## Scanning -/

/-- Where a scan ends. -/
inductive Scan where
  /-- At the end of a statement that has content; `rest` follows it. -/
  | statement (text rest : Text)
  /-- At the end of the text; `before` is the unfinished statement, backwards. -/
  | pending (before : Text) (mode : ScanMode) (content : Bool)
deriving DecidableEq, Repr

/-- **Scans a text** up to the end of the first statement with content. -/
def scan (before : Text) (mode : ScanMode) (content : Bool) : Text → Scan
  | [] => .pending before mode content
  | c :: r =>
    match scanStep before mode content c r.head? with
    | .one mode' content' => scan (c :: before) mode' content' r
    | .two mode' content' =>
      match r with
      -- A step over two characters is never taken at the last one.
      | [] => scan (c :: before) mode' content' []
      | d :: r' => scan (d :: c :: before) mode' content' r'
    | .cut => if content then .statement (Text.trim before.reverse) r else scan [] .normal false r

/-- What follows a statement is shorter than what was scanned. -/
theorem scan_statement_length {before : Text} {mode : ScanMode} {content : Bool}
    {s text rest : Text} (h : scan before mode content s = .statement text rest) :
    rest.length < s.length := by
  fun_induction scan before mode content s with
  | case1 => cases h
  | case2 before mode content c r mode' content' step ih =>
    have := ih h
    simp only [List.length_cons]; omega
  | case3 before mode content c mode' content' step ih =>
    have := ih h
    simp only [List.length_nil] at this; omega
  | case4 before mode content c mode' content' d r step ih =>
    have := ih h
    simp only [List.length_cons]; omega
  | case5 before mode c r step =>
    simp only [Scan.statement.injEq] at h
    simp [h.2]
  | case6 before mode content c r step content' ih =>
    have := ih h
    simp only [List.length_cons]; omega

/-! ## The buffer -/

/-- **The buffer**: the unfinished statement as far as it has been scanned,
    the text not yet scanned, and where the scanner stands. -/
structure StatementBuffer where
  /-- The scanned part of the statement, backwards. -/
  before : Text := []
  /-- The text that is still to be scanned. -/
  waiting : Text := []
  /-- The mode of the scanner. -/
  mode : ScanMode := .normal
  /-- Whether the scanned part holds more than blanks and comments. -/
  content : Bool := false
deriving DecidableEq, Repr

namespace StatementBuffer

/-- A buffer without input. -/
def empty : StatementBuffer := {}

/-- A statement has been begun and not been ended. -/
def inProgress (a : StatementBuffer) : Bool := a.content || a.mode ≠ .normal

/-- All the text that the buffer holds. -/
def text (a : StatementBuffer) : Text := a.before.reverse ++ a.waiting

/-- **Scans on** for the next complete statement.  When the text runs out and
    nothing has been begun, the blanks and comments scanned are forgotten. -/
def next (a : StatementBuffer) : Option Text × StatementBuffer :=
  match scan a.before a.mode a.content a.waiting with
  | .statement text rest => (some text, { empty with waiting := rest })
  | .pending before mode content =>
    (none,
      if content || mode ≠ .normal then { before, mode, content } else empty)

/-- **Adds a line**, with or without its line end, and scans on.  A blank line
    between statements is passed over. -/
def addLine (a : StatementBuffer) (line : Text) : Option Text × StatementBuffer :=
  let line := Text.dropLineEnd line
  -- Text that is still to be scanned does not make a statement one in progress.
  if !a.inProgress && Text.allBlank line then (none, a)
  else next { a with waiting := a.waiting ++ line ++ ['\n'] }

/-- What is left at the end of the input: the last statement, if one has been
    begun. -/
def finish (a : StatementBuffer) : Except Unterminated (Option Text) :=
  if a.mode.isOpen then .error ⟨a.mode.name, Text.trim a.text⟩
  else .ok (if a.content then some (Text.trim a.text) else none)

/-- **Ends the input.**  The buffer is empty afterwards, whatever the answer. -/
def close (a : StatementBuffer) : Except Unterminated (Option Text) × StatementBuffer :=
  (a.finish, empty)

/-- All complete statements in the text not yet scanned. -/
def drain (a : StatementBuffer) : List Text × StatementBuffer :=
  match _scanned : scan a.before a.mode a.content a.waiting with
  | .statement text rest =>
    let (texts, last) := drain { empty with waiting := rest }
    (text :: texts, last)
  | .pending _ _ _ => ([], (next a).2)
termination_by a.waiting.length
decreasing_by exact scan_statement_length _scanned

/-- Adds a line and takes every statement that is complete then. -/
def takeLine (a : StatementBuffer) (line : Text) : List Text × StatementBuffer :=
  match a.addLine line with
  | (none, a') => ([], a')
  | (some text, a') =>
    let (texts, last) := a'.drain
    (text :: texts, last)

/-- Adds lines one after the other and takes every complete statement. -/
def takeLines (a : StatementBuffer) : List Text → List Text × StatementBuffer
  | [] => ([], a)
  | line :: r =>
    let (texts, a') := a.takeLine line
    let (others, last) := a'.takeLines r
    (texts ++ others, last)

end StatementBuffer

/-- **The statements of some lines**; the last one may lack its semicolon. -/
def statementsOfLines (lines : List Text) : Except Unterminated (List Text) :=
  let (texts, a) := StatementBuffer.empty.takeLines lines
  a.close.1.map fun tail => texts ++ tail.toList

/-- The statements of a text. -/
def statementsOfText (s : Text) : Except Unterminated (List Text) :=
  statementsOfLines (Text.lines s)

end SqlShell
