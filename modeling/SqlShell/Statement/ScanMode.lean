import SqlShell.Text.Alphanumeric
import SqlShell.Text.Blank

/-! # Scanner Modes

    The scanner that looks for the ends of statements knows five modes: plain
    text, the two kinds of quotes and the two kinds of comments.  This module
    says what it does at one character. -/

namespace SqlShell

/-- **Modes of the scanner.** -/
inductive ScanMode where
  /-- Outside every quote and comment. -/
  | normal
  /-- In a string; `escapes` says whether a backslash takes the character
      after it along. -/
  | singleQuoted (escapes : Bool)
  /-- In a quoted identifier. -/
  | doubleQuoted
  /-- In a comment that ends with the line. -/
  | lineComment
  /-- In a comment that ends with its closing mark. -/
  | blockComment
deriving DecidableEq, Repr

namespace ScanMode

/-- The name of a mode. -/
def name : ScanMode → Text
  | .normal => "NORMAL".toList
  | .singleQuoted _ => "IN_SINGLE_QUOTE".toList
  | .doubleQuoted => "IN_DOUBLE_QUOTE".toList
  | .lineComment => "IN_LINE_COMMENT".toList
  | .blockComment => "IN_BLOCK_COMMENT".toList

/-- The modes in which the input must not end: a line comment is closed by the
    end of the input, a quote and a block comment are not. -/
def isOpen : ScanMode → Bool
  | .normal | .lineComment => false
  | .singleQuoted _ | .doubleQuoted | .blockComment => true

end ScanMode

/-! ## One step -/

/-- What the scanner does at a character. -/
inductive ScanStep where
  /-- It takes the character. -/
  | one (mode : ScanMode) (content : Bool)
  /-- It takes the character and the one after it. -/
  | two (mode : ScanMode) (content : Bool)
  /-- The character ends a statement. -/
  | cut
deriving DecidableEq, Repr

/-- The characters in front of a quote, the nearest first, make the string one
    with escapes: an `e` that is not the end of a longer word. -/
def escapeMark : Text → Bool
  | [] => false
  | [e] => e = 'e' ∨ e = 'E'
  | e :: c :: _ => (e = 'e' ∨ e = 'E') ∧ !(Text.isAlphanumeric c || c = '_')

/-- **One step of the scanner** at the character `c`, which `next` follows.
    `before` holds the characters of the statement so far, the nearest first,
    and `content` tells whether the statement has any outside comments. -/
def scanStep (before : Text) (mode : ScanMode) (content : Bool) (c : Char)
    (next : Option Char) : ScanStep :=
  match mode with
  | .singleQuoted escapes =>
    -- A quote that is doubled ends the string and begins another one at once.
    if c = '\\' ∧ escapes ∧ next.isSome then .two mode content
    else .one (if c = '\'' then .normal else mode) content
  | .doubleQuoted => .one (if c = '"' then .normal else mode) content
  | .lineComment => .one (if c = '\n' then .normal else mode) content
  | .blockComment =>
    if c = '*' ∧ next = some '/' then .two .normal content else .one mode content
  | .normal =>
    if c = '\'' then .one (.singleQuoted (escapeMark before)) true
    else if c = '"' then .one .doubleQuoted true
    else if c = '-' ∧ next = some '-' then .two .lineComment content
    else if c = '/' ∧ next = some '*' then .two .blockComment content
    -- Comments are no content: a semicolon behind nothing else ends no statement.
    else if c = ';' then .cut
    else .one .normal (content || !Text.isBlank c)

end SqlShell
