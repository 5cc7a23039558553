/-! # Blank Characters

    Texts are lists of characters, so that every reader and printer of the
    library is a recursion on a list.  This module holds the class of blank
    characters and the operations that cut a text at blanks:

    - `trimStart`, `trimEnd`, `trim` drop blanks at the ends;
    - `splitWord` cuts off the first word.
-/

namespace SqlShell

/-- A text is the list of its characters. -/
abbrev Text := List Char

namespace Text

/-! ## The class -/

/-- **Blank characters**: the Unicode white space together with the four
    information separators U+001C to U+001F. -/
def isBlank (c : Char) : Bool :=
  let n := c.toNat
  (9 ≤ n && n ≤ 13) || (28 ≤ n && n ≤ 32) || n == 0x85 || n == 0xA0 || n == 0x1680
    || (0x2000 ≤ n && n ≤ 0x200A) || n == 0x2028 || n == 0x2029 || n == 0x202F
    || n == 0x205F || n == 0x3000

/-- A text that holds blanks only; the empty text is one. -/
def allBlank (s : Text) : Bool := s.all isBlank

/-! ## Trimming -/

/-- Drops the blanks in front. -/
def trimStart (s : Text) : Text := s.dropWhile isBlank

/-- Drops the last characters as long as `p` holds of them. -/
def dropEndWhile (p : Char → Bool) (s : Text) : Text := (s.reverse.dropWhile p).reverse

/-- Drops the blanks at the end. -/
def trimEnd (s : Text) : Text := dropEndWhile isBlank s

/-- Drops the blanks at both ends. -/
def trim (s : Text) : Text := trimEnd (trimStart s)

/-! ## Words -/

/-- The first word of a text and what follows it, without the blanks between
    the two; `none` if the text is blank. -/
def splitWord (s : Text) : Option (Text × Text) :=
  match trimStart s with
  | [] => none
  | c :: r =>
    some ((c :: r).takeWhile (!isBlank ·), trimStart ((c :: r).dropWhile (!isBlank ·)))

/-! ## Padding and substitution -/

/-- Fills a text up with `c` on the right to at least `width` characters. -/
def padRight (width : Nat) (c : Char) (s : Text) : Text :=
  s ++ List.replicate (width - s.length) c

/-- Fills a text up with `c` on the left to at least `width` characters. -/
def padLeft (width : Nat) (c : Char) (s : Text) : Text :=
  List.replicate (width - s.length) c ++ s

/-- Writes `r` in place of every `c`. -/
def substitute (c : Char) (r : Text) (s : Text) : Text :=
  s.flatMap fun d => if d = c then r else [d]

/-- The texts one after the other, with `separator` between two neighbours. -/
def joinWith (separator : Text) : List Text → Text
  | [] => []
  | [s] => s
  | s :: r => s ++ separator ++ joinWith separator r

/-- Whether `word` stands somewhere in a text. -/
def occursIn (word : Text) : Text → Bool
  | [] => word.isEmpty
  | c :: r => word.isPrefixOf (c :: r) || occursIn word r

end Text

end SqlShell
