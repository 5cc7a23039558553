import SqlShell.Text.Blank

/-! # Digits

    - `digitValue?` reads one decimal digit of any script;
    - `decimalText`, `integerText`, `hexText` print numbers;
    - `readInteger` reads a signed integer. -/

namespace SqlShell

open Text

/-! ## Reading one digit -/

/-- The zeros of the scripts that have decimal digits (Unicode version 14);
    the other nine digits follow each of them. -/
def scriptZeros : List Nat :=
  [0x30, 0x660, 0x6f0, 0x7c0, 0x966, 0x9e6, 0xa66, 0xae6, 0xb66, 0xbe6, 0xc66, 0xce6, 0xd66,
   0xde6, 0xe50, 0xed0, 0xf20, 0x1040, 0x1090, 0x17e0, 0x1810, 0x1946, 0x19d0, 0x1a80, 0x1a90,
   0x1b50, 0x1bb0, 0x1c40, 0x1c50, 0xa620, 0xa8d0, 0xa900, 0xa9d0, 0xa9f0, 0xaa50, 0xabf0,
   0xff10, 0x104a0, 0x10d30, 0x11066, 0x110f0, 0x11136, 0x111d0, 0x112f0, 0x11450, 0x114d0,
   0x11650, 0x116c0, 0x11730, 0x118e0, 0x11950, 0x11c50, 0x11d50, 0x11da0, 0x16a60, 0x16ac0,
   0x16b50, 0x1d7ce, 0x1d7d8, 0x1d7e2, 0x1d7ec, 0x1d7f6, 0x1e140, 0x1e2f0, 0x1e950, 0x1fbf0]

/-- The value of a decimal digit. -/
def digitValue? (c : Char) : Option Nat :=
  let n := c.toNat
  if n < 128 then (if 48 ≤ n ∧ n ≤ 57 then some (n - 48) else none)
  else (scriptZeros.find? fun z => z ≤ n ∧ n < z + 10).map fun z => n - z

/-! ## Printing -/

/-- A natural number in decimal. -/
def decimalText (n : Nat) : Text := Nat.toDigits 10 n

/-- A natural number in decimal with at least `width` digits. -/
def paddedText (width n : Nat) : Text := padLeft width '0' (decimalText n)

/-- An integer in decimal. -/
def integerText : Int → Text
  | .ofNat n => decimalText n
  | .negSucc n => '-' :: decimalText (n + 1)

/-- A natural number in hexadecimal with at least `width` small digits. -/
def hexText (width n : Nat) : Text := padLeft width '0' (Nat.toDigits 16 n)

/-! ## Reading -/

/-- The values of a run of digits, in which single underscores may stand
    between two digits; `none` for any other text and for the empty one. -/
def digitRun? : Text → Option (List Nat)
  | [] => none
  | [c] => (digitValue? c).map fun d => [d]
  | c :: '_' :: r => (digitValue? c).bind fun d => (digitRun? r).map fun ds => d :: ds
  | c :: r => (digitValue? c).bind fun d => (digitRun? r).map fun ds => d :: ds

/-- The number that a list of decimal digits denotes. -/
def ofDigits (ds : List Nat) : Nat := ds.foldl (fun n d => 10 * n + d) 0

/-- Takes the sign off: whether it is a minus, and the rest. -/
def splitSign : Text → Bool × Text
  | '-' :: r => (true, r)
  | '+' :: r => (false, r)
  | r => (false, r)

/-- The blanks that may stand around a number: all but the four information
    separators. -/
def isBlankAroundNumber (c : Char) : Bool := isBlank c && !(28 ≤ c.toNat && c.toNat ≤ 31)

/-- Drops the blanks around a number. -/
def trimNumber (s : Text) : Text :=
  dropEndWhile isBlankAroundNumber (s.dropWhile isBlankAroundNumber)

/-- The longest integer text that is read, in digits. -/
def maxIntegerDigits : Nat := 4300

/-- **Integers**: blanks around, one sign, digits of any script with single
    underscores between them, at most `maxIntegerDigits` of them. -/
def readInteger (s : Text) : Option Int :=
  let (negative, r) := splitSign (trimNumber s)
  match digitRun? r with
  | some ds =>
    if maxIntegerDigits < ds.length then none
    else some (if negative then -(ofDigits ds : Int) else ofDigits ds)
  | none => none

end SqlShell
