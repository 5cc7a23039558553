import SqlShell.Number.Decimal
import SqlShell.Value.Calendar
import SqlShell.Value.Entries

/-! # Values

    What a cell of a result can hold.  Values nest: lists, tuples and maps
    hold values of every kind. -/

namespace SqlShell

/-- How a string of bytes is kept: as such, as a buffer that can change, or as
    a view of another one. -/
inductive ByteKind where
  | fixed
  | buffer
  | view
deriving DecidableEq, Repr

/-- **Values.** -/
inductive Value where
  | null
  | bool (b : Bool)
  | int (n : Int)
  | float (x : Binary64)
  | text (s : Text)
  | decimal (d : Decimal)
  | date (d : Date)
  | time (t : TimeOfDay)
  | timestamp (d : Date) (t : TimeOfDay)
  | interval (i : Interval)
  | bytes (kind : ByteKind) (b : List UInt8)
  /-- A universally unique identifier, by its 128 bits. -/
  | uuid (bits : Nat)
  | list (xs : List Value)
  | tuple (xs : List Value)
  | map (entries : List (Value × Value))
deriving Inhabited

namespace Value

/-- The value is missing. -/
def isNull : Value → Bool
  | null => true
  | _ => false

/-! ## Equal keys

    The entries of a map have unlike keys.  Numbers of every kind are the same
    key if they are equal as numbers, truth values being one and zero. -/

/-- Takes out of a coefficient all factors of ten, at most `fuel` of them. -/
def stripTens (exponent : Int) : Nat → Nat → Nat × Int
  | 0, n => (n, exponent)
  | fuel + 1, n => if n % 10 = 0 then stripTens (exponent + 1) fuel (n / 10) else (n, exponent)

/-- The exact value of a number as a coefficient that ten does not divide, and
    a power of ten; every number has one such form. -/
def normalNumber (negative : Bool) (n : Nat) (exponent : Int) : Bool × Nat × Int :=
  if n = 0 then (false, 0, 0)
  else
    let (n, exponent) := stripTens exponent (decimalText n).length n
    (negative, n, exponent)

/-- The exact value of a number, or the sign of an infinite one. -/
def number? : Value → Option (Bool ⊕ (Bool × Nat × Int))
  | bool b => some (.inr (normalNumber false b.toNat 0))
  | int n => some (.inr (normalNumber (n < 0) n.natAbs 0))
  | float (.finite negative mantissa exponent) =>
    match exponent with
    | .ofNat e => some (.inr (normalNumber negative (mantissa * Nat.pow 2 e) 0))
    | .negSucc e => some (.inr (normalNumber negative (mantissa * Nat.pow 5 (e + 1)) (.negSucc e)))
  | float (.infinite negative) => some (.inl negative)
  | decimal (.finite negative coefficient exponent) =>
    some (.inr (normalNumber negative coefficient exponent))
  | decimal (.infinite negative) => some (.inl negative)
  | _ => none

/-- Times count as equal if they are the same moment; a time with an offset
    equals none without. -/
def sameTime (t t' : TimeOfDay) (days days' : Int) : Bool :=
  t.offset.isSome = t'.offset.isSome
    && days * 86400000000 + t.microseconds = days' * 86400000000 + t'.microseconds

mutual

/-- Whether two values are the same key. -/
def sameKey : Value → Value → Bool
  | null, null => true
  | text s, text s' => s = s'
  | date d, date d' => d = d'
  | time t, time t' => sameTime t t' 0 0
  | timestamp d t, timestamp d' t' => sameTime t t' d.dayNumber d'.dayNumber
  | interval i, interval i' => i = i'
  | bytes _ b, bytes _ b' => b = b'
  | uuid n, uuid n' => n = n'
  | tuple xs, tuple ys => sameKeys xs ys
  | a, b =>
    match number? a, number? b with
    | some x, some y => x = y
    | _, _ => false

/-- Whether two lists of values are the same keys in the same order. -/
def sameKeys : List Value → List Value → Bool
  | [], [] => true
  | x :: xs, y :: ys => sameKey x y && sameKeys xs ys
  | _, _ => false

end

/-- The map of a list of entries, in which a key may be repeated. -/
def ofEntries (entries : List (Value × Value)) : Value := map (Entries.ofList sameKey entries)

/-! ## Identifiers -/

/-- The value of a hexadecimal digit. -/
def hexDigitValue? (c : Char) : Option Nat :=
  if c.isDigit then some (c.toNat - 48)
  else
    let n := c.toLower.toNat
    if 97 ≤ n ∧ n ≤ 102 then some (n - 87) else none

/-- What stands in front of an identifier that is used as a name. -/
def uuidNamespace : Text := "urn:uuid:".toList

/-- Reads an identifier: thirty-two hexadecimal digits, with dashes anywhere
    between them and braces around; it may be written as a name. -/
def readUuid? (s : Text) : Option Nat := do
  let s := if uuidNamespace.isPrefixOf s then s.drop uuidNamespace.length else s
  let isBrace := fun c : Char => c = '{' ∨ c = '}'
  let inner := Text.dropEndWhile isBrace (s.dropWhile isBrace)
  let digits ← (inner.filter (· ≠ '-')).mapM hexDigitValue?
  if digits.length = 32 then some (digits.foldl (fun n d => 16 * n + d) 0) else none

/-- The text of an identifier: small hexadecimal digits in five groups. -/
def uuidText (bits : Nat) : Text :=
  let digits := hexText 32 bits
  digits.take 8 ++ '-' :: (digits.drop 8).take 4 ++ '-' :: (digits.drop 12).take 4
    ++ '-' :: (digits.drop 16).take 4 ++ '-' :: digits.drop 20

end Value

end SqlShell
