import SqlShell.Number.Binary64.Reader

/-! # Decimal Numbers

    Numbers that keep the digits they were written with: `1.50` and `1.5` are
    equal numbers and different texts. -/

namespace SqlShell

/-- **A decimal number.** -/
inductive Decimal where
  /-- The number `coefficient · 10 ^ exponent` with a sign, which zero has too. -/
  | finite (negative : Bool) (coefficient : Nat) (exponent : Int)
  | infinite (negative : Bool)
  /-- An undefined value; a signalling one says so, and either may carry digits. -/
  | undefined (negative signalling : Bool) (payload : Text)
deriving DecidableEq, Repr

namespace Decimal

/-- The sign as it is written. -/
def signText (negative : Bool) : Text := if negative then ['-'] else []

/-- **The text of a decimal.**  Plain notation shows every digit of the
    coefficient; it is used unless the exponent is positive or the first digit
    stands behind the sixth decimal place. -/
def text : Decimal → Text
  | .infinite negative => signText negative ++ "Infinity".toList
  | .undefined negative signalling payload =>
    signText negative ++ (if signalling then ['s'] else []) ++ "NaN".toList ++ payload
  | .finite negative coefficient exponent =>
    let digits := decimalText coefficient
    let magnitude : Int := exponent + digits.length - 1
    signText negative ++
      if exponent ≤ 0 ∧ -6 ≤ magnitude then
        if exponent = 0 then digits
        else if magnitude < 0 then
          "0.".toList ++ List.replicate (-magnitude - 1).toNat '0' ++ digits
        else digits.take (magnitude.toNat + 1) ++ '.' :: digits.drop (magnitude.toNat + 1)
      else
        let mantissa :=
          match digits with
          | d :: e :: r => d :: '.' :: e :: r
          | short => short
        mantissa ++ 'E' :: (if magnitude < 0 then '-' else '+') :: decimalText magnitude.natAbs

/-- The digits that an undefined value carries, without zeros in front. -/
def payload? (s : Text) : Option Text :=
  if s.all Char.isDigit then some (s.dropWhile (· = '0')) else none

/-- **Reads a decimal**: a sign, digits with a point somewhere among them and
    an exponent, or one of the words for the other values. -/
def read? (s : Text) : Option Decimal :=
  let plain := ((Text.trim s).filter (· ≠ '_')).map Binary64.plainChar
  let (negative, r) := splitSign plain
  if r = "inf".toList ∨ r = "infinity".toList then some (.infinite negative)
  else match r with
    | 's' :: 'n' :: 'a' :: 'n' :: p => (payload? p).map (.undefined negative true)
    | 'n' :: 'a' :: 'n' :: p => (payload? p).map (.undefined negative false)
    | _ => (Binary64.decimalParts? r).map fun (digits, exponent) => .finite negative digits exponent

end Decimal

end SqlShell
