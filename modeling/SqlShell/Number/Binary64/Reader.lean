import SqlShell.Number.Binary64.Basic

/-! # Reading Floating-Point Numbers

    A number is written with blanks around it, a sign, digits with a point
    somewhere among them, and an exponent; or it is one of the words for an
    infinite and an undefined value. -/

namespace SqlShell.Binary64

/-- Digits of every script become ASCII digits and ASCII letters small ones. -/
def plainChar (c : Char) : Char :=
  match digitValue? c with
  | some d => Nat.digitChar d
  | none => c.toLower

/-- Takes out the underscores, each of which has to stand between two digits. -/
def dropUnderscores? (last : Bool) : Text → Option Text
  | [] => some []
  | '_' :: c :: r => if last && c.isDigit then dropUnderscores? false (c :: r) else none
  | ['_'] => none
  | c :: r => (dropUnderscores? c.isDigit r).map (c :: ·)

/-- A number written in digits, a point and an exponent: all its digits and
    the power of ten of the last one. -/
def decimalParts? (s : Text) : Option (Nat × Int) :=
  let whole := s.takeWhile Char.isDigit
  let r := s.dropWhile Char.isDigit
  let (fraction, r) :=
    match r with
    | '.' :: r => (r.takeWhile Char.isDigit, r.dropWhile Char.isDigit)
    | r => ([], r)
  let digits := whole ++ fraction
  if digits.isEmpty then none
  else
    let value := ofDigits (digits.map fun c => c.toNat - '0'.toNat)
    match r with
    | [] => some (value, -fraction.length)
    | 'e' :: r =>
      let (negative, r) := splitSign r
      if r.isEmpty || !r.all Char.isDigit then none
      else
        let exponent : Int := ofDigits (r.map fun c => c.toNat - '0'.toNat)
        some (value, (if negative then -exponent else exponent) - fraction.length)
    | _ => none

/-- **Reads a number.** -/
def read? (s : Text) : Option Binary64 := do
  let plain ← dropUnderscores? false ((trimNumber s).map plainChar)
  let (negative, r) := splitSign plain
  if r = "inf".toList ∨ r = "infinity".toList then some (.infinite negative)
  else if r = "nan".toList then some .undefined
  else
    let (digits, exponent) ← decimalParts? r
    some (ofDecimal negative digits exponent)

end SqlShell.Binary64
