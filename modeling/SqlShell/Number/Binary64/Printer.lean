import SqlShell.Number.Binary64.Basic

/-! # Decimal Text of Floating-Point Numbers

    - `shortestDigits` finds the fewest decimal digits that denote no other
      number, and of those the ones nearest to the number;
    - `FloatLayout` is the choice between plain and scientific notation;
    - `fixedText` rounds to a given number of decimal places. -/

namespace SqlShell.Binary64

/-! ## Shortest digits -/

/-- The exponent of the highest power of ten that is at most `num / den`. -/
def decimalMagnitude (num den : Nat) : Int :=
  if den ≤ num then ((decimalText (num / den)).length : Int) - 1
  else
    let n := (decimalText (den / num)).length
    if den ≤ num * Nat.pow 10 (n - 1) then -((n : Int) - 1) else -(n : Int)

/-- Whether `num / den` reads as the number `mantissa · 2 ^ exponent`: it lies
    between the points halfway to the two neighbours, which belong to the
    interval if the mantissa is even. -/
def readsAs (mantissa : Nat) (exponent : Int) (num den : Nat) : Bool :=
  -- The number below is half as far away as the one above if its exponent is lower.
  let below := if mantissa = Nat.pow 2 52 ∧ minExponent < exponent then 1 else 2
  let (lowNum, lowDen) := scaledQuotient 2 (4 * mantissa - below) 1 (exponent - 2)
  let (highNum, highDen) := scaledQuotient 2 (4 * mantissa + 2) 1 (exponent - 2)
  if mantissa % 2 = 0 then lowNum * den ≤ num * lowDen && num * highDen ≤ highNum * den
  else lowNum * den < num * lowDen && num * highDen < highNum * den

/-- The multiple of `10 ^ place` that reads as the number and is nearest to it;
    a tie goes to the even multiple. -/
def nearestOnGrid? (mantissa : Nat) (exponent place : Int) : Option Nat :=
  let (num, den) := quotient mantissa exponent
  let (n, d) := scaledQuotient 10 num den (-place)
  let floor := n / d
  let reads (k : Nat) : Bool :=
    let (kNum, kDen) := scaledQuotient 10 k 1 place
    readsAs mantissa exponent kNum kDen
  -- Only the two multiples next to the number can read as it and be nearest.
  if reads floor && reads (floor + 1) then some (roundQuotient n d)
  else if reads floor then some floor
  else if reads (floor + 1) then some (floor + 1)
  else none

/-- The first grid, from `count` digits on, that holds a multiple which reads
    as the number: the multiple and the place of its last digit. -/
def firstGrid (mantissa : Nat) (exponent magnitude : Int) : Nat → Nat → Nat × Int
  | _, 0 => (mantissa, 0)
  | count, fuel + 1 =>
    -- One digit more makes the grid ten times finer.
    let place := magnitude - count + 1
    match nearestOnGrid? mantissa exponent place with
    | some digits => (digits, place)
    | none => firstGrid mantissa exponent magnitude (count + 1) fuel

/-- **Shortest digits** of the number `mantissa · 2 ^ exponent`, as a natural
    number and the power of ten of its last digit.  Seventeen digits always
    suffice. -/
def shortestDigits (mantissa : Nat) (exponent : Int) : Nat × Int :=
  let (num, den) := quotient mantissa exponent
  firstGrid mantissa exponent (decimalMagnitude num den) 1 17

/-! ## Layout -/

/-- The choices that turn digits into text. -/
structure FloatLayout where
  /-- The lowest exponent of the first digit that is written in plain notation. -/
  plainFrom : Int
  /-- The first exponent above those. -/
  plainBelow : Int
  /-- What follows the digits of a whole number in plain notation. -/
  wholeEnd : Text
  /-- The least number of digits of a written exponent. -/
  exponentDigits : Nat
  /-- The text for an undefined value. -/
  undefinedText : Text
  /-- The text for the positive infinite value. -/
  infiniteText : Text

/-- Zeros at the end of the digits are taken off. -/
def dropZeros (digits : Text) : Text := Text.dropEndWhile (· = '0') digits

/-- A finite number by its digits, the first of which counts `10 ^ magnitude`. -/
def FloatLayout.finiteText (l : FloatLayout) (digits : Text) (magnitude : Int) : Text :=
  if l.plainFrom ≤ magnitude ∧ magnitude < l.plainBelow then
    if magnitude < 0 then
      "0.".toList ++ List.replicate (-magnitude - 1).toNat '0' ++ digits
    else
      let whole := magnitude.toNat + 1
      if digits.length ≤ whole then Text.padRight whole '0' digits ++ l.wholeEnd
      else digits.take whole ++ '.' :: digits.drop whole
  else
    let mantissa :=
      match digits with
      | d :: e :: r => d :: '.' :: e :: r
      | short => short
    mantissa ++ 'e' :: (if magnitude < 0 then '-' else '+')
      :: paddedText l.exponentDigits magnitude.natAbs

/-- **The text of a number** in a layout. -/
def textIn (l : FloatLayout) : Binary64 → Text
  | .undefined => l.undefinedText
  | .infinite negative => (if negative then ['-'] else []) ++ l.infiniteText
  | .finite negative mantissa exponent =>
    (if negative then ['-'] else []) ++
      if mantissa = 0 then l.finiteText ['0'] 0
      else
        let (digits, place) := shortestDigits mantissa exponent
        let text := decimalText digits
        l.finiteText (dropZeros text) (place + text.length - 1)

/-! ## Fixed places -/

/-- **A number rounded to `places` decimals.**  The exact value is rounded, a
    tie to the even digit, and the sign of what rounds to zero is kept. -/
def fixedText (places : Nat) : Binary64 → Text
  | .undefined => "nan".toList
  | .infinite negative => (if negative then "-inf" else "inf").toList
  | .finite negative mantissa exponent =>
    let (num, den) := quotient mantissa exponent
    let digits := paddedText (places + 1) (roundQuotient (num * Nat.pow 10 places) den)
    let whole := digits.length - places
    (if negative then ['-'] else []) ++ digits.take whole
      ++ (if places = 0 then [] else '.' :: digits.drop whole)

end SqlShell.Binary64
