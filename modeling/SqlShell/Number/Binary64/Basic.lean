import SqlShell.Number.Digits

/-! # Binary Floating-Point Numbers

    Numbers with a binary exponent and 53 bits, as exact values: a finite one
    is `± mantissa · 2 ^ exponent`.  Every operation computes its exact result
    and rounds once, to the nearest number and a tie to the even mantissa.

    - `ofRatio` rounds a quotient of natural numbers; all else goes through it;
    - `sub`, `scale` and `lt` are the arithmetic that measuring time needs. -/

namespace SqlShell

/-! ## Rounding -/

/-- **The nearest integer** to `num / den`; a tie goes to the even one. -/
def roundQuotient (num den : Nat) : Nat :=
  let q := num / den
  let r := num % den
  if 2 * r < den then q
  else if den < 2 * r then q + 1
  else if q % 2 = 0 then q else q + 1

/-- The quotient `num · base ^ exponent / den` as numerator and denominator. -/
def scaledQuotient (base num den : Nat) : Int → Nat × Nat
  | .ofNat n => (num * Nat.pow base n, den)
  | .negSucc n => (num, den * Nat.pow base (n + 1))

/-- The exponent of the highest power of two that is at most `num / den`. -/
def binaryMagnitude (num den : Nat) : Int :=
  let guess : Int := (Nat.log2 num : Int) - Nat.log2 den
  let (n, d) := scaledQuotient 2 num den (-guess)
  if n < d then guess - 1 else guess

/-! ## The numbers -/

/-- **A binary floating-point number.** -/
inductive Binary64 where
  /-- The value of an undefined operation. -/
  | undefined
  /-- A number beyond all finite ones. -/
  | infinite (negative : Bool)
  /-- The number `mantissa · 2 ^ exponent` with a sign, which zero has too. -/
  | finite (negative : Bool) (mantissa : Nat) (exponent : Int)
deriving DecidableEq, Repr

namespace Binary64

/-- Zero. -/
def zero : Binary64 := .finite false 0 0

/-- The lowest exponent. -/
def minExponent : Int := -1074

/-- The highest exponent. -/
def maxExponent : Int := 971

/-- The number nearest to `num / den`, for a positive `den`.  The mantissa has
    53 bits unless the exponent is the lowest one. -/
def ofRatio (negative : Bool) (num den : Nat) : Binary64 :=
  if num = 0 then .finite negative 0 0
  else
    let exponent := max (binaryMagnitude num den - 52) minExponent
    let (n, d) := scaledQuotient 2 num den (-exponent)
    let mantissa := roundQuotient n d
    let (mantissa, exponent) :=
      if mantissa = Nat.pow 2 53 then (Nat.pow 2 52, exponent + 1) else (mantissa, exponent)
    if maxExponent < exponent then .infinite negative
    else if mantissa = 0 then .finite negative 0 0
    else .finite negative mantissa exponent

/-- The number nearest to `digits · 10 ^ exponent`.  Far above and far below
    the range of the numbers no power has to be computed. -/
def ofDecimal (negative : Bool) (digits : Nat) (exponent : Int) : Binary64 :=
  let magnitude := exponent + (decimalText digits).length
  if digits = 0 ∨ magnitude < -330 then .finite negative 0 0
  else if 330 < magnitude then .infinite negative
  else
    let (n, d) := scaledQuotient 10 digits 1 exponent
    ofRatio negative n d

/-- The numerator and the denominator of a finite number without its sign. -/
def quotient (mantissa : Nat) (exponent : Int) : Nat × Nat := scaledQuotient 2 mantissa 1 exponent

/-- A finite number as an integer multiple of `2 ^ low`, for a `low` that is
    at most its exponent. -/
def multipleOf (low : Int) (negative : Bool) (mantissa : Nat) (exponent : Int) : Int :=
  let n : Int := Int.ofNat (mantissa * Nat.pow 2 (exponent - low).toNat)
  if negative then -n else n

/-- The number nearest to `n · 2 ^ low`; zero has the sign `zeroNegative`. -/
def ofMultiple (n : Int) (low : Int) (zeroNegative : Bool) : Binary64 :=
  let (num, den) := scaledQuotient 2 n.natAbs 1 low
  ofRatio (if n = 0 then zeroNegative else n < 0) num den

/-- **Difference.** -/
def sub : Binary64 → Binary64 → Binary64
  | .finite s m e, .finite s' m' e' =>
    let low := min e e'
    ofMultiple (multipleOf low s m e - multipleOf low s' m' e') low (s && !s')
  | .infinite s, .finite .. => .infinite s
  | .finite .., .infinite s => .infinite (!s)
  | .infinite s, .infinite s' => if s = s' then .undefined else .infinite s
  | _, _ => .undefined

/-- The product with a natural number. -/
def scale (n : Nat) : Binary64 → Binary64
  | .finite s m e =>
    let (num, den) := scaledQuotient 2 (n * m) 1 e
    ofRatio s num den
  | .infinite s => if n = 0 then .undefined else .infinite s
  | .undefined => .undefined

/-- **Order.**  The two zeros are equal, and nothing compares with `undefined`. -/
def lt : Binary64 → Binary64 → Bool
  | .finite s m e, .finite s' m' e' =>
    let low := min e e'
    multipleOf low s m e < multipleOf low s' m' e'
  | .infinite s, .finite .. => s
  | .finite .., .infinite s => !s
  | .infinite s, .infinite s' => s && !s'
  | _, _ => false

end Binary64

end SqlShell
