import SqlShell.Value.Json

/-! # Reading JSON

    A strict reader of JSON texts.  It takes the texts of the grammar and no other
    ones; only a string with one half of a pair of surrogates is not taken, as it
    stands for no text.  What is read is a value: an array is a list, an object a
    map with its members in order, repeated names included, a number without
    fraction and exponent an integer, and any other number a decimal.

    * **`characters?`** reads a string, **`number?`** a number.
    * **`value?`** reads any value, and gives the text behind it.
    * **`document?`** reads a whole text.

    Values nest no deeper than their text is long, and a list has no more elements
    than its text has characters: these are the bounds of the recursion. -/

namespace SqlShell

namespace JsonText

/-! ## Strings -/

/-- White space around the signs of the grammar. -/
def isSpace (c : Char) : Bool := c = ' ' ∨ c = '\t' ∨ c = '\n' ∨ c = '\r'

def skipSpaces (s : Text) : Text := s.dropWhile isSpace

/-- A unit of UTF-16 in four hexadecimal digits. -/
def codeUnit? : Text → Option (Nat × Text)
  | a :: b :: c :: d :: s => do
    let digits ← [a, b, c, d].mapM Value.hexDigitValue?
    some (digits.foldl (fun n digit => 16 * n + digit) 0, s)
  | _ => none

/-- A character by its units.  Two surrogates stand for one character, and none alone. -/
def character? (s : Text) : Option (Char × Text) := do
  let (unit, s) ← codeUnit? s
  if 0xd800 ≤ unit ∧ unit < 0xdc00 then
    match s with
    | '\\' :: 'u' :: s => do
      let (low, s) ← codeUnit? s
      if 0xdc00 ≤ low ∧ low < 0xe000 then
        some (Char.ofNat (0x10000 + 0x400 * (unit - 0xd800) + (low - 0xdc00)), s)
      else none
    | _ => none
  else if 0xdc00 ≤ unit ∧ unit < 0xe000 then none
  else some (Char.ofNat unit, s)

/-- What follows a backslash. -/
def escape? : Text → Option (Char × Text)
  | '"' :: s => some ('"', s)
  | '\\' :: s => some ('\\', s)
  | '/' :: s => some ('/', s)
  | 'b' :: s => some ('\x08', s)
  | 'f' :: s => some ('\x0c', s)
  | 'n' :: s => some ('\n', s)
  | 'r' :: s => some ('\r', s)
  | 't' :: s => some ('\t', s)
  | 'u' :: s => character? s
  | _ => none

/-- **The characters of a string** up to its closing quote.  A control character is
    always escaped. -/
def characters? : Nat → Text → Option (Text × Text)
  | 0, _ | _, [] => none
  | fuel + 1, c :: s =>
    if c = '"' then some ([], s)
    else if c = '\\' then do
      let (c, s) ← escape? s
      let (cs, s) ← characters? fuel s
      some (c :: cs, s)
    else if c.toNat < 32 then none
    else do
      let (cs, s) ← characters? fuel s
      some (c :: cs, s)

/-- A string behind its opening quote. -/
def string? (s : Text) : Option (Text × Text) := characters? s.length s

/-! ## Numbers -/

/-- The digits in front of a text, at least one. -/
def digits? (s : Text) : Option (Text × Text) :=
  let digits := s.takeWhile Char.isDigit
  if digits = [] then none else some (digits, s.dropWhile Char.isDigit)

/-- The digits behind the point, if there is one. -/
def fraction? : Text → Option (Text × Text)
  | '.' :: s => digits? s
  | s => some ([], s)

/-- The power of ten, if there is one. -/
def exponent? : Text → Option (Option Int × Text)
  | [] => some (none, [])
  | c :: s =>
    if c = 'e' ∨ c = 'E' then do
      let (negative, s) := splitSign s
      let (digits, s) ← digits? s
      let magnitude : Int := Nat.ofDigitChars 10 digits 0
      some (some (if negative then -magnitude else magnitude), s)
    else some (none, c :: s)

/-- A number behind its sign.  The first digit is a zero only if it is the only one. -/
def unsigned? (negative : Bool) (s : Text) : Option (Value × Text) := do
  let (whole, s) ← digits? s
  if whole.head? = some '0' ∧ whole ≠ ['0'] then none
  else
    let (fraction, s) ← fraction? s
    let (exponent, s) ← exponent? s
    let coefficient := Nat.ofDigitChars 10 (whole ++ fraction) 0
    match exponent with
    | none =>
      if fraction = [] then some (.int (if negative then -coefficient else coefficient), s)
      else some (.decimal (.finite negative coefficient (-fraction.length)), s)
    | some e => some (.decimal (.finite negative coefficient (e - fraction.length)), s)

/-- **A number.**  There is no sign but the minus. -/
def number? : Text → Option (Value × Text)
  | '-' :: s => unsigned? true s
  | s => unsigned? false s

/-! ## Values -/

/-- The rest of a word that stands for a value. -/
def word? (rest : String) (v : Value) (s : Text) : Option (Value × Text) :=
  if rest.toList <+: s then some (v, s.drop rest.toList.length) else none

/-- Takes one sign of the grammar, with white space in front of it. -/
def sign? (c : Char) (s : Text) : Option Text :=
  if (skipSpaces s).head? = some c then some (skipSpaces s).tail else none

/-- What stands behind an element: whether it is a comma, or the sign that ends them. -/
def comma? (close : Char) (s : Text) : Option (Bool × Text) :=
  match sign? ',' s with
  | some s => some (true, s)
  | none => (sign? close s).map fun s => (false, s)

/-- **Elements with commas between them**, at least one and at most so many. -/
def elements? {α : Type} (element? : Text → Option (α × Text)) (close : Char) :
    Nat → Text → Option (List α × Text)
  | 0, _ => none
  | n + 1, s => do
    let (x, s) ← element? s
    let (more, s) ← comma? close s
    if more then (elements? element? close n s).map fun (xs, s) => (x :: xs, s)
    else some ([x], s)

/-- Elements behind an opening sign, or none. -/
def enclosed? {α : Type} (element? : Text → Option (α × Text)) (close : Char) (s : Text) :
    Option (List α × Text) :=
  match sign? close s with
  | some s => some ([], s)
  | none => elements? element? close s.length s

/-- The name of a member, and the colon behind it. -/
def name? (s : Text) : Option (Text × Text) := do
  let s ← sign? '"' s
  let (name, s) ← string? s
  let s ← sign? ':' s
  some (name, s)

/-- A member: its name and its value. -/
def member? (value? : Text → Option (Value × Text)) (s : Text) :
    Option ((Value × Value) × Text) := do
  let (name, s) ← name? s
  let (x, s) ← value? s
  some ((.text name, x), s)

/-- **A value**, and the text behind it. -/
def value? : Nat → Text → Option (Value × Text)
  | 0, _ => none
  | fuel + 1, s =>
    match skipSpaces s with
    | [] => none
    | c :: s =>
      if c = '-' ∨ c.isDigit then number? (c :: s)
      else match c with
        | '"' => (string? s).map fun (cs, s) => (.text cs, s)
        | '[' => (enclosed? (value? fuel) ']' s).map fun (xs, s) => (.list xs, s)
        | '{' => (enclosed? (member? (value? fuel)) '}' s).map fun (entries, s) => (.map entries, s)
        | 'n' => word? "ull" .null s
        | 't' => word? "rue" (.bool true) s
        | 'f' => word? "alse" (.bool false) s
        | _ => none

/-- **A JSON text**: one value, with white space around it. -/
def document? (s : Text) : Option Value := do
  let (v, s) ← value? s.length s
  if skipSpaces s = [] then some v else none

/-- An escaped character is read as itself, and a pair of surrogates as one character. -/
example : document? " [ 1,-0.5e+3, \"\\u0041\\ud83d\\ude00\" ]\n".toList
    = some (.list [.int 1, .decimal (.finite true 5 2), .text ['A', Char.ofNat 0x1f600]]) := by
  cbv

/-- A number has no zeros in front. -/
example : document? "[1, 01]".toList = none := by cbv

end JsonText

end SqlShell
