import SqlShell.Number.Digits
import SqlShell.Text.Printable

/-! # Quoted Literals

    A text or a string of bytes inside a larger value is shown as a literal in
    quotes, in which no character can be mistaken for the end of the literal
    and none is invisible. -/

namespace SqlShell.Text

/-- The quote of a literal: the single one, unless the text holds single
    quotes and no double ones. -/
def quoteFor (s : Text) : Char :=
  if '\'' ∈ s ∧ '"' ∉ s then '"' else '\''

/-- A character by its number, in the shortest of the three hexadecimal forms. -/
def escapeCode (n : Nat) : Text :=
  if n < 0x100 then '\\' :: 'x' :: hexText 2 n
  else if n < 0x10000 then '\\' :: 'u' :: hexText 4 n
  else '\\' :: 'U' :: hexText 8 n

/-- One character inside a literal that is closed by `quote`. -/
def escapeIn (quote c : Char) : Text :=
  if c = quote ∨ c = '\\' then ['\\', c]
  else if c = '\n' then ['\\', 'n']
  else if c = '\r' then ['\\', 'r']
  else if c = '\t' then ['\\', 't']
  else if isPrintable c then [c]
  else escapeCode c.toNat

/-- **The quoted literal** of a text. -/
def quoted (s : Text) : Text :=
  quoteFor s :: s.flatMap (escapeIn (quoteFor s)) ++ [quoteFor s]

/-- One byte inside a literal that is closed by `quote`: bytes of the visible
    ASCII characters stand for those, all others are shown by number. -/
def escapeByteIn (quote : Char) (b : UInt8) : Text :=
  if b < 128 then escapeIn quote (Char.ofNat b.toNat) else escapeCode b.toNat

/-- The quote of a literal of bytes, chosen as for a text. -/
def quoteForBytes (bytes : List UInt8) : Char :=
  quoteFor (bytes.map fun b => Char.ofNat b.toNat)

/-- **The quoted literal** of a string of bytes. -/
def quotedBytes (bytes : List UInt8) : Text :=
  let quote := quoteForBytes bytes
  'b' :: quote :: bytes.flatMap (escapeByteIn quote) ++ [quote]

/-- The quoted literal of a buffer of bytes.  Here a single quote is escaped
    even where the literal is closed by a double one. -/
def quotedBuffer (bytes : List UInt8) : Text :=
  let quote := quoteForBytes bytes
  let escape := fun b : UInt8 => if b = 39 then ['\\', '\''] else escapeByteIn quote b
  'b' :: quote :: bytes.flatMap escape ++ [quote]

end SqlShell.Text
