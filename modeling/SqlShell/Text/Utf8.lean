import SqlShell.Number.Digits

/-! # UTF-8

    Decoding of bytes into a text.  A fault names the bytes that cannot be
    part of a character and says why: the first byte starts no character, a
    later one does not continue it, or the bytes end too early. -/

namespace SqlShell

/-- Why bytes are no character. -/
inductive Utf8Cause where
  /-- The byte can start no character. -/
  | invalidStart
  /-- The byte after these does not continue the character. -/
  | invalidContinuation
  /-- The text ends within the character. -/
  | unexpectedEnd

/-- A place where bytes are no text. -/
structure Utf8Fault where
  cause : Utf8Cause
  /-- How many bytes come before the fault. -/
  position : Nat
  /-- The first byte at fault. -/
  byte : UInt8
  /-- How many bytes are at fault, at least one. -/
  count : Nat

namespace Utf8

/-- A continuation byte. -/
def isContinuation (b : UInt8) : Bool := 0x80 ≤ b && b < 0xC0

/-- The bytes that may follow the first byte of a character of three or four
    bytes; the others would give an overlong form, a surrogate or a number
    above the last code point. -/
def isSecond (first second : UInt8) : Bool :=
  isContinuation second
    && (first != 0xE0 || 0xA0 ≤ second) && (first != 0xED || second < 0xA0)
    && (first != 0xF0 || 0x90 ≤ second) && (first != 0xF4 || second < 0x90)

/-- The character of the low bits of some bytes, the first of which has
    `mark` set above its bits. -/
def compose (mark : Nat) (first : UInt8) (others : List UInt8) : Char :=
  Char.ofNat (others.foldl (fun n b => n * 64 + b.toNat % 64) (first.toNat - mark))

/-- Decodes the bytes that stand behind `position` others. -/
def decodeFrom (position : Nat) : List UInt8 → Except Utf8Fault Text
  | [] => .ok []
  | a :: r =>
    let fault (cause : Utf8Cause) (count : Nat) : Except Utf8Fault Text :=
      .error ⟨cause, position, a, count⟩
    if a < 0x80 then
      (decodeFrom (position + 1) r).map (Char.ofNat a.toNat :: ·)
    -- Two bytes would not be needed below, and the last code point ends above.
    else if a < 0xC2 || 0xF5 ≤ a then fault .invalidStart 1
    else match r with
      | [] => fault .unexpectedEnd 1
      | b :: r =>
        if !isSecond a b then fault .invalidContinuation 1
        else if a < 0xE0 then (decodeFrom (position + 2) r).map (compose 0xC0 a [b] :: ·)
        else match r with
          | [] => fault .unexpectedEnd 2
          | c :: r =>
            if !isContinuation c then fault .invalidContinuation 2
            else if a < 0xF0 then (decodeFrom (position + 3) r).map (compose 0xE0 a [b, c] :: ·)
            else match r with
              | [] => fault .unexpectedEnd 3
              | d :: r =>
                if !isContinuation d then fault .invalidContinuation 3
                else (decodeFrom (position + 4) r).map (compose 0xF0 a [b, c, d] :: ·)

/-- **The text** that bytes encode. -/
def decode (bytes : List UInt8) : Except Utf8Fault Text := decodeFrom 0 bytes

end Utf8

namespace Utf8Fault

/-- The reason in words. -/
def reason (f : Utf8Fault) : String :=
  match f.cause with
  | .invalidStart => "invalid start byte"
  | .invalidContinuation => "invalid continuation byte"
  | .unexpectedEnd => "unexpected end of data"

/-- The message of a fault: one byte is shown, several are counted. -/
def message (f : Utf8Fault) : Text :=
  "'utf-8' codec can't decode byte".toList
    ++ (if f.count = 1 then
          " 0x".toList ++ hexText 2 f.byte.toNat ++ " in position ".toList ++ decimalText f.position
        else
          "s in position ".toList ++ decimalText f.position ++ ['-']
            ++ decimalText (f.position + f.count - 1))
    ++ ": ".toList ++ f.reason.toList

end Utf8Fault

end SqlShell
