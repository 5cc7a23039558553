import SqlShell.Number.Digits

/-! # Dates, Times and Intervals

    Calendar values and the texts in which they are shown. -/

namespace SqlShell

open Text

/-! ## Dates -/

/-- A day of the calendar. -/
structure Date where
  year : Nat
  month : Nat
  day : Nat
deriving DecidableEq, Repr

/-- The text of a date: year, month and day with four, two and two digits. -/
def Date.text (d : Date) : Text :=
  paddedText 4 d.year ++ '-' :: paddedText 2 d.month ++ '-' :: paddedText 2 d.day

/-- The days from the first of March of the year 0 to a date.  Counted from
    March, the lengths of the months follow one rule and the leap day is last. -/
def Date.dayNumber (d : Date) : Int :=
  let year : Int := if d.month ≤ 2 then (d.year : Int) - 1 else d.year
  let month := (d.month + 9) % 12
  365 * year + year / 4 - year / 100 + year / 400 + ((153 * month + 2) / 5 : Nat) + d.day - 1

/-! ## Times of day -/

/-- A time of day; `offset` is the distance from universal time in seconds, if
    it is known. -/
structure TimeOfDay where
  hour : Nat
  minute : Nat
  second : Nat
  microsecond : Nat
  offset : Option Int
deriving DecidableEq, Repr

/-- The text of an offset: a sign, hours and minutes, and seconds if any. -/
def offsetText (offset : Int) : Text :=
  let n := offset.natAbs
  (if offset < 0 then '-' else '+')
    :: (paddedText 2 (n / 3600) ++ ':' :: paddedText 2 (n / 60 % 60)
      ++ if n % 60 = 0 then [] else ':' :: paddedText 2 (n % 60))

/-- The text of a time: microseconds are shown if there are any, and the offset
    if it is known. -/
def TimeOfDay.text (t : TimeOfDay) : Text :=
  paddedText 2 t.hour ++ ':' :: paddedText 2 t.minute ++ ':' :: paddedText 2 t.second
    ++ (if t.microsecond = 0 then [] else '.' :: paddedText 6 t.microsecond)
    ++ (t.offset.map offsetText).getD []

/-- The microseconds since midnight, of universal time if the offset is known. -/
def TimeOfDay.microseconds (t : TimeOfDay) : Int :=
  ((t.hour * 3600 + t.minute * 60 + t.second : Nat) - t.offset.getD 0) * 1000000 + t.microsecond

/-! ## Intervals -/

/-- A span of time: days of either sign, less than a day of seconds and less
    than a second of microseconds. -/
structure Interval where
  days : Int
  seconds : Nat
  microseconds : Nat
deriving DecidableEq, Repr

/-- The interval of some days, seconds and microseconds of any size. -/
def Interval.ofParts (days seconds microseconds : Int) : Interval :=
  let seconds := seconds + Int.fdiv microseconds 1000000
  ⟨days + Int.fdiv seconds 86400, (Int.fmod seconds 86400).toNat,
    (Int.fmod microseconds 1000000).toNat⟩

/-- The text of an interval: the days if there are any, the time, and
    microseconds if there are any. -/
def Interval.text (i : Interval) : Text :=
  (if i.days = 0 then []
    else integerText i.days ++ (if i.days.natAbs = 1 then " day, " else " days, ").toList)
  ++ decimalText (i.seconds / 3600) ++ ':' :: paddedText 2 (i.seconds / 60 % 60)
  ++ ':' :: paddedText 2 (i.seconds % 60)
  ++ (if i.microseconds = 0 then [] else '.' :: paddedText 6 i.microseconds)

end SqlShell
