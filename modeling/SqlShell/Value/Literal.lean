import SqlShell.Number.Binary64.Printer
import SqlShell.Text.Quoted
import SqlShell.Value.Basic

/-! # Texts of Values

    - `Value.literal` is the text of a value inside another one: it shows the
      kind of the value;
    - `Value.plain` is the text of a value by itself. -/

namespace SqlShell

open Text

/-- **Floating-point numbers** are written plainly from `0.0001` up to, and
    not including, the first number of seventeen digits. -/
def displayLayout : Binary64.FloatLayout where
  plainFrom := -4
  plainBelow := 16
  wholeEnd := ".0".toList
  exponentDigits := 2
  undefinedText := "nan".toList
  infiniteText := "inf".toList

/-- The text of a floating-point number. -/
def Binary64.text (x : Binary64) : Text := x.textIn displayLayout

/-- A list of arguments in parentheses after a name. -/
def callText (name : String) (arguments : List Text) : Text :=
  name.toList ++ '(' :: joinWith ", ".toList arguments ++ [')']

/-- An interval, shown by the parts that are not zero. -/
def Interval.literal (i : Interval) : Text :=
  let part := fun (name : String) (text : Text) (shown : Bool) =>
    if shown then [name.toList ++ '=' :: text] else []
  let parts :=
    part "days" (integerText i.days) (i.days ≠ 0)
      ++ part "seconds" (decimalText i.seconds) (i.seconds ≠ 0)
      ++ part "microseconds" (decimalText i.microseconds) (i.microseconds ≠ 0)
  callText "datetime.timedelta" (if parts.isEmpty then [['0']] else parts)

/-- The arguments that show a time of day: seconds and microseconds only if
    they are needed, and the offset if it is known. -/
def TimeOfDay.arguments (t : TimeOfDay) : List Text :=
  let clock :=
    if t.microsecond ≠ 0 then [t.hour, t.minute, t.second, t.microsecond]
    else if t.second ≠ 0 then [t.hour, t.minute, t.second]
    else [t.hour, t.minute]
  let zone :=
    match t.offset with
    | none => []
    | some 0 => ["tzinfo=datetime.timezone.utc".toList]
    | some n =>
      ["tzinfo=".toList ++ callText "datetime.timezone" [(Interval.ofParts 0 n 0).literal]]
  clock.map decimalText ++ zone

/-- The arguments that show a date. -/
def Date.arguments (d : Date) : List Text := [d.year, d.month, d.day].map decimalText

/-- The text of a point in time: date, blank and time. -/
def timestampText (d : Date) (t : TimeOfDay) : Text := d.text ++ ' ' :: t.text

namespace Value

mutual

/-- **The text of a value inside another one.** -/
def literal : Value → Text
  | null => "None".toList
  | bool b => (if b then "True" else "False").toList
  | int n => integerText n
  | float x => x.text
  | text s => quoted s
  | decimal d => callText "Decimal" ['\'' :: d.text ++ ['\'']]
  | date d => callText "datetime.date" d.arguments
  | time t => callText "datetime.time" t.arguments
  | timestamp d t => callText "datetime.datetime" (d.arguments ++ t.arguments)
  | interval i => i.literal
  | bytes .buffer b => callText "bytearray" [quotedBuffer b]
  | bytes _ b => quotedBytes b
  | uuid n => callText "UUID" ['\'' :: uuidText n ++ ['\'']]
  | list xs => '[' :: joinWith ", ".toList (literals xs) ++ [']']
  | tuple [x] => '(' :: literal x ++ ",)".toList
  | tuple xs => '(' :: joinWith ", ".toList (literals xs) ++ [')']
  | map entries => '\x7b' :: joinWith ", ".toList (entryLiterals entries) ++ ['\x7d']

/-- The texts of the values of a list. -/
def literals : List Value → List Text
  | [] => []
  | x :: xs => literal x :: literals xs

/-- The texts of the entries of a map. -/
def entryLiterals : List (Value × Value) → List Text
  | [] => []
  | (k, v) :: r => (literal k ++ ':' :: ' ' :: literal v) :: entryLiterals r

end

/-- **The text of a value by itself.**  Texts, dates and the like are shown
    without quotes and names. -/
def plain : Value → Text
  | text s => s
  | decimal d => d.text
  | date d => d.text
  | time t => t.text
  | timestamp d t => timestampText d t
  | interval i => i.text
  | uuid n => uuidText n
  | v => literal v

end Value

end SqlShell
