import SqlShell.Value.Cell

/-! # JSON Values

    - `JsonValue.ofValue` maps a value to a JSON value; what JSON has no form
      for becomes the text of its cell;
    - `JsonValue.render` prints a JSON value on one line. -/

namespace SqlShell

open Text

/-- **JSON values**, with the two kinds of number apart. -/
inductive JsonValue where
  | null
  | bool (b : Bool)
  | int (n : Int)
  | float (x : Binary64)
  | text (s : Text)
  | array (xs : List JsonValue)
  | object (members : List (Text × JsonValue))

namespace JsonValue

/-- The object of a list of members, in which a name may be repeated. -/
def ofMembers (members : List (Text × JsonValue)) : JsonValue :=
  object (Entries.ofList (fun a b => a = b) members)

mutual

/-- **The JSON value of a value.**  Keys of maps become texts. -/
def ofValue : Value → JsonValue
  | .null => null
  | .bool b => bool b
  | .int n => int n
  | .float x => float x
  | .text s => text s
  | .list xs => array (ofValues xs)
  | .tuple xs => array (ofValues xs)
  | .map entries => ofMembers (ofEntries entries)
  | v => text (cellOf defaultNullMarker v)

/-- The JSON values of a list of values. -/
def ofValues : List Value → List JsonValue
  | [] => []
  | x :: xs => ofValue x :: ofValues xs

/-- The members that the entries of a map become. -/
def ofEntries : List (Value × Value) → List (Text × JsonValue)
  | [] => []
  | (k, v) :: r => (k.plain, ofValue v) :: ofEntries r

end

/-! ## Printing -/

/-- The layout of numbers: as in cells, but for the values that are no numbers. -/
def numberLayout : Binary64.FloatLayout :=
  { displayLayout with undefinedText := "NaN".toList, infiniteText := "Infinity".toList }

/-- One character inside a string. -/
def escapeChar (c : Char) : Text :=
  if c = '"' then ['\\', '"']
  else if c = '\\' then ['\\', '\\']
  else if c = '\n' then ['\\', 'n']
  else if c = '\r' then ['\\', 'r']
  else if c = '\t' then ['\\', 't']
  else if c.toNat = 8 then ['\\', 'b']
  else if c.toNat = 12 then ['\\', 'f']
  else if c.toNat < 32 then '\\' :: 'u' :: hexText 4 c.toNat
  else [c]

/-- A text as a string in double quotes. -/
def stringText (s : Text) : Text := '"' :: s.flatMap escapeChar ++ ['"']

mutual

/-- **The text of a JSON value.** -/
def render : JsonValue → Text
  | null => "null".toList
  | bool b => (if b then "true" else "false").toList
  | int n => integerText n
  | float x => x.textIn numberLayout
  | text s => stringText s
  | array xs => '[' :: joinWith ", ".toList (renderAll xs) ++ [']']
  | object members => '\x7b' :: joinWith ", ".toList (renderMembers members) ++ ['\x7d']

/-- The texts of the elements of an array. -/
def renderAll : List JsonValue → List Text
  | [] => []
  | x :: xs => render x :: renderAll xs

/-- The texts of the members of an object. -/
def renderMembers : List (Text × JsonValue) → List Text
  | [] => []
  | (name, x) :: r => (stringText name ++ ':' :: ' ' :: render x) :: renderMembers r

end

end JsonValue

end SqlShell
