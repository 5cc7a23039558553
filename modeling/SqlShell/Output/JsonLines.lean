import SqlShell.Output.Production
import SqlShell.Result
import SqlShell.Value.Json

/-! # JSON Lines

    One JSON object a line for each row, with a member for each column.
    Columns of the same name are told apart by a number at its end. -/

namespace SqlShell

open Text

/-! ## Unlike names -/

/-- The name `name_k`. -/
def suffixed (name : Text) (k : Nat) : Text := name ++ '_' :: decimalText k

/-- The first of the names `name_k`, `name_(k+1)`, … that is not among `taken`,
    if it is found with `fuel` trials. -/
def freshSuffix (taken : List Text) (name : Text) (k : Nat) : Nat → Text
  | 0 => suffixed name k
  | fuel + 1 =>
    if suffixed name k ∈ taken then freshSuffix taken name (k + 1) fuel else suffixed name k

/-- The name itself, or its first suffixed form, that is not among `taken`.  One
    trial more than there are names taken is enough. -/
def freshName (taken : List Text) (name : Text) : Text :=
  if name ∈ taken then freshSuffix taken name 1 taken.length else name

/-- The names made unlike each other and unlike those `taken`, which are kept
    backwards. -/
def distinctNamesAfter (taken : List Text) : List Text → List Text
  | [] => []
  | name :: r =>
    let fresh := freshName taken name
    fresh :: distinctNamesAfter (fresh :: taken) r

/-- **Unlike names** for columns: a name that has been given before gets the
    first number that makes it a new one. -/
def distinctNames (names : List Text) : List Text := distinctNamesAfter [] names

/-! ## The writer -/

/-- **The writer of JSON lines.** -/
structure JsonLines where
  /-- The names of the members, once a batch has come. -/
  names : Option (List Text) := none

namespace JsonLines

/-- The line of a row. -/
def line (names : List Text) (row : Row) : Text :=
  (JsonValue.ofMembers (List.zip names (JsonValue.ofValues row))).render ++ ['\n']

/-- **Takes a batch.** -/
def batch (w : JsonLines) (b : Batch) : Production JsonLines :=
  let names := w.names.getD (distinctNames b.schema.names)
  Production.forEach Production.write { w with names := some names } (b.rows.map (line names))

end JsonLines

end SqlShell
