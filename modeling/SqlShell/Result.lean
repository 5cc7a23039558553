import SqlShell.Value.Basic

/-! # Results

    A result comes as a sequence of batches: some rows at a time, all with the
    same columns. -/

namespace SqlShell

/-- A column: its name and the type that the engine declares for it. -/
structure Column where
  name : Text
  typeName : Text
deriving DecidableEq, Repr

/-- The columns of a result, from left to right. -/
abbrev Schema := List Column

/-- The names of the columns. -/
def Schema.names (schema : Schema) : List Text := schema.map Column.name

/-- The cells of a row, from left to right. -/
abbrev Row := List Value

/-- **A batch**: some rows of a result. -/
structure Batch where
  schema : Schema
  rows : List Row

end SqlShell
