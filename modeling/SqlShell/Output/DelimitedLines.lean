import SqlShell.Output.Production
import SqlShell.Result
import SqlShell.Value.Cell

/-! # Delimited Fields

    A header line with the names of the columns and a line for each row, the
    fields separated by one character.  A field that holds the delimiter, a
    quote or a line feed is put in quotes, and a quote in it is doubled. -/

namespace SqlShell

open Text

/-- **The writer of delimited fields.** -/
structure DelimitedLines where
  delimiter : Char
  /-- Whether the header has been written. -/
  begun : Bool := false

namespace DelimitedLines

/-- Whether a field has to be put in quotes. -/
def needsQuotes (delimiter : Char) (field : Text) : Bool :=
  field.any fun c => c = delimiter ∨ c = '"' ∨ c = '\n'

/-- A field in quotes. -/
def quoteField (field : Text) : Text := '"' :: substitute '"' ['"', '"'] field ++ ['"']

/-- A field as it is written. -/
def fieldText (delimiter : Char) (field : Text) : Text :=
  if needsQuotes delimiter field then quoteField field else field

/-- A line of fields.  A single empty field is put in quotes, to tell the line
    from one without fields. -/
def record (delimiter : Char) (fields : List Text) : Text :=
  (if fields = [[]] then quoteField []
    else joinWith [delimiter] (fields.map (fieldText delimiter))) ++ ['\n']

/-- The fields of a row: a missing value is an empty field. -/
def fields (row : Row) : List Text := row.map (cellOf [])

/-- **Takes a batch.**  The first one brings the header, unless it has no
    columns. -/
def batch (w : DelimitedLines) (b : Batch) : Production DelimitedLines :=
  let header := if w.begun ∨ b.schema = [] then [] else [record w.delimiter b.schema.names]
  Production.forEach Production.write { w with begun := true }
    (header ++ b.rows.map fun row => record w.delimiter (fields row))

end DelimitedLines

end SqlShell
