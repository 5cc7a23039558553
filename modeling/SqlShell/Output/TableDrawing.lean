import SqlShell.Output.Production
import SqlShell.Output.Settings
import SqlShell.Result

/-! # Tables

    A table is drawn with lines around it.  Its columns have to be measured
    before anything can be drawn, so the first rows are kept back:

    - if the result ends among them, every cell fits its column;
    - if not, the widths are fixed by the rows that have come, a note says so,
      and longer cells are cut short;
    - with a look-ahead of no rows at all, the widths follow from the types. -/

namespace SqlShell

open Text

/-- What takes the place of the end of a cell that is cut short. -/
def ellipsis : Text := "...".toList

/-- The note that widths were fixed early. -/
def widthNote : Text :=
  ("Note: column widths were fixed before the whole result arrived; "
    ++ "longer values are truncated.\n").toList

/-- **The writer of a table.** -/
structure TableDrawing where
  maxWidth : Int
  /-- The text for missing values; without it they cannot be drawn. -/
  nullMarker : Given Text
  lookaheadRows : Int
  /-- The columns, once a batch has come. -/
  schema : Option Schema := none
  /-- The cells of the rows kept back, the last row first. -/
  pending : List (List Text) := []
  /-- The widths, once the table has been begun. -/
  widths : Option (List Int) := none

namespace TableDrawing

/-! ## Drawing -/

/-- The text of a cell without characters that would break its line. -/
def escapeCell (s : Text) : Text :=
  substitute '\t' [' '] (substitute '\n' ['\\', 'n'] (substitute '\r' ['\\', 'r'] s))

/-- The row can be drawn: there is a marker for its missing values. -/
def canDraw (w : TableDrawing) (row : Row) : Bool := w.nullMarker.isSome || !row.any Value.isNull

/-- The cells of a row that can be drawn. -/
def cells (w : TableDrawing) (row : Row) : List Text :=
  row.map fun v => escapeCell (cellOf (w.nullMarker.getD []) v)

/-- A text made as wide as its column: filled up with blanks, or cut short. -/
def fit (s : Text) (width : Int) : Text :=
  if s.length ≤ width then padRight width.toNat ' ' s
  else s.take (width - ellipsis.length).toNat ++ ellipsis

/-- A line between rows. -/
def border (widths : List Int) : Text :=
  '+' :: joinWith ['+'] (widths.map fun w => List.replicate (w + 2).toNat '-') ++ "+\n".toList

/-- A row of cells. -/
def rowLine (widths : List Int) (cells : List Text) : Text :=
  "| ".toList ++ joinWith " | ".toList (List.zipWith fit cells widths) ++ " |\n".toList

/-! ## Measuring -/

/-- Widens columns so that the cells of a row fit; `none` if there are more
    cells than columns. -/
def widen : List Int → List Text → Option (List Int)
  | widths, [] => some widths
  | [], _ :: _ => none
  | w :: widths, c :: cells => (widen widths cells).map (max w c.length :: ·)

/-- Widens columns so that the cells of all rows fit. -/
def widenAll (widths : List Int) : List (List Text) → Option (List Int)
  | [] => some widths
  | cells :: r => (widen widths cells).bind fun widths' => widenAll widths' r

/-- **Widths by content**: a column is as wide as its name and the cells that
    have come, and no wider than the greatest width.  A row with more cells
    than there are columns cannot be measured. -/
def widthsOfRows (w : TableDrawing) (schema : Schema) : Option (List Int) :=
  (widenAll (schema.names.map fun n => (n.length : Int)) w.pending.reverse).map fun widths =>
    widths.map (min · w.maxWidth)

/-- **Widths by type.** -/
def widthsOfTypes (w : TableDrawing) (schema : Schema) : List Int :=
  schema.map fun c =>
    min (max (c.name.length : Int) (widthOfType c.typeName w.maxWidth)) w.maxWidth

/-! ## Writing -/

/-- **Begins the table**: the note if the widths are fixed early, the header,
    and the rows that were kept back. -/
def start (w : TableDrawing) (schema : Schema) (widths : List Int) (early : Bool) :
    Production TableDrawing :=
  -- Longer values may still come, and a cut value must have room for its mark.
  let widths := if early then widths.map fun w => max w (ellipsis.length : Int) else widths
  let begun := { w with widths := some widths }
  let note := if early then Production.write w widthNote else .done w
  (note.andThen fun _ =>
    Production.forEach Production.write begun
      ([border widths, rowLine widths schema.names, border widths]
        ++ w.pending.reverse.map (rowLine widths))).andThen fun begun =>
  .done { begun with pending := [] }

/-- Begins the table with widths by content. -/
def startByRows (w : TableDrawing) (schema : Schema) (early : Bool) : Production TableDrawing :=
  match w.widthsOfRows schema with
  | some widths => w.start schema widths early
  | none => .fail w .rowTooLong

/-- Takes one row: draws it, or keeps it back until there are too many. -/
def row (schema : Schema) (w : TableDrawing) (r : Row) : Production TableDrawing :=
  if !w.canDraw r then .fail w (.noOperation "list" "replace")
  else
    let cells := w.cells r
    match w.widths with
    | some widths => .write w (rowLine widths cells)
    | none =>
      -- The row that is one too many is drawn with those kept back before it.
      let w := { w with pending := cells :: w.pending }
      if w.lookaheadRows < w.pending.length then w.startByRows schema true else .done w

/-- **Takes a batch.**  The first one brings the columns; a result without
    columns is not drawn. -/
def batch (w : TableDrawing) (b : Batch) : Production TableDrawing :=
  -- The columns of later batches are not looked at.
  let schema := w.schema.getD b.schema
  let begun :=
    if w.schema.isNone then
      let w := { w with schema := some schema }
      if w.lookaheadRows ≤ 0 ∧ schema ≠ [] then w.start schema (w.widthsOfTypes schema) true
      else .done w
    else .done w
  begun.andThen fun w =>
    if schema = [] then .done w else Production.forEach (row schema) w b.rows

/-- **Ends the table** after the last batch.  Nothing is drawn for no rows. -/
def finish (w : TableDrawing) : Production TableDrawing :=
  match w.schema with
  | none => .done w
  | some schema =>
    if schema = [] then .done w
    else match w.widths with
      | some widths => .write w (border widths)
      | none =>
        if w.pending.isEmpty then .done w
        else (w.startByRows schema false).andThen fun w =>
          .write w (border (w.widths.getD []))

/-- **Breaks the table off**: rows kept back are dropped, and a table that has
    been begun is closed. -/
def abort (w : TableDrawing) : Production TableDrawing :=
  let w := { w with pending := [] }
  match w.widths with
  | some widths => .write w (border widths)
  | none => .done w

end TableDrawing

end SqlShell
