import SqlShell.Text.LetterCase
import SqlShell.Value.Literal

/-! # Table Cells

    - `cellOf` is the text that stands for a value in a cell;
    - `widthOfType` is the width of a column whose values are not known yet. -/

namespace SqlShell

/-- **The text of a cell.**  A missing value is shown by the marker, a string
    of bytes in hexadecimal, and every other value by itself. -/
def cellOf (nullMarker : Text) : Value → Text
  | .null => nullMarker
  | .bool b => (if b then "true" else "false").toList
  | .bytes _ b => '\\' :: 'x' :: b.flatMap fun byte => hexText 2 byte.toNat
  | v => v.plain

/-- The marker for missing values unless another one is chosen. -/
def defaultNullMarker : Text := "NULL".toList

/-! ## Widths by type -/

/-- Words of type names and the width of a column whose type has one of them;
    an earlier line goes before a later one. -/
def typeWidths : List (List String × Int) :=
  [(["BOOL"], 5), (["TINYINT", "SMALLINT", "INT2"], 6),
   (["BIGINT", "HUGEINT", "INT8", "UBIGINT"], 20), (["INT"], 11),
   (["DECIMAL", "NUMERIC", "NUMBER"], 20), (["FLOAT", "DOUBLE", "REAL"], 24),
   (["TIMESTAMP", "DATETIME"], 26), (["DATE"], 10), (["TIME"], 15), (["UUID"], 36)]

/-- The width for every other type. -/
def otherTypeWidth : Int := 20

/-- **The width of a column by its type**, at most `maxWidth`. -/
def widthOfType (typeName : Text) (maxWidth : Int) : Int :=
  let capitals := Text.upperLatin typeName
  match typeWidths.find? fun (words, _) => words.any fun w => Text.occursIn w.toList capitals with
  | some (_, width) => min width maxWidth
  | none => min otherTypeWidth maxWidth

end SqlShell
