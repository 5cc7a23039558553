import SqlShell.Output.DelimitedLines
import SqlShell.Output.Format
import SqlShell.Output.JsonLines
import SqlShell.Output.TableDrawing

/-! # Writers

    The writer of a result in any of the formats. -/

namespace SqlShell

/-- **Writers.** -/
inductive Writer where
  | table (w : TableDrawing)
  | delimited (w : DelimitedLines)
  | jsonLines (w : JsonLines)

namespace Writer

/-- A new writer for a format. -/
def create (settings : Settings) : ResultFormat → Writer
  | .table =>
    table
      { maxWidth := settings.maxWidth, nullMarker := settings.nullMarker,
        lookaheadRows := settings.lookaheadRows }
  | .csv => delimited { delimiter := ',' }
  | .tsv => delimited { delimiter := '\t' }
  | .json => jsonLines {}

/-- A new writer for the format of exactly this name. -/
def named (settings : Settings) (name : Text) : Except Crash Writer :=
  match ResultFormat.ofName? name with
  | some f => .ok (create settings f)
  | none => .error (.noSuchWriter name)

/-- Takes a batch. -/
def batch (b : Batch) : Writer → Production Writer
  | table w => (w.batch b).map table
  | delimited w => (w.batch b).map delimited
  | jsonLines w => (w.batch b).map jsonLines

/-- Ends the result after its last batch. -/
def finish : Writer → Production Writer
  | table w => w.finish.map table
  | w => .done w

/-- Breaks the result off. -/
def abort : Writer → Production Writer
  | table w => w.abort.map table
  | w => .done w

end Writer

end SqlShell
