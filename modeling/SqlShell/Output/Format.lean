import SqlShell.Failure
import SqlShell.Text.LetterCase

/-! # Output Formats

    The four formats in which results are written, and their names. -/

namespace SqlShell

/-- **Output formats.** -/
inductive ResultFormat where
  /-- A table drawn with lines. -/
  | table
  /-- Fields with commas between them. -/
  | csv
  /-- Fields with tabulators between them. -/
  | tsv
  /-- One JSON object a line. -/
  | json
deriving DecidableEq, Repr

namespace ResultFormat

/-- The name of a format. -/
def name : ResultFormat → Text
  | table => "table".toList
  | csv => "csv".toList
  | tsv => "tsv".toList
  | json => "json".toList

/-- All formats. -/
def all : List ResultFormat := [table, csv, tsv, json]

/-- The format of exactly this name. -/
def ofName? (s : Text) : Option ResultFormat := all.find? fun f => f.name = s

/-- **The format that a user names**: blanks around the name and the case of
    its letters do not count, and `ndjson` is another name of `json`.  The
    error shows the name as it was given. -/
def parse (given : Option Text) : Except CommandError ResultFormat :=
  let key := Text.lower (Text.trim (given.getD []))
  let key := if key = "ndjson".toList then json.name else key
  match ofName? key with
  | some f => .ok f
  | none => .error (.unknownFormat (given.getD "None".toList))

end ResultFormat

end SqlShell
