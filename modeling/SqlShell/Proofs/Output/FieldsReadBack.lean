import SqlShell.Proofs.Output.Merging
import SqlShell.Proofs.Output.Records

/-! # Fields Are Read Back

    What a reader of delimited fields makes of a whole result.

    * **`recordsOf`** are the records that a result stands for: the names of its
      columns, and the fields of each row.
    * **`records_read_back`**: a reader for which a line is ended by a line feed,
      as it is written, reads exactly these records.
    * **`records_read_back_universally_iff`**: a reader for which a carriage
      return ends a line as well reads them **only if each field with a carriage
      return has another reason to stand in quotes**. -/

namespace SqlShell

/-- The delimiter of a format of fields. -/
def ResultFormat.delimiter? : ResultFormat → Option Char
  | csv => some ','
  | tsv => some '\t'
  | table | json => none

/-- **The fields that a row stands for**: the texts of its cells, and nothing for a
    missing value. -/
def fieldsOf (row : Row) : List Text :=
  row.map fun
    | .null => []
    | v => cellOf defaultNullMarker v

/-- **The records that a result stands for.**  The names of the columns come with the
    first batch. -/
def recordsOf (schema : Schema) (bs : List Batch) : List (List Text) :=
  (if bs = [] then [] else [schema.names]) ++ (rowsOf bs).map fieldsOf

theorem DelimitedLines.fields_eq_fieldsOf (row : Row) : fields row = fieldsOf row := by
  refine List.map_congr_left fun v _ => ?_
  cases v <;> rfl

/-! ## Dialects -/

namespace Dialect

variable {format : ResultFormat} {delimiter : Char}

theorem isSound_lineFeeds (h : format.delimiter? = some delimiter) :
    (lineFeeds delimiter).IsSound := by
  cases format <;> cases h <;> exact ⟨by decide, by decide, by decide, by decide⟩

theorem isSound_universal (h : format.delimiter? = some delimiter) :
    (universal delimiter).IsSound := by
  cases format <;> cases h <;> exact ⟨by decide, by decide, by decide, by decide⟩

theorem needsQuotes_iff (delimiter : Char) (field : Text) :
    DelimitedLines.needsQuotes delimiter field = true ↔
      delimiter ∈ field ∨ '"' ∈ field ∨ '\n' ∈ field := by
  simp only [DelimitedLines.needsQuotes, List.any_eq_true, decide_eq_true_eq]
  constructor
  · rintro ⟨c, hc, rfl | rfl | rfl⟩
    · exact .inl hc
    · exact .inr (.inl hc)
    · exact .inr (.inr hc)
  · rintro (h | h | h)
    · exact ⟨_, h, .inl rfl⟩
    · exact ⟨_, h, .inr (.inl rfl)⟩
    · exact ⟨_, h, .inr (.inr rfl)⟩

/-- A field with a line feed stands in quotes. -/
theorem takes_lineFeeds (delimiter : Char) (field : Text) : (lineFeeds delimiter).Takes field := by
  by_cases h : '\n' ∈ field
  · exact .inl ((needsQuotes_iff delimiter field).2 (.inr (.inr h)))
  · refine .inr fun c hc hend => h ?_
    rwa [← List.mem_singleton.1 hend]

/-- A field with a carriage return does not, for it. -/
theorem takes_universal_iff (delimiter : Char) (field : Text) :
    (universal delimiter).Takes field ↔
      ('\r' ∈ field → delimiter ∈ field ∨ '"' ∈ field ∨ '\n' ∈ field) := by
  rw [← needsQuotes_iff]
  constructor
  · rintro (h | h) hreturn
    · exact h
    · exact absurd (List.mem_cons_of_mem _ List.mem_cons_self) (h _ hreturn)
  · intro h
    by_cases hquotes : DelimitedLines.needsQuotes delimiter field = true
    · exact .inl hquotes
    · refine .inr fun c hc hend => hquotes ?_
      have hend : c = '\n' ∨ c = '\r' := by simpa [universal] using hend
      rcases hend with rfl | rfl
      · exact (needsQuotes_iff delimiter field).2 (.inr (.inr hc))
      · exact h hc

end Dialect

/-! ## Whole results -/

namespace Writer

variable {format : ResultFormat} {delimiter : Char} {schema : Schema}
  {bs : List Batch}

/-- **Delimited fields in closed form**: one line for each record. -/
theorem gives_takeWhole_delimited (settings : Settings)
    (hformat : format.delimiter? = some delimiter) (hs : schema ≠ []) (hb : HaveSchema schema bs) :
    ∃ last, ((create settings format).takeWhole bs).Gives
      ((recordsOf schema bs).map (DelimitedLines.record delimiter)) last := by
  have hcreate : create settings format = delimited { delimiter } := by
    cases format <;> cases hformat <;> rfl
  by_cases hne : bs = []
  · subst hne
    rw [hcreate]
    exact ⟨_, Production.gives_done _⟩
  · have hlines : (recordsOf schema bs).map (DelimitedLines.record delimiter)
        = [DelimitedLines.record delimiter schema.names] ++ (rowsOf bs).map fun row =>
            DelimitedLines.record delimiter (DelimitedLines.fields row) := by
      simp [recordsOf, hne, DelimitedLines.fields_eq_fieldsOf, Function.comp_def]
    have hbatch := DelimitedLines.gives_batch { delimiter } ⟨schema, rowsOf bs⟩
    simp only [Bool.false_eq_true, hs, or_self, if_false] at hbatch
    rw [hlines, takeWhole, hcreate, takeAll_eq_batch _ hne hb, ← List.append_nil (_ ++ _)]
    exact ⟨_, (hbatch.map delimited).andThen (Production.gives_done _)⟩

/-- **The records are read back.**  Whatever the names and the cells hold, and whatever
    the batches a result comes in: a reader of the same dialect finds the names of
    the columns and the fields of each row, in order, and nothing else. -/
theorem records_read_back (settings : Settings) (hformat : format.delimiter? = some delimiter)
    (hs : schema ≠ []) (hb : HaveSchema schema bs) :
    ∃ texts last, ((create settings format).takeWhole bs).Gives texts last ∧
      readRecords (.lineFeeds delimiter) texts.flatten = some (recordsOf schema bs) := by
  obtain ⟨last, hgives⟩ := gives_takeWhole_delimited settings hformat hs hb
  refine ⟨_, last, hgives, ?_⟩
  rw [← List.flatMap_def]
  refine (readRecords_eq_iff (Dialect.isSound_lineFeeds hformat) _).2 ?_
  intro record _ field _
  exact Dialect.takes_lineFeeds delimiter field

/-- One column, with a missing cell, an awkward one and an empty one, in two batches. -/
@[irreducible] def awkwardCells : List Batch :=
  [⟨[⟨"a,b".toList, "VARCHAR".toList⟩], [[.null], [.text "a,\"b\"\n".toList]]⟩,
    ⟨[⟨"a,b".toList, "VARCHAR".toList⟩], [[.text []]]⟩]

/-- An empty field that is alone on its line is not lost. -/
theorem records_read_back_awkward :
    ResultFormat.csv.delimiter? = some ',' ∧
    ∃ texts last, ((create {} .csv).takeWhole awkwardCells).Gives texts last ∧
      readRecords (.lineFeeds ',') texts.flatten
        = some [["a,b".toList], [[]], ["a,\"b\"\n".toList], [[]]] := by
  have hformat : ResultFormat.csv.delimiter? = some ',' := rfl
  have hb : HaveSchema [⟨"a,b".toList, "VARCHAR".toList⟩] awkwardCells := by
    unfold awkwardCells HaveSchema
    simp
  have hrecords : recordsOf [⟨"a,b".toList, "VARCHAR".toList⟩] awkwardCells
      = [["a,b".toList], [[]], ["a,\"b\"\n".toList], [[]]] := by
    unfold awkwardCells
    rfl
  obtain ⟨texts, last, hgives, hread⟩ :=
    records_read_back {} hformat (List.cons_ne_nil _ _) hb
  rw [hrecords] at hread
  exact ⟨hformat, texts, last, hgives, hread⟩

/-- **A reader for which a carriage return ends a line** finds them if and only if
    each field that holds one holds the delimiter, a quote or a line feed as well,
    and so stands in quotes. -/
theorem records_read_back_universally_iff (settings : Settings)
    (hformat : format.delimiter? = some delimiter) (hs : schema ≠ []) (hb : HaveSchema schema bs) :
    ∃ texts last, ((create settings format).takeWhole bs).Gives texts last ∧
      (readRecords (.universal delimiter) texts.flatten = some (recordsOf schema bs) ↔
        ∀ record ∈ recordsOf schema bs, ∀ field ∈ record, '\r' ∈ field →
          delimiter ∈ field ∨ '"' ∈ field ∨ '\n' ∈ field) := by
  obtain ⟨last, hgives⟩ := gives_takeWhole_delimited settings hformat hs hb
  refine ⟨_, last, hgives, ?_⟩
  rw [← List.flatMap_def]
  refine (readRecords_eq_iff (Dialect.isSound_universal hformat) _).trans ?_
  exact forall₄_congr fun _ _ field _ => Dialect.takes_universal_iff delimiter field

/-- A cell of two lines, as they are ended on some systems. -/
@[irreducible] def returnAndFeed : List Batch :=
  [⟨[⟨"x".toList, "VARCHAR".toList⟩], [[.text "a\r\nb".toList]]⟩]

/-- It stands in quotes for its line feed, and is read back. -/
theorem records_read_back_universally_returnAndFeed :
    ResultFormat.csv.delimiter? = some ',' ∧
    ∃ texts last, ((create {} .csv).takeWhole returnAndFeed).Gives texts last ∧
      readRecords (.universal ',') texts.flatten = some [["x".toList], ["a\r\nb".toList]] := by
  have hformat : ResultFormat.csv.delimiter? = some ',' := rfl
  have hb : HaveSchema [⟨"x".toList, "VARCHAR".toList⟩] returnAndFeed := by
    unfold returnAndFeed HaveSchema
    simp
  have hrecords : recordsOf [⟨"x".toList, "VARCHAR".toList⟩] returnAndFeed
      = [["x".toList], ["a\r\nb".toList]] := by
    unfold returnAndFeed
    rfl
  obtain ⟨texts, last, hgives, hread⟩ :=
    records_read_back_universally_iff {} hformat (List.cons_ne_nil _ _) hb
  rw [hrecords] at hread
  exact ⟨hformat, texts, last, hgives, hread.2 (by decide)⟩

/-- A cell with a carriage return alone. -/
@[irreducible] def loneReturn : List Batch :=
  [⟨[⟨"x".toList, "VARCHAR".toList⟩], [[.text "a\rb".toList]]⟩]

/-- It stands without quotes, and is read as two records. -/
theorem record_split_at_return :
    ∃ texts last, ((create {} .csv).takeWhole loneReturn).Gives texts last ∧
      readRecords (.universal ',') texts.flatten = some [["x".toList], ["a".toList], ["b".toList]] ∧
      readRecords (.universal ',') texts.flatten
        ≠ some (recordsOf [⟨"x".toList, "VARCHAR".toList⟩] loneReturn) := by
  have hformat : ResultFormat.csv.delimiter? = some ',' := rfl
  have hb : HaveSchema [⟨"x".toList, "VARCHAR".toList⟩] loneReturn := by
    unfold loneReturn HaveSchema
    simp
  have hrecords : recordsOf [⟨"x".toList, "VARCHAR".toList⟩] loneReturn
      = [["x".toList], ["a\rb".toList]] := by
    unfold loneReturn
    rfl
  obtain ⟨last, hgives⟩ := gives_takeWhole_delimited {} hformat (List.cons_ne_nil _ _) hb
  rw [hrecords] at hgives
  refine ⟨_, last, hgives, rfl, ?_⟩
  rw [hrecords]
  decide

end Writer

end SqlShell
