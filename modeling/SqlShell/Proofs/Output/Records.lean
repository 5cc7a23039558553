import Mathlib.Tactic.Push
import SqlShell.Output.DelimitedLines

/-! # Reading Records

    A reader of delimited fields, and what it makes of the lines that are
    written.

    * **`Dialect`** and **`readRecords`** are the reader: a delimiter between two
      fields, quotes around a field in which quotes are doubled, and a line end
      behind each record.  `RecordReader.step` is what it does with a character.
    * **`run_record`** reads one record back, and **`exists_wrong_record`** says
      what becomes of a record with a field that the reader takes for several.
    * **`readRecords_eq_iff`** puts them together: the records are read back if
      and only if no field without quotes holds the end of a line. -/

namespace SqlShell

open Text

/-! ## Readers -/

/-- **A dialect** of delimited fields. -/
structure Dialect where
  /-- What stands between two fields. -/
  delimiter : Char
  /-- The characters that end a record outside quotes.  A line feed behind a
      carriage return that ends one belongs to it. -/
  lineEnds : Text

namespace Dialect

/-- Lines are ended by line feeds only, as they are written. -/
def lineFeeds (delimiter : Char) : Dialect := ⟨delimiter, ['\n']⟩

/-- Lines are ended by a line feed, a carriage return, or both. -/
def universal (delimiter : Char) : Dialect := ⟨delimiter, ['\n', '\r']⟩

end Dialect

/-- **Where a reader stands.** -/
inductive RecordPlace where
  /-- Before a record, and maybe between a carriage return and a line feed. -/
  | before (afterReturn : Bool)
  /-- Before a field, behind a delimiter. -/
  | field
  /-- In a field without quotes. -/
  | plain
  /-- Between quotes. -/
  | quoted
  /-- Behind a quote that closes the field, or is the first of two. -/
  | closing

/-- **A reader of records**: where it stands, and what it has read. -/
structure RecordReader where
  place : RecordPlace := .before false
  /-- The field, so far. -/
  field : Text := []
  /-- The fields in front of it in the record. -/
  fields : List Text := []
  /-- The records in front of this one. -/
  records : List (List Text) := []

namespace RecordReader

/-- A record ends with the character `c`. -/
def endRecord (σ : RecordReader) (fields : List Text) (c : Char) : RecordReader :=
  { place := .before (c = '\r'), records := σ.records ++ [fields] }

/-- The field ends, with a delimiter or with its record; nothing else may follow it. -/
def endField (d : Dialect) (σ : RecordReader) (c : Char) : Option RecordReader :=
  if c = d.delimiter then
    some { σ with place := .field, field := [], fields := σ.fields ++ [σ.field] }
  else if c ∈ d.lineEnds then some (σ.endRecord (σ.fields ++ [σ.field]) c)
  else none

/-- A field begins, and ends at once if it is empty. -/
def beginField (d : Dialect) (σ : RecordReader) (c : Char) : Option RecordReader :=
  if c = '"' then some { σ with place := .quoted }
  else (σ.endField d c).or (some { σ with place := .plain, field := [c] })

/-- **Reads one character.**  An empty line is a record without fields, and a quote
    stands at either end of a field or is one of two. -/
def step (d : Dialect) (σ : RecordReader) (c : Char) : Option RecordReader :=
  match σ.place with
  | .before afterReturn =>
    if afterReturn ∧ c = '\n' then some { σ with place := .before false }
    else if c ∈ d.lineEnds then some (σ.endRecord [] c)
    else σ.beginField d c
  | .field => σ.beginField d c
  | .plain =>
    if c = '"' then none
    else (σ.endField d c).or (some { σ with field := σ.field ++ [c] })
  | .quoted =>
    if c = '"' then some { σ with place := .closing }
    else some { σ with field := σ.field ++ [c] }
  | .closing =>
    if c = '"' then some { σ with place := .quoted, field := σ.field ++ [c] }
    else σ.endField d c

/-- The records, where the text ends.  It does not end between quotes. -/
def finish (σ : RecordReader) : Option (List (List Text)) :=
  match σ.place with
  | .before _ => some σ.records
  | .quoted => none
  | .field | .plain | .closing => some (σ.records ++ [σ.fields ++ [σ.field]])

/-- Reads a text to its end. -/
def run (d : Dialect) (σ : RecordReader) (s : Text) : Option (List (List Text)) :=
  (s.foldlM (step d) σ).bind finish

end RecordReader

/-- **Reads the records** of a text; none if it is not well formed. -/
def readRecords (d : Dialect) (s : Text) : Option (List (List Text)) :=
  RecordReader.run d {} s

/-- An empty line is no field, and a field between quotes may be empty. -/
example : readRecords (.lineFeeds ',') "\n\"\"\na,\"b\"\"\n\"\n".toList
    = some [[], [[]], ["a".toList, "b\"\n".toList]] := rfl

/-- A reader with universal line ends takes a return and a line feed for one. -/
example : readRecords (.universal ',') "a\r\nb\rc\n".toList
    = some [["a".toList], ["b".toList], ["c".toList]] := rfl

namespace RecordReader

variable {d : Dialect} {σ τ : RecordReader}

/-! ## Steps -/

theorem run_nil (d : Dialect) (σ : RecordReader) : run d σ [] = σ.finish := rfl

theorem run_cons {c : Char} (s : Text) (h : step d σ c = some τ) :
    run d σ (c :: s) = run d τ s := by
  rw [run, List.foldlM_cons, h]
  rfl

theorem run_cons_of_none {c : Char} (s : Text) (h : step d σ c = none) :
    run d σ (c :: s) = none := by
  rw [run, List.foldlM_cons, h]
  rfl

/-- What has been read stays. -/
theorem prefix_endField {c : Char} (h : σ.endField d c = some τ) : σ.records <+: τ.records := by
  unfold endField at h
  split at h
  · obtain rfl := Option.some.inj h
    exact List.prefix_rfl
  · split at h
    · obtain rfl := Option.some.inj h
      exact List.prefix_append _ _
    · cases h

theorem prefix_beginField {c : Char} (h : σ.beginField d c = some τ) :
    σ.records <+: τ.records := by
  unfold beginField at h
  split at h
  · obtain rfl := Option.some.inj h
    exact List.prefix_rfl
  · rcases Option.or_eq_some_iff.1 h with h | ⟨-, h⟩
    · exact prefix_endField h
    · obtain rfl := Option.some.inj h
      exact List.prefix_rfl

theorem prefix_step {c : Char} (h : step d σ c = some τ) : σ.records <+: τ.records := by
  unfold step at h
  split at h
  case h_1 =>
    split at h
    · obtain rfl := Option.some.inj h
      exact List.prefix_rfl
    · split at h
      · obtain rfl := Option.some.inj h
        exact List.prefix_append _ _
      · exact prefix_beginField h
  case h_2 => exact prefix_beginField h
  case h_3 =>
    split at h
    · cases h
    · rcases Option.or_eq_some_iff.1 h with h | ⟨-, h⟩
      · exact prefix_endField h
      · obtain rfl := Option.some.inj h
        exact List.prefix_rfl
  case h_4 =>
    split at h
    all_goals
      obtain rfl := Option.some.inj h
      exact List.prefix_rfl
  case h_5 =>
    split at h
    · obtain rfl := Option.some.inj h
      exact List.prefix_rfl
    · exact prefix_endField h

/-- **The records that have been read** are the first ones in the end. -/
theorem prefix_run {s : Text} {records : List (List Text)} (h : run d σ s = some records) :
    σ.records <+: records := by
  induction s generalizing σ with
  | nil =>
    rw [run_nil] at h
    unfold finish at h
    split at h
    · obtain rfl := Option.some.inj h
      exact List.prefix_rfl
    · cases h
    all_goals
      obtain rfl := Option.some.inj h
      exact List.prefix_append _ _
  | cons c s ih =>
    cases hstep : step d σ c with
    | none =>
      rw [run_cons_of_none s hstep] at h
      cases h
    | some τ =>
      rw [run_cons s hstep] at h
      exact (prefix_step hstep).trans (ih h)

end RecordReader

/-! ## Fields -/

namespace Dialect

/-- The delimiter, the quote and the ends of lines are unlike each other, and a line
    feed ends a line. -/
structure IsSound (d : Dialect) : Prop where
  delimiter_ne : d.delimiter ≠ '"'
  quote_not_mem : '"' ∉ d.lineEnds
  delimiter_not_mem : d.delimiter ∉ d.lineEnds
  feed_mem : '\n' ∈ d.lineEnds

theorem IsSound.feed_ne_delimiter {d : Dialect} (h : d.IsSound) : '\n' ≠ d.delimiter := by
  intro heq
  exact h.delimiter_not_mem (heq ▸ h.feed_mem)

/-- **The reader takes the field for one**, as it is written: it stands in quotes, or
    holds no end of a line. -/
def Takes (d : Dialect) (field : Text) : Prop :=
  DelimitedLines.needsQuotes d.delimiter field = true ∨ ∀ c ∈ field, c ∉ d.lineEnds

theorem takes_nil (d : Dialect) : d.Takes [] := .inr fun _ h => nomatch h

end Dialect

namespace RecordReader

variable {d : Dialect}

/-- A reader before a record. -/
def atRecord (records : List (List Text)) : RecordReader := { records }

/-- A reader before a field. -/
def atField (records : List (List Text)) (fields : List Text) : RecordReader :=
  { place := .field, fields, records }

section Steps

variable {c : Char} (field : Text) (fields : List Text) (records : List (List Text))

theorem step_atField (h : c ≠ '"') : step d (atField records fields) c
    = (endField d { fields, records } c).or
        (some { place := .plain, field := [c], fields, records }) := if_neg h

theorem step_plain (h : c ≠ '"') : step d { place := .plain, field, fields, records } c
    = (endField d { field, fields, records } c).or
        (some { place := .plain, field := field ++ [c], fields, records }) := if_neg h

theorem step_closing (h : c ≠ '"') : step d { place := .closing, field, fields, records } c
    = endField d { field, fields, records } c := if_neg h

/-- What does not end a field belongs to it. -/
theorem endField_eq_none (hdelimiter : c ≠ d.delimiter) (hend : c ∉ d.lineEnds) :
    endField d { field, fields, records } c = none := by
  rw [endField, if_neg hdelimiter, if_neg hend]

end Steps

theorem not_needsQuotes {delimiter : Char} {field : Text}
    (h : DelimitedLines.needsQuotes delimiter field = false) :
    ∀ c ∈ field, c ≠ delimiter ∧ c ≠ '"' ∧ c ≠ '\n' := by
  intro c hc
  simpa using List.any_eq_false.1 h c hc

/-- The text of a field that needs no quotes. -/
theorem run_plain {s : Text} (rest : Text)
    (hs : ∀ c ∈ s, c ≠ d.delimiter ∧ c ≠ '"' ∧ c ∉ d.lineEnds)
    (field : Text) (fields : List Text) (records : List (List Text)) :
    run d { place := .plain, field, fields, records } (s ++ rest)
      = run d { place := .plain, field := field ++ s, fields, records } rest := by
  induction s generalizing field with
  | nil => rw [List.nil_append, List.append_nil]
  | cons c s ih =>
    obtain ⟨⟨hdelimiter, hquote, hend⟩, hs⟩ := List.forall_mem_cons.1 hs
    have hstep : step d { place := .plain, field, fields, records } c
        = some { place := .plain, field := field ++ [c], fields, records } := by
      rw [step_plain _ _ _ hquote, endField_eq_none _ _ _ hdelimiter hend, Option.none_or]
    rw [List.cons_append, run_cons _ hstep, ih hs, List.append_assoc, List.singleton_append]

/-- The text between quotes, in which quotes are doubled. -/
theorem run_doubled (s rest : Text) (field : Text) (fields : List Text)
    (records : List (List Text)) :
    run d { place := .quoted, field, fields, records } (substitute '"' ['"', '"'] s ++ rest)
      = run d { place := .quoted, field := field ++ s, fields, records } rest := by
  induction s generalizing field with
  | nil =>
    rw [List.append_nil]
    rfl
  | cons c s ih =>
    by_cases hquote : c = '"'
    · have htext : substitute '"' ['"', '"'] (c :: s) ++ rest
          = '"' :: '"' :: (substitute '"' ['"', '"'] s ++ rest) := by
        simp [substitute, hquote]
      have hfirst : step d { place := .quoted, field, fields, records } '"'
          = some { place := .closing, field, fields, records } := rfl
      have hsecond : step d { place := .closing, field, fields, records } '"'
          = some { place := .quoted, field := field ++ ['"'], fields, records } := rfl
      rw [htext, run_cons _ hfirst, run_cons _ hsecond, ih, hquote, List.append_assoc,
        List.singleton_append]
    · have htext : substitute '"' ['"', '"'] (c :: s) ++ rest
          = c :: (substitute '"' ['"', '"'] s ++ rest) := by
        simp [substitute, hquote]
      have hstep : step d { place := .quoted, field, fields, records } c
          = some { place := .quoted, field := field ++ [c], fields, records } := by
        simp [step, hquote]
      rw [htext, run_cons _ hstep, ih, List.append_assoc, List.singleton_append]

/-- **One field** and what ends it. -/
theorem run_fieldText (hd : d.IsSound) {field : Text} (hfield : d.Takes field) {c : Char}
    {fields : List Text} {records : List (List Text)} {τ : RecordReader}
    (hc : endField d { field, fields, records } c = some τ) (rest : Text) :
    run d (atField records fields)
        (DelimitedLines.fieldText d.delimiter field ++ c :: rest) = run d τ rest := by
  have hne : c ≠ '"' := by
    rintro rfl
    simp [endField, hd.delimiter_ne.symm, hd.quote_not_mem] at hc
  -- The field stands in quotes, or holds nothing that ends it.
  unfold DelimitedLines.fieldText
  split
  case isTrue =>
    have htext : DelimitedLines.quoteField field ++ c :: rest
        = '"' :: (substitute '"' ['"', '"'] field ++ '"' :: c :: rest) := by
      simp [DelimitedLines.quoteField]
    have hopen : step d (atField records fields) '"'
        = some { place := .quoted, field := [], fields, records } := rfl
    have hclose : step d { place := .quoted, field, fields, records } '"'
        = some { place := .closing, field, fields, records } := rfl
    have hend : step d { place := .closing, field, fields, records } c = some τ := by
      rw [step_closing _ _ _ hne, hc]
    rw [htext, run_cons _ hopen, run_doubled, List.nil_append, run_cons _ hclose, run_cons _ hend]
  case isFalse hquotes =>
    have hquotes : DelimitedLines.needsQuotes d.delimiter field = false := by simpa using hquotes
    have hends : ∀ c ∈ field, c ∉ d.lineEnds := by
      rcases hfield with h | h
      · rw [hquotes] at h
        cases h
      · exact h
    have hplain : ∀ c ∈ field, c ≠ d.delimiter ∧ c ≠ '"' ∧ c ∉ d.lineEnds := by
      intro c hmem
      obtain ⟨hdelimiter, hquote, -⟩ := not_needsQuotes hquotes c hmem
      exact ⟨hdelimiter, hquote, hends c hmem⟩
    cases field with
    | nil =>
      have hend : step d (atField records fields) c = some τ := by
        rw [step_atField _ _ hne, hc]
        rfl
      exact run_cons _ hend
    | cons a field =>
      obtain ⟨⟨hdelimiter, hquote, hmem⟩, hplain⟩ := List.forall_mem_cons.1 hplain
      have hbegin : step d (atField records fields) a
          = some { place := .plain, field := [a], fields, records } := by
        rw [step_atField _ _ hquote, endField_eq_none _ _ _ hdelimiter hmem, Option.none_or]
      have hend : step d { place := .plain, field := a :: field, fields, records } c = some τ := by
        rw [step_plain _ _ _ hne, hc]
        rfl
      rw [List.cons_append, run_cons _ hbegin, run_plain _ hplain]
      exact run_cons _ hend

/-- A field and a delimiter. -/
theorem run_fieldText_delimiter (hd : d.IsSound) {field : Text} (hfield : d.Takes field)
    (fields : List Text) (records : List (List Text)) (rest : Text) :
    run d (atField records fields)
        (DelimitedLines.fieldText d.delimiter field ++ d.delimiter :: rest)
      = run d (atField records (fields ++ [field])) rest :=
  run_fieldText hd hfield (if_pos rfl) rest

/-- A field and the end of its line. -/
theorem run_fieldText_feed (hd : d.IsSound) {field : Text} (hfield : d.Takes field)
    (fields : List Text) (records : List (List Text)) (rest : Text) :
    run d (atField records fields) (DelimitedLines.fieldText d.delimiter field ++ '\n' :: rest)
      = run d (atRecord (records ++ [fields ++ [field]])) rest := by
  have hend : endField d { field, fields, records } '\n'
      = some (atRecord (records ++ [fields ++ [field]])) := by
    rw [endField, if_neg hd.feed_ne_delimiter, if_pos hd.feed_mem]
    rfl
  exact run_fieldText hd hfield hend rest

/-! ## Records -/

/-- A field, and the fields behind it. -/
theorem joined_cons_cons (delimiter : Char) (field field' : Text) (fields : List Text)
    (rest : Text) :
    joinWith [delimiter]
        ((field :: field' :: fields).map (DelimitedLines.fieldText delimiter)) ++ '\n' :: rest
      = DelimitedLines.fieldText delimiter field ++ delimiter :: (joinWith [delimiter]
        ((field' :: fields).map (DelimitedLines.fieldText delimiter)) ++ '\n' :: rest) := by
  simp [joinWith]

/-- **The fields of a line**, behind some others. -/
theorem run_joined (hd : d.IsSound) {fields : List Text} (hne : fields ≠ [])
    (hfields : ∀ field ∈ fields, d.Takes field) (front : List Text)
    (records : List (List Text)) (rest : Text) :
    run d (atField records front) (joinWith [d.delimiter]
        (fields.map (DelimitedLines.fieldText d.delimiter)) ++ '\n' :: rest)
      = run d (atRecord (records ++ [front ++ fields])) rest := by
  induction fields generalizing front with
  | nil => exact absurd rfl hne
  | cons field fields ih =>
    obtain ⟨hfield, hfields⟩ := List.forall_mem_cons.1 hfields
    cases fields with
    | nil => exact run_fieldText_feed hd hfield front records rest
    | cons field' fields =>
      rw [joined_cons_cons, run_fieldText_delimiter hd hfield, ih (List.cons_ne_nil _ _) hfields,
        List.append_assoc, List.singleton_append]

/-- A record begins like a field, unless its line is empty. -/
theorem run_atRecord {c : Char} (hc : c ∉ d.lineEnds) (records : List (List Text)) (s : Text) :
    run d (atRecord records) (c :: s) = run d (atField records []) (c :: s) := by
  have hstep : step d (atRecord records) c = step d (atField records []) c := by
    simp [step, atRecord, atField, beginField, endField, hc]
  rw [run, run, List.foldlM_cons, List.foldlM_cons, hstep]

/-- A field that the reader takes does not begin with the end of a line. -/
theorem exists_head_fieldText (hd : d.IsSound) {field : Text} (hne : field ≠ [])
    (hfield : d.Takes field) :
    ∃ c s, DelimitedLines.fieldText d.delimiter field = c :: s ∧ c ∉ d.lineEnds := by
  unfold DelimitedLines.fieldText
  split
  case isTrue => exact ⟨'"', _, rfl, hd.quote_not_mem⟩
  case isFalse hquotes =>
    obtain ⟨c, s, rfl⟩ := List.exists_cons_of_ne_nil hne
    refine ⟨c, s, rfl, ?_⟩
    rcases hfield with h | h
    · exact absurd h hquotes
    · exact h c List.mem_cons_self

/-- Neither does a line of them. -/
theorem exists_head_joined (hd : d.IsSound) {fields : List Text} (hne : fields ≠ [])
    (hnil : fields ≠ [[]]) (hfields : ∀ field ∈ fields, d.Takes field) (rest : Text) :
    ∃ c s, joinWith [d.delimiter] (fields.map (DelimitedLines.fieldText d.delimiter))
      ++ '\n' :: rest = c :: s ∧ c ∉ d.lineEnds := by
  obtain ⟨field, fields, rfl⟩ := List.exists_cons_of_ne_nil hne
  cases field with
  | nil =>
    -- An empty field is followed by a delimiter, as it is not the only one.
    cases fields with
    | nil => exact absurd rfl hnil
    | cons field fields => exact ⟨d.delimiter, _, rfl, hd.delimiter_not_mem⟩
  | cons a field =>
    obtain ⟨c, s, hc, hmem⟩ := exists_head_fieldText hd (List.cons_ne_nil a field)
      (hfields _ List.mem_cons_self)
    cases fields with
    | nil =>
      refine ⟨c, s ++ '\n' :: rest, ?_, hmem⟩
      simp [joinWith, hc]
    | cons field fields =>
      rw [joined_cons_cons, hc]
      exact ⟨c, _, rfl, hmem⟩

/-- **A record is read back** from its line. -/
theorem run_record (hd : d.IsSound) {fields : List Text}
    (hfields : ∀ field ∈ fields, d.Takes field) (records : List (List Text)) (rest : Text) :
    run d (atRecord records) (DelimitedLines.record d.delimiter fields ++ rest)
      = run d (atRecord (records ++ [fields])) rest := by
  by_cases hnone : fields = []
  · subst hnone
    -- The line of a record without fields is empty.
    have hstep : step d (atRecord records) '\n' = some (atRecord (records ++ [[]])) := by
      simp [step, atRecord, endRecord, hd.feed_mem]
    exact run_cons rest hstep
  by_cases hempty : fields = [[]]
  · subst hempty
    -- A single empty field stands in quotes, or its line would be empty.
    have htext : DelimitedLines.record d.delimiter [[]] ++ rest = '"' :: '"' :: '\n' :: rest := rfl
    have hopen : step d (atField records []) '"'
        = some { place := .quoted, records } := rfl
    have hclose : step d { place := .quoted, records } '"'
        = some { place := .closing, records } := rfl
    have hend : step d { place := .closing, records } '\n'
        = some (atRecord (records ++ [[[]]])) := by
      simp [step, endField, hd.feed_ne_delimiter, hd.feed_mem, endRecord, atRecord]
    rw [htext, run_atRecord hd.quote_not_mem, run_cons _ hopen, run_cons _ hclose,
      run_cons _ hend]
  · have htext : DelimitedLines.record d.delimiter fields ++ rest = joinWith [d.delimiter]
        (fields.map (DelimitedLines.fieldText d.delimiter)) ++ '\n' :: rest := by
      simp [DelimitedLines.record, hempty]
    obtain ⟨c, s, hs, hc⟩ := exists_head_joined hd hnone hempty hfields rest
    rw [htext, hs, run_atRecord hc, ← hs, run_joined hd hnone hfields, List.nil_append]

/-- A field that the reader takes for several stands without quotes, and ends at the
    first end of a line in it. -/
theorem exists_cut {field : Text} (hfield : ¬ d.Takes field) :
    DelimitedLines.needsQuotes d.delimiter field = false ∧
      ∃ front c back, field = front ++ c :: back ∧ c ∈ d.lineEnds ∧
        DelimitedLines.needsQuotes d.delimiter front = false ∧ d.Takes front := by
  obtain ⟨hquotes, hends⟩ := not_or.1 hfield
  have hquotes : DelimitedLines.needsQuotes d.delimiter field = false := by simpa using hquotes
  push Not at hends
  obtain ⟨c', hmem', hend'⟩ := hends
  obtain ⟨c, front, back, hfront, hend, rfl, -⟩ :=
    List.exists_of_eraseP (p := (· ∈ d.lineEnds)) hmem' (decide_eq_true hend')
  refine ⟨hquotes, front, c, back, rfl, of_decide_eq_true hend, ?_, .inr fun a ha hmem => ?_⟩
  · rw [DelimitedLines.needsQuotes, List.any_append] at hquotes
    exact (Bool.or_eq_false_iff.1 hquotes).1
  · exact hfront a ha (decide_eq_true hmem)

/-- **A line with such a field** is read as another record, and what follows it. -/
theorem exists_wrong_joined (hd : d.IsSound) {fields : List Text}
    (hfields : ∃ field ∈ fields, ¬ d.Takes field) {front : List Text}
    {records result : List (List Text)} {rest : Text}
    (h : run d (atField records front) (joinWith [d.delimiter]
        (fields.map (DelimitedLines.fieldText d.delimiter)) ++ '\n' :: rest) = some result) :
    ∃ wrong, wrong ≠ front ++ fields ∧ records ++ [wrong] <+: result := by
  induction fields generalizing front with
  | nil => simp at hfields
  | cons field fields ih =>
    by_cases hfield : d.Takes field
    · -- The field is read, and the next one is reached.
      obtain ⟨bad, hmem, hbad⟩ := hfields
      have hmem : bad ∈ fields := by
        rcases List.mem_cons.1 hmem with rfl | hmem
        · exact absurd hfield hbad
        · exact hmem
      cases fields with
      | nil => cases hmem
      | cons field' fields =>
        rw [joined_cons_cons, run_fieldText_delimiter hd hfield] at h
        obtain ⟨wrong, hwrong, hprefix⟩ := ih ⟨bad, hmem, hbad⟩ h
        rw [List.append_assoc, List.singleton_append] at hwrong
        exact ⟨wrong, hwrong, hprefix⟩
    · -- The record ends within the field.
      obtain ⟨hquotes, cut, c, back, rfl, hc, hcut, htakes⟩ := exists_cut hfield
      obtain ⟨tail, htail⟩ : ∃ tail, joinWith [d.delimiter] (((cut ++ c :: back) :: fields).map
          (DelimitedLines.fieldText d.delimiter)) ++ '\n' :: rest
          = DelimitedLines.fieldText d.delimiter cut ++ c :: tail := by
        cases fields <;> simp [joinWith, DelimitedLines.fieldText, hquotes, hcut]
      have hne : c ≠ d.delimiter := by
        rintro rfl
        exact hd.delimiter_not_mem hc
      have hend : endField d { field := cut, fields := front, records } c
          = some { place := .before (c = '\r'), records := records ++ [front ++ [cut]] } := by
        rw [endField, if_neg hne, if_pos hc]
        rfl
      rw [htail, run_fieldText hd htakes hend] at h
      refine ⟨front ++ [cut], ?_, prefix_run h⟩
      intro heq
      have hlength := congrArg List.length (List.cons.inj (List.append_cancel_left heq)).1
      simp at hlength

/-- **A record with such a field** is read as another one, and what follows it. -/
theorem exists_wrong_record (hd : d.IsSound) {fields : List Text}
    (hfields : ∃ field ∈ fields, ¬ d.Takes field) {records result : List (List Text)}
    {rest : Text} (h : run d (atRecord records)
      (DelimitedLines.record d.delimiter fields ++ rest) = some result) :
    ∃ wrong, wrong ≠ fields ∧ records ++ [wrong] <+: result := by
  have hne : fields ≠ [] := by
    rintro rfl
    simp at hfields
  have hempty : fields ≠ [[]] := by
    rintro rfl
    simp [d.takes_nil] at hfields
  have htext : DelimitedLines.record d.delimiter fields ++ rest = joinWith [d.delimiter]
      (fields.map (DelimitedLines.fieldText d.delimiter)) ++ '\n' :: rest := by
    simp [DelimitedLines.record, hempty]
  obtain ⟨c, s, hs⟩ : ∃ c s, joinWith [d.delimiter]
      (fields.map (DelimitedLines.fieldText d.delimiter)) ++ '\n' :: rest = c :: s :=
    List.exists_cons_of_ne_nil (by simp)
  rw [htext, hs] at h
  by_cases hc : c ∈ d.lineEnds
  · -- A line that begins with its end is empty.
    have hstep : step d (atRecord records) c
        = some { place := .before (c = '\r'), records := records ++ [[]] } := by
      simp [step, atRecord, endRecord, hc]
    rw [run_cons _ hstep] at h
    exact ⟨[], hne.symm, prefix_run h⟩
  · rw [run_atRecord hc, ← hs] at h
    exact exists_wrong_joined hd hfields h

end RecordReader

/-! ## All records -/

theorem RecordReader.run_records_eq_iff {d : Dialect} (hd : d.IsSound)
    (front records : List (List Text)) :
    run d (atRecord front) (records.flatMap (DelimitedLines.record d.delimiter))
        = some (front ++ records) ↔
      ∀ record ∈ records, ∀ field ∈ record, d.Takes field := by
  induction records generalizing front with
  | nil => simp [run_nil, finish, atRecord]
  | cons record records ih =>
    rw [List.flatMap_cons, List.forall_mem_cons]
    by_cases hrecord : ∀ field ∈ record, d.Takes field
    · have hfront : front ++ record :: records = front ++ [record] ++ records := by simp
      rw [run_record hd hrecord, hfront, ih, and_iff_right hrecord]
    · refine iff_of_false ?_ fun h => hrecord h.1
      intro h
      push Not at hrecord
      obtain ⟨wrong, hwrong, hprefix⟩ := exists_wrong_record hd hrecord h
      rw [List.prefix_append_right_inj] at hprefix
      exact hwrong (List.cons_prefix_cons.1 hprefix).1

/-- **The records are read back** as they were written if and only if the reader takes
    each of their fields for one. -/
theorem readRecords_eq_iff {d : Dialect} (hd : d.IsSound) (records : List (List Text)) :
    readRecords d (records.flatMap (DelimitedLines.record d.delimiter)) = some records ↔
      ∀ record ∈ records, ∀ field ∈ record, d.Takes field :=
  RecordReader.run_records_eq_iff hd [] records

end SqlShell
