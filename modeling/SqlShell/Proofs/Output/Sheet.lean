import SqlShell.Proofs.Output.Production

/-! # Sheets

    What a writer makes of a whole result: **one text for each row**, in order,
    within the frame that its format puts around them.

    * **Delimited fields** and **JSON lines** write a row as soon as it comes.
    * **A table** keeps rows back until it knows its widths; `Drawn` is the
      invariant that no row is lost or drawn twice over this. -/

namespace SqlShell

/-- The rows of some batches, in order. -/
def rowsOf (bs : List Batch) : List Row := bs.flatMap Batch.rows

@[simp] theorem rowsOf_nil : rowsOf [] = [] := rfl

@[simp] theorem rowsOf_singleton (b : Batch) : rowsOf [b] = b.rows := List.append_nil _

@[simp] theorem rowsOf_append (bs bs' : List Batch) :
    rowsOf (bs ++ bs') = rowsOf bs ++ rowsOf bs' := List.flatMap_append

/-- The batches have these columns. -/
def HaveSchema (schema : Schema) (bs : List Batch) : Prop := ∀ b ∈ bs, b.schema = schema

theorem HaveSchema.concat {schema : Schema} {bs : List Batch} {b : Batch}
    (h : HaveSchema schema (bs ++ [b])) : HaveSchema schema bs ∧ b.schema = schema :=
  ⟨fun b' hb => h b' (by simp [hb]), h b (by simp)⟩

/-! ## The frame of each format -/

namespace TableDrawing

/-- The head of a table. -/
def headLines (schema : Schema) (widths : List Int) : List Text :=
  [border widths, rowLine widths schema.names, border widths]

/-- **The lines of rows** in a table, one for each row. -/
def rowLines (w : TableDrawing) (widths : List Int) (rows : List Row) : List Text :=
  rows.map fun row => rowLine widths (w.cells row)

end TableDrawing

/-- **The texts are the sheet of a result** with the columns `schema` and the
    batches `bs`, as a new writer makes it.  Only a table without rows may be
    left out. -/
def Writer.MakesSheet (schema : Schema) (bs : List Batch) (texts : List Text) : Writer → Prop
  | table w =>
    rowsOf bs = [] ∧ texts = [] ∨
    ∃ note widths, (note = [] ∨ note = [widthNote]) ∧
      texts = note ++ TableDrawing.headLines schema widths ++ w.rowLines widths (rowsOf bs)
        ++ [TableDrawing.border widths]
  | delimited w =>
    texts = (if bs = [] then [] else [DelimitedLines.record w.delimiter schema.names])
      ++ (rowsOf bs).map fun row => DelimitedLines.record w.delimiter (DelimitedLines.fields row)
  | jsonLines _ => texts = (rowsOf bs).map (JsonLines.line (distinctNames schema.names))

variable {schema : Schema} {bs : List Batch} {texts : List Text}

/-! ## Delimited fields and JSON lines -/

theorem DelimitedLines.gives_batch (w : DelimitedLines) (b : Batch) :
    (w.batch b).Gives ((if w.begun ∨ b.schema = [] then []
        else [record w.delimiter b.schema.names])
      ++ b.rows.map fun row => record w.delimiter (fields row)) { w with begun := true } :=
  Production.gives_forEach_write _ _

theorem JsonLines.gives_batch (w : JsonLines) (b : Batch) :
    (w.batch b).Gives (b.rows.map (line (w.names.getD (distinctNames b.schema.names))))
      { w with names := some (w.names.getD (distinctNames b.schema.names)) } :=
  Production.gives_forEach_write _ _

/-- After some batches the delimited fields are those of the rows that have come. -/
theorem Writer.takeAll_delimited {delimiter : Char} {last : Writer} (hs : schema ≠ [])
    (h : ((delimited { delimiter }).takeAll bs).Gives texts last) (hb : HaveSchema schema bs) :
    (delimited { delimiter }).MakesSheet schema bs texts ∧
      last = delimited { delimiter, begun := !bs.isEmpty } := by
  refine Production.forEach_induction (P := fun bs texts last => HaveSchema schema bs →
    (delimited { delimiter }).MakesSheet schema bs texts ∧
      last = delimited { delimiter, begun := !bs.isEmpty })
    (fun _ => ⟨rfl, rfl⟩) ?_ h hb
  intro bs texts _ b texts' last ih h hb
  obtain ⟨hbs, rfl⟩ := hb.concat
  obtain ⟨ht, rfl⟩ := ih hbs
  obtain ⟨rfl, rfl⟩ := h.unique
    ((DelimitedLines.gives_batch { delimiter, begun := !bs.isEmpty } b).map delimited)
  simp only [MakesSheet] at ht ⊢
  refine ⟨?_, by simp⟩
  rw [ht]
  -- The names of the columns come with the first batch only.
  by_cases he : bs = []
  · simp [he, hs]
  · simp [he]

/-- After some batches the JSON lines are those of the rows that have come. -/
theorem Writer.takeAll_jsonLines {last : Writer}
    (h : ((jsonLines {}).takeAll bs).Gives texts last) (hb : HaveSchema schema bs) :
    (jsonLines {}).MakesSheet schema bs texts ∧
      ∃ w, last = jsonLines w ∧
        w.names.getD (distinctNames schema.names) = distinctNames schema.names := by
  refine Production.forEach_induction (P := fun bs texts last => HaveSchema schema bs →
    (jsonLines {}).MakesSheet schema bs texts ∧ ∃ w, last = jsonLines w ∧
      w.names.getD (distinctNames schema.names) = distinctNames schema.names)
    (fun _ => ⟨rfl, {}, rfl, rfl⟩) ?_ h hb
  intro bs texts _ b texts' last ih h hb
  obtain ⟨hbs, rfl⟩ := hb.concat
  obtain ⟨ht, w, rfl, hn⟩ := ih hbs
  obtain ⟨rfl, rfl⟩ := h.unique ((JsonLines.gives_batch w b).map jsonLines)
  simp only [MakesSheet] at ht ⊢
  refine ⟨?_, _, rfl, by simp [hn]⟩
  rw [ht, hn, rowsOf_append, rowsOf_singleton, List.map_append]

/-! ## Tables -/

namespace TableDrawing

/-- **What a table has written**, and where its writer stands, when some rows
    have come: it keeps all of them back, or it has drawn them all. -/
inductive Drawn (new : TableDrawing) (schema : Schema) (rows : List Row) :
    List Text → TableDrawing → Prop where
  | keeping :
      Drawn new schema rows []
        { new with schema := some schema, pending := (rows.map new.cells).reverse, widths := none }
  | drawing (widths : List Int) :
      Drawn new schema rows (widthNote :: headLines schema widths ++ new.rowLines widths rows)
        { new with schema := some schema, pending := [], widths := some widths }

/-- The cells of a row depend on the choices of the user only. -/
@[simp] theorem cells_with (w : TableDrawing) (schema : Option Schema) (pending : List (List Text))
    (widths : Option (List Int)) : { w with schema, pending, widths }.cells = w.cells := rfl

/-- The widths that a table is begun with: a cut value must have room for its mark. -/
def startWidths (given : List Int) (early : Bool) : List Int :=
  if early then given.map fun w => max w (ellipsis.length : Int) else given

/-- Beginning the table draws the rows that were kept back, with these widths. -/
theorem gives_startWidths (w : TableDrawing) (schema : Schema) (given : List Int) (early : Bool) :
    (w.start schema given early).Gives
      ((if early then [widthNote] else []) ++ (headLines schema (startWidths given early)
        ++ w.pending.reverse.map (rowLine (startWidths given early))))
      { w with widths := some (startWidths given early), pending := [] } := by
  let begun := { w with widths := some (startWidths given early) }
  let lines := headLines schema (startWidths given early)
    ++ w.pending.reverse.map (rowLine (startWidths given early))
  have hnote : (if early then Production.write w widthNote else .done w).Gives
      (if early then [widthNote] else []) w := by
    cases early
    · exact Production.gives_done w
    · exact Production.gives_write w widthNote
  have hstart : w.start schema given early
      = ((if early then Production.write w widthNote else .done w).andThen fun _ =>
          Production.forEach Production.write begun lines).andThen fun begun =>
            .done { begun with pending := [] } := rfl
  rw [hstart, ← List.append_nil (_ ++ _)]
  refine Production.Gives.andThen ?_ (Production.gives_done { begun with pending := [] })
  exact hnote.andThen (Production.gives_forEach_write begun lines)

/-- Beginning the table draws the rows that were kept back. -/
theorem gives_start (w : TableDrawing) (schema : Schema) (given : List Int) (early : Bool) :
    ∃ widths, (w.start schema given early).Gives
      ((if early then [widthNote] else []) ++ (headLines schema widths
        ++ w.pending.reverse.map (rowLine widths)))
      { w with widths := some widths, pending := [] } :=
  ⟨startWidths given early, gives_startWidths w schema given early⟩

/-- So it does with widths by content, if the rows can be measured. -/
theorem of_startByRows {w last : TableDrawing} {early : Bool}
    (h : (w.startByRows schema early).Gives texts last) :
    ∃ widths, texts = (if early then [widthNote] else []) ++ (headLines schema widths
        ++ w.pending.reverse.map (rowLine widths)) ∧
      last = { w with widths := some widths, pending := [] } := by
  unfold startByRows at h
  split at h
  case h_1 given _ =>
    obtain ⟨widths, hw⟩ := gives_start w schema given early
    exact ⟨widths, h.unique hw⟩
  case h_2 => exact absurd h (Production.not_gives_fail _ _)

variable {new w last : TableDrawing} {rows : List Row}

/-- A row that can be drawn is drawn or kept back. -/
theorem Drawn.row {r : Row} {texts' : List Text} (d : Drawn new schema rows texts w)
    (h : (row schema w r).Gives texts' last) :
    Drawn new schema (rows ++ [r]) (texts ++ texts') last := by
  -- What is to be shown in either state, with the row among those that have come.
  have kept_concat : Drawn new schema (rows ++ [r]) [] _ := .keeping
  have drawn_concat (widths : List Int) : Drawn new schema (rows ++ [r]) _ _ := .drawing widths
  unfold TableDrawing.row at h
  split at h
  case isTrue => exact absurd h (Production.not_gives_fail _ _)
  case isFalse =>
    cases d with
    | drawing widths =>
      obtain ⟨rfl, rfl⟩ := h.unique (Production.gives_write _ _)
      simpa [rowLines] using drawn_concat widths
    | keeping =>
      dsimp only at h
      split at h
      case isTrue =>
        -- One row too many is kept back: all of them are drawn, this one included.
        obtain ⟨widths, rfl, rfl⟩ := of_startByRows h
        simpa [rowLines, Function.comp_def] using drawn_concat widths
      case isFalse =>
        obtain ⟨rfl, rfl⟩ := h.unique (Production.gives_done _)
        simpa using kept_concat

theorem Drawn.allRows {rows' : List Row} {texts' : List Text} (d : Drawn new schema rows texts w)
    (h : (Production.forEach (TableDrawing.row schema) w rows').Gives texts' last) :
    Drawn new schema (rows ++ rows') (texts ++ texts') last := by
  refine Production.forEach_induction (P := fun rows' texts' last =>
    Drawn new schema (rows ++ rows') (texts ++ texts') last)
    (by simpa using d) ?_ h
  intro rows' texts' w r texts'' last ih h
  simpa using ih.row h

/-- The first batch brings the columns, and its rows. -/
theorem Drawn.first {b : Batch} (hs : schema ≠ []) (hb : b.schema = schema)
    (hnew : new.schema = none ∧ new.pending = [] ∧ new.widths = none)
    (h : (new.batch b).Gives texts last) : Drawn new schema b.rows texts last := by
  obtain ⟨hschema, hpending, hwidths⟩ := hnew
  simp only [TableDrawing.batch, hschema, Option.getD_none, hb, Option.isNone_none, if_true] at h
  obtain ⟨first, w, second, hfirst, hsecond, rfl⟩ := h.of_andThen
  have d : Drawn new schema [] first w := by
    split at hfirst
    case isTrue =>
      -- Without a look-ahead the table is begun before its first row.
      obtain ⟨widths, hw⟩ := gives_start { new with schema := some schema } schema
        ({ new with schema := some schema }.widthsOfTypes schema) true
      obtain ⟨rfl, rfl⟩ := hfirst.unique hw
      have d : Drawn new schema [] _ _ := .drawing widths
      simpa [rowLines, hpending] using d
    case isFalse =>
      obtain ⟨rfl, rfl⟩ := hfirst.unique (Production.gives_done _)
      have d : Drawn new schema [] [] _ := .keeping
      simpa [hpending, hwidths] using d
  rw [if_neg hs] at hsecond
  simpa using d.allRows hsecond

/-- A later batch brings its rows. -/
theorem Drawn.batch {b : Batch} {texts' : List Text} (hs : schema ≠ [])
    (d : Drawn new schema rows texts w) (h : (w.batch b).Gives texts' last) :
    Drawn new schema (rows ++ b.rows) (texts ++ texts') last := by
  have hw : w.schema = some schema := by cases d <;> rfl
  simp only [TableDrawing.batch, hw, Option.getD_some, Option.isNone_some, Bool.false_eq_true,
    if_false, hs, Production.done_andThen] at h
  exact d.allRows h

/-- The end of a table makes the sheet whole. -/
theorem Drawn.finish {bs : List Batch} {texts' : List Text} (hs : schema ≠ [])
    (d : Drawn new schema (rowsOf bs) texts w) (h : w.finish.Gives texts' last) :
    (Writer.table new).MakesSheet schema bs (texts ++ texts') := by
  cases d with
  | drawing widths =>
    simp only [TableDrawing.finish, hs, if_false] at h
    obtain ⟨rfl, rfl⟩ := h.unique (Production.gives_write _ _)
    exact .inr ⟨[widthNote], widths, .inr rfl, by simp⟩
  | keeping =>
    simp only [TableDrawing.finish, hs, if_false] at h
    split at h
    case isTrue hrows =>
      -- Nothing has been kept back, so there are no rows, and no table is drawn.
      obtain ⟨rfl, rfl⟩ := h.unique (Production.gives_done _)
      exact .inl ⟨by simpa using hrows, rfl⟩
    case isFalse =>
      obtain ⟨first, w, second, hfirst, hsecond, rfl⟩ := h.of_andThen
      obtain ⟨widths, rfl, rfl⟩ := of_startByRows hfirst
      obtain ⟨rfl, rfl⟩ := hsecond.unique (Production.gives_write _ _)
      exact .inr ⟨[], widths, .inl rfl, by simp [rowLines, Function.comp_def]⟩

end TableDrawing

namespace Writer

/-- After some batches a table keeps back or has drawn the rows that have come. -/
theorem takeAll_table {new : TableDrawing} {last : Writer} (hs : schema ≠ [])
    (hnew : new.schema = none ∧ new.pending = [] ∧ new.widths = none)
    (h : ((table new).takeAll bs).Gives texts last) (hb : HaveSchema schema bs) :
    bs = [] ∧ texts = [] ∧ last = table new ∨
      ∃ w, last = table w ∧ new.Drawn schema (rowsOf bs) texts w := by
  refine Production.forEach_induction (P := fun bs texts last => HaveSchema schema bs →
    bs = [] ∧ texts = [] ∧ last = table new ∨
      ∃ w, last = table w ∧ new.Drawn schema (rowsOf bs) texts w)
    (fun _ => .inl ⟨rfl, rfl, rfl⟩) ?_ h hb
  intro bs texts _ b texts' last ih h hb
  right
  obtain ⟨hbs, hone⟩ := hb.concat
  rcases ih hbs with ⟨rfl, rfl, rfl⟩ | ⟨w, rfl, d⟩
  · obtain ⟨w, rfl, hw⟩ := h.of_map
    exact ⟨w, rfl, by simpa using TableDrawing.Drawn.first hs hone hnew hw⟩
  · obtain ⟨w, rfl, hw⟩ := h.of_map
    exact ⟨w, rfl, by simpa using d.batch hs hw⟩

/-- **A result that is taken to its end is written as a sheet**: every row once,
    in order, whatever the batches it comes in. -/
theorem makesSheet_takeWhole (settings : Settings) (format : ResultFormat) {last : Writer}
    (hs : schema ≠ []) (hb : HaveSchema schema bs)
    (h : ((create settings format).takeWhole bs).Gives texts last) :
    (create settings format).MakesSheet schema bs texts := by
  obtain ⟨first, w, second, hall, hfinish, rfl⟩ := h.of_andThen
  -- Only a table has something to write at the end.
  have undrawn (hw : w.finish = .done w) : second = [] :=
    (hfinish.unique (hw ▸ Production.gives_done w)).1
  cases format with
  | table =>
    rcases takeAll_table hs ⟨rfl, rfl, rfl⟩ hall hb with ⟨rfl, rfl, rfl⟩ | ⟨w, rfl, d⟩
    · obtain ⟨rfl, rfl⟩ := hfinish.unique ((Production.gives_done _).map table)
      exact .inl ⟨rfl, rfl⟩
    · obtain ⟨_, _, hw⟩ := hfinish.of_map
      exact d.finish hs hw
  | csv | tsv =>
    obtain ⟨ht, rfl⟩ := takeAll_delimited hs hall hb
    rwa [undrawn rfl, List.append_nil]
  | json =>
    obtain ⟨ht, w, rfl, -⟩ := takeAll_jsonLines hall hb
    rwa [undrawn rfl, List.append_nil]

/-- **A result that is broken off** is at most closed with a border. -/
theorem gives_abort (w : Writer) : ∃ last,
    w.abort.Gives [] last ∨ ∃ widths, w.abort.Gives [TableDrawing.border widths] last := by
  cases w with
  | delimited w => exact ⟨_, .inl (Production.gives_done _)⟩
  | jsonLines w => exact ⟨_, .inl (Production.gives_done _)⟩
  | table w =>
    cases hw : w.widths with
    | none =>
      have habort : w.abort = .done { w with pending := [] } := by simp [TableDrawing.abort, hw]
      refine ⟨table { w with pending := [] }, .inl ?_⟩
      rw [abort, habort]
      exact (Production.gives_done _).map table
    | some widths =>
      have habort : w.abort
          = .write { w with pending := [] } (TableDrawing.border widths) := by
        simp [TableDrawing.abort, hw]
      refine ⟨table { w with pending := [] }, .inr ⟨widths, ?_⟩⟩
      rw [abort, habort]
      exact (Production.gives_write _ _).map table

end Writer

end SqlShell
