import SqlShell.Proofs.Output.Fitting

/-! # The Table as a Whole

    What the writer of a table makes of a result, said without the rows that it
    keeps back on the way.

    * **`columnWidths`** and **`wholeTable`** say what the table looks like.
    * **`written`** and **`standing`** are what has been written after some
      rows, and where the writer stands then; **`gives_row`** is the step from
      one row to the next.
    * **`table_in_closed_form`** is the result. -/

namespace SqlShell

namespace TableDrawing

/-! ## The closed form -/

/-- The length of the longest of some texts. -/
def longest (texts : List Text) : Nat := texts.foldr (fun text n => max text.length n) 0

/-- The cells that some rows have in column `i`. -/
def column (w : TableDrawing) (rows : List Row) (i : Nat) : List Text :=
  rows.map fun row => (w.cells row).getD i []

/-- **Widths by content**: as wide as the name and the cells of some rows. -/
def contentWidths (w : TableDrawing) (schema : Schema) (rows : List Row) : List Int :=
  schema.mapIdx fun i c => min (longest (c.name :: w.column rows i) : Int) w.maxWidth

/-- The widths have been fixed early, when `n` rows have come. -/
def IsEarly (w : TableDrawing) (n : Nat) : Prop := w.lookaheadRows ≤ 0 ∨ w.lookaheadRows < n

instance (w : TableDrawing) : DecidablePred w.IsEarly := fun _ =>
  inferInstanceAs (Decidable (_ ∨ _))

/-- **The widths of the columns** of a table with these rows. -/
def columnWidths (w : TableDrawing) (schema : Schema) (rows : List Row) : List Int :=
  if w.lookaheadRows ≤ 0 then
    schema.map fun c =>
      max (min (max (c.name.length : Int) (widthOfType c.typeName w.maxWidth)) w.maxWidth) 3
  else if rows.length ≤ w.lookaheadRows then w.contentWidths schema rows
  else (w.contentWidths schema (rows.take (w.lookaheadRows.toNat + 1))).map (max · 3)

/-- **What is shown of a cell**: all of it, filled up with blanks, or its
    beginning and the mark of a cut. -/
def shownCell (text : Text) (width : Int) : Text :=
  if text.length ≤ width then text ++ List.replicate (width.toNat - text.length) ' '
  else text.take (width.toNat - 3) ++ ['.', '.', '.']

/-- A line of cells. -/
def cellLine (widths : List Int) (texts : List Text) : Text :=
  "| ".toList ++ Text.joinWith " | ".toList (List.zipWith shownCell texts widths)
    ++ " |\n".toList

/-- **The whole table**, line by line. -/
def wholeTable (w : TableDrawing) (schema : Schema) (rows : List Row) : List Text :=
  let widths := w.columnWidths schema rows
  (if w.IsEarly rows.length then [widthNote] else [])
    ++ [border widths, cellLine widths schema.names, border widths]
    ++ rows.map (fun row => cellLine widths (w.cells row)) ++ [border widths]

theorem fit_eq_shownCell (text : Text) (width : Int) : fit text width = shownCell text width := by
  have hcut : (width - (ellipsis.length : Int)).toNat = width.toNat - 3 := by
    show (width - 3).toNat = _
    omega
  rw [fit, shownCell, hcut]
  rfl

theorem rowLine_eq_cellLine (widths : List Int) (texts : List Text) :
    rowLine widths texts = cellLine widths texts := by
  have hfit : fit = shownCell := by
    funext text width
    exact fit_eq_shownCell text width
  rw [rowLine, cellLine, hfit]

/-! ## Measuring -/

theorem longest_cons (text : Text) (texts : List Text) :
    (longest (text :: texts) : Int) = max (text.length : Int) (longest texts) := by
  show ((max text.length (longest texts) : Nat) : Int) = _
  omega

/-- The columns after one more row. -/
theorem widen_eq {widths : List Int} {cells : List Text} (h : cells.length = widths.length) :
    widen widths cells = some (widths.mapIdx fun i w => max w ((cells.getD i []).length : Int)) := by
  induction cells generalizing widths with
  | nil =>
    have hnil : widths = [] := List.eq_nil_of_length_eq_zero h.symm
    rw [hnil]
    rfl
  | cons c cells ih =>
    cases widths with
    | nil => cases h
    | cons w widths =>
      have hlength : cells.length = widths.length := by simpa using h
      rw [widen, ih hlength]
      simp [List.mapIdx_cons]

theorem widenAll_eq {widths : List Int} {rows : List (List Text)}
    (hrows : ∀ cells ∈ rows, cells.length = widths.length) (hnonneg : ∀ w ∈ widths, 0 ≤ w) :
    widenAll widths rows = some (widths.mapIdx fun i w =>
      max w (longest (rows.map fun cells => cells.getD i []) : Int)) := by
  induction rows generalizing widths with
  | nil =>
    have hkept : (widths.mapIdx fun i w => max w (longest [] : Int)) = widths := by
      apply List.ext_getElem
      · simp
      · intro i hi hi'
        have hmem := hnonneg _ (List.getElem_mem hi')
        rw [List.getElem_mapIdx]
        exact Int.max_eq_left hmem
    exact congrArg some hkept.symm
  | cons cells rows ih =>
    obtain ⟨hcells, hrows⟩ := List.forall_mem_cons.1 hrows
    let first := widths.mapIdx fun i w => max w ((cells.getD i []).length : Int)
    have hlength : first.length = widths.length := List.length_mapIdx
    have hrest : ∀ cells ∈ rows, cells.length = first.length := by
      intro cells hmem
      rw [hlength]
      exact hrows cells hmem
    have hfirst : ∀ w ∈ first, 0 ≤ w := by
      intro w hmem
      obtain ⟨i, hi, rfl⟩ := List.mem_mapIdx.1 hmem
      have hlong := Int.natCast_nonneg (cells.getD i []).length
      omega
    rw [widenAll, widen_eq hcells, Option.bind_some, ih hrest hfirst, List.mapIdx_mapIdx]
    congr 2
    funext i w
    rw [Function.comp_apply, List.map_cons, longest_cons, Int.max_assoc]

variable (new : TableDrawing) (schema : Schema)

/-- **The widths by content** of rows that have been kept back. -/
theorem widthsOfRows_eq {w : TableDrawing} {rows : List Row}
    (hpending : w.pending.reverse = rows.map new.cells) (hwidth : w.maxWidth = new.maxWidth)
    (hrows : ∀ row ∈ rows, row.length = schema.length) :
    w.widthsOfRows schema = some (new.contentWidths schema rows) := by
  have hcells : ∀ cells ∈ rows.map new.cells,
      cells.length = (schema.names.map fun n => (n.length : Int)).length := by
    intro cells hmem
    obtain ⟨row, hrow, rfl⟩ := List.mem_map.1 hmem
    simp only [cells, Schema.names, List.length_map]
    exact hrows row hrow
  have hnonneg : ∀ w ∈ schema.names.map fun n => (n.length : Int), 0 ≤ w := by
    intro w hmem
    obtain ⟨name, -, rfl⟩ := List.mem_map.1 hmem
    exact Int.natCast_nonneg _
  rw [widthsOfRows, hpending, widenAll_eq hcells hnonneg, Option.map_some, hwidth]
  congr 1
  apply List.ext_getElem
  · simp [contentWidths, Schema.names]
  · intro i hi hi'
    simp [contentWidths, Schema.names, longest_cons, column, Function.comp_def]

/-! ## Row by row -/

/-- The writer that keeps some rows back. -/
def keeping (rows : List Row) : TableDrawing :=
  { new with schema := some schema, pending := (rows.map new.cells).reverse, widths := none }

/-- The writer that has begun the table. -/
def drawing (widths : List Int) : TableDrawing :=
  { new with schema := some schema, pending := [], widths := some widths }

/-- **Where the writer stands** when some rows have come. -/
def standing (rows : List Row) : TableDrawing :=
  if new.IsEarly rows.length then new.drawing schema (new.columnWidths schema rows)
  else new.keeping schema rows

/-- **What has been written** by then. -/
def written (rows : List Row) : List Text :=
  if new.IsEarly rows.length then
    widthNote :: headLines schema (new.columnWidths schema rows)
      ++ new.rowLines (new.columnWidths schema rows) rows
  else []

section Rows

variable {new schema} {rows : List Row}

theorem length_columnWidths : (new.columnWidths schema rows).length = schema.length := by
  unfold columnWidths contentWidths
  split
  · exact List.length_map _
  · split
    · exact List.length_mapIdx
    · rw [List.length_map, List.length_mapIdx]

/-- The width of one column. -/
theorem getElem?_columnWidths {i : Nat} {c : Column} (h : schema[i]? = some c) :
    (new.columnWidths schema rows)[i]? = some
      (if new.lookaheadRows ≤ 0 then
        max (min (max (c.name.length : Int) (widthOfType c.typeName new.maxWidth))
          new.maxWidth) 3
      else if rows.length ≤ new.lookaheadRows then
        min (longest (c.name :: new.column rows i) : Int) new.maxWidth
      else
        max (min (longest (c.name :: new.column (rows.take (new.lookaheadRows.toNat + 1)) i) : Int)
          new.maxWidth) 3) := by
  unfold columnWidths contentWidths
  split
  · simp [h]
  · split <;> simp [h]

theorem not_isEarly {n : Nat} :
    ¬ new.IsEarly n ↔ ¬ new.lookaheadRows ≤ 0 ∧ n ≤ new.lookaheadRows := by
  unfold IsEarly
  omega

/-- Once the widths are fixed, further rows do not matter to them. -/
theorem columnWidths_concat (h : new.IsEarly rows.length) (r : Row) :
    new.columnWidths schema (rows ++ [r]) = new.columnWidths schema rows := by
  have hlength : (rows ++ [r]).length = rows.length + 1 := List.length_append
  unfold columnWidths
  by_cases htypes : new.lookaheadRows ≤ 0
  · rw [if_pos htypes, if_pos htypes]
  · have hmany : new.lookaheadRows < rows.length := h.resolve_left htypes
    have htake : (rows ++ [r]).take (new.lookaheadRows.toNat + 1)
        = rows.take (new.lookaheadRows.toNat + 1) := by
      apply List.take_append_of_le_length
      omega
    rw [if_neg htypes, if_neg htypes, if_neg (by omega), if_neg (by omega), htake]

/-- **The rows kept back are drawn**, in columns that are measured by them. -/
theorem gives_startByRows (new : TableDrawing)
    (hrows : ∀ row ∈ rows, row.length = schema.length) (early : Bool) :
    ((new.keeping schema rows).startByRows schema early).Gives
      ((if early then [widthNote] else [])
        ++ (headLines schema (startWidths (new.contentWidths schema rows) early)
          ++ new.rowLines (startWidths (new.contentWidths schema rows) early) rows))
      (new.drawing schema (startWidths (new.contentWidths schema rows) early)) := by
  have hpending : (new.keeping schema rows).pending.reverse = rows.map new.cells :=
    List.reverse_reverse _
  have hmeasured : (new.keeping schema rows).widthsOfRows schema
      = some (new.contentWidths schema rows) :=
    widthsOfRows_eq new schema hpending rfl hrows
  have hstart := gives_startWidths (new.keeping schema rows) schema
    (new.contentWidths schema rows) early
  have hlines : ∀ widths, (rows.map new.cells).map (rowLine widths) = new.rowLines widths rows := by
    intro widths
    exact List.map_map
  rw [hpending, hlines] at hstart
  rw [startByRows, hmeasured]
  exact hstart

/-- **One more row** is drawn, or kept back, or it is the one too many. -/
theorem gives_row {r : Row} (hrows : ∀ row ∈ rows ++ [r], row.length = schema.length)
    (hdraw : new.canDraw r = true) :
    ∃ texts, (row schema (new.standing schema rows) r).Gives texts
        (new.standing schema (rows ++ [r])) ∧
      new.written schema (rows ++ [r]) = new.written schema rows ++ texts := by
  have hlength : (rows ++ [r]).length = rows.length + 1 := List.length_append
  by_cases hbefore : new.IsEarly rows.length
  · -- The table has been begun, and the row is drawn.
    have hafter : new.IsEarly (rows ++ [r]).length := by
      unfold IsEarly at hbefore ⊢
      omega
    have hwidths : new.columnWidths schema (rows ++ [r]) = new.columnWidths schema rows :=
      columnWidths_concat hbefore r
    have hdrawn : row schema (new.drawing schema (new.columnWidths schema rows)) r
        = .write _ (rowLine (new.columnWidths schema rows) (new.cells r)) :=
      row_eq hdraw
    rw [standing, if_pos hbefore, standing, if_pos hafter, hdrawn, written, if_pos hafter, written,
      if_pos hbefore, hwidths]
    refine ⟨_, Production.gives_write _ _, ?_⟩
    simp [rowLines]
  · obtain ⟨htypes, hfew⟩ := not_isEarly.1 hbefore
    have hkept : row schema (new.keeping schema rows) r
        = if new.lookaheadRows < (new.keeping schema (rows ++ [r])).pending.length then
            (new.keeping schema (rows ++ [r])).startByRows schema true
          else .done (new.keeping schema (rows ++ [r])) := by
      have hpending : new.keeping schema (rows ++ [r]) = { new.keeping schema rows with
          pending := (new.keeping schema rows).cells r :: (new.keeping schema rows).pending } := by
        simp [keeping]
      rw [hpending]
      exact row_eq hdraw
    have hpending : (new.keeping schema (rows ++ [r])).pending.length = rows.length + 1 := by
      simp [keeping]
    rw [standing, if_neg hbefore, hkept, hpending, written, written, if_neg hbefore]
    by_cases hafter : new.IsEarly (rows ++ [r]).length
    · -- The row is one too many: it is measured with the others, and all are drawn.
      have hmany := hafter.resolve_left htypes
      have hwidths : startWidths (new.contentWidths schema (rows ++ [r])) true
          = new.columnWidths schema (rows ++ [r]) := by
        have htake : (rows ++ [r]).take (new.lookaheadRows.toNat + 1) = rows ++ [r] := by
          apply List.take_of_length_le
          omega
        rw [columnWidths, if_neg htypes, if_neg (by omega), htake]
        rfl
      have hstart := gives_startByRows new hrows true
      rw [hwidths] at hstart
      rw [standing, if_pos hafter, if_pos hafter, if_pos (by omega)]
      exact ⟨_, hstart, rfl⟩
    · -- The row is kept back.
      obtain ⟨-, hfew⟩ := not_isEarly.1 hafter
      rw [standing, if_neg hafter, if_neg hafter, if_neg (by omega)]
      exact ⟨_, Production.gives_done _, rfl⟩

/-- **Row after row.** -/
theorem gives_rows (new : TableDrawing) (rows : List Row) {rows' : List Row}
    (hrows : ∀ row ∈ rows ++ rows', row.length = schema.length)
    (hdraw : ∀ row ∈ rows', new.canDraw row = true) :
    ∃ texts, (Production.forEach (row schema) (new.standing schema rows) rows').Gives texts
        (new.standing schema (rows ++ rows')) ∧
      new.written schema (rows ++ rows') = new.written schema rows ++ texts := by
  induction rows' generalizing rows with
  | nil =>
    rw [List.append_nil]
    exact ⟨[], Production.gives_done _, (List.append_nil _).symm⟩
  | cons r rows' ih =>
    obtain ⟨hr, hdraw⟩ := List.forall_mem_cons.1 hdraw
    have hassoc : rows ++ r :: rows' = rows ++ [r] ++ rows' := by simp
    rw [hassoc] at hrows ⊢
    have hone : ∀ row ∈ rows ++ [r], row.length = schema.length := by
      intro row hmem
      exact hrows row (List.mem_append_left rows' hmem)
    obtain ⟨first, hfirst, hwritten⟩ := gives_row hone hr
    obtain ⟨second, hsecond, hwritten'⟩ := ih (rows ++ [r]) hrows hdraw
    refine ⟨first ++ second, hfirst.andThen hsecond, ?_⟩
    rw [hwritten', hwritten, List.append_assoc]

/-- Nothing has come to the writer. -/
structure IsNew (w : TableDrawing) : Prop where
  schema : w.schema = none
  pending : w.pending = []
  widths : w.widths = none

/-- **The head** of a table that is measured by types, or nothing. -/
theorem gives_begin (hnew : new.IsNew) (hs : schema ≠ []) :
    (new.begin schema).Gives (new.written schema []) (new.standing schema []) := by
  have hkeeping : ({ new with schema := some schema } : TableDrawing) = new.keeping schema [] := by
    rw [keeping, ← hnew.widths, List.map_nil, List.reverse_nil, ← hnew.pending]
  have hbegin : new.begin schema
      = if new.lookaheadRows ≤ 0 ∧ schema ≠ [] then
          (new.keeping schema []).start schema (new.widthsOfTypes schema) true
        else .done (new.keeping schema []) := by
    rw [← hkeeping, begin, hnew.schema]
    rfl
  rw [hbegin]
  by_cases htypes : new.lookaheadRows ≤ 0
  · have hearly : new.IsEarly ([] : List Row).length := .inl htypes
    have hwidths : startWidths (new.widthsOfTypes schema) true = new.columnWidths schema [] := by
      rw [columnWidths, if_pos htypes]
      exact List.map_map
    have hstart := gives_startWidths (new.keeping schema []) schema (new.widthsOfTypes schema) true
    rw [hwidths] at hstart
    rw [if_pos ⟨htypes, hs⟩, written, if_pos hearly, standing, if_pos hearly]
    exact hstart
  · have hearly : ¬ new.IsEarly ([] : List Row).length := by
      rw [not_isEarly, List.length_nil]
      omega
    rw [if_neg (by simp [htypes]), written, if_neg hearly, standing, if_neg hearly]
    exact Production.gives_done _

/-- **A result in one batch.** -/
theorem gives_batch (hnew : new.IsNew) (hs : schema ≠ [])
    (hrows : ∀ row ∈ rows, row.length = schema.length)
    (hdraw : ∀ row ∈ rows, new.canDraw row = true) :
    (new.batch ⟨schema, rows⟩).Gives (new.written schema rows) (new.standing schema rows) := by
  have hbegin := gives_begin hnew hs
  obtain ⟨texts, hall, hwritten⟩ := gives_rows new [] hrows hdraw
  rw [List.nil_append] at hall hwritten
  rw [batch_eq, hnew.schema, Option.getD_none, hwritten]
  refine hbegin.andThen ?_
  rw [addRows, if_neg hs]
  exact hall

theorem wholeTable_of_early (h : new.IsEarly rows.length) :
    new.wholeTable schema rows
      = new.written schema rows ++ [border (new.columnWidths schema rows)] := by
  rw [wholeTable, if_pos h, written, if_pos h, headLines, rowLines, rowLine_eq_cellLine]
  simp only [rowLine_eq_cellLine]
  simp

/-- **The end of the table** makes it whole. -/
theorem gives_finish (new : TableDrawing) (hs : schema ≠ [])
    (hdrawn : rows ≠ [] ∨ new.IsEarly rows.length)
    (hrows : ∀ row ∈ rows, row.length = schema.length) :
    ∃ texts last, (new.standing schema rows).finish.Gives texts last ∧
      new.written schema rows ++ texts = new.wholeTable schema rows := by
  by_cases hearly : new.IsEarly rows.length
  · have hfinish : (new.drawing schema (new.columnWidths schema rows)).finish
        = .write (new.drawing schema (new.columnWidths schema rows))
            (border (new.columnWidths schema rows)) := by
      simp [finish, drawing, hs]
    rw [standing, if_pos hearly, hfinish]
    exact ⟨_, _, Production.gives_write _ _, (wholeTable_of_early hearly).symm⟩
  · obtain ⟨htypes, hfew⟩ := not_isEarly.1 hearly
    have hne : rows ≠ [] := hdrawn.resolve_right hearly
    have hwidths : startWidths (new.contentWidths schema rows) false
        = new.columnWidths schema rows := by
      rw [columnWidths, if_neg htypes, if_pos hfew]
      rfl
    have hfinish : (new.keeping schema rows).finish
        = ((new.keeping schema rows).startByRows schema false).andThen fun w =>
            .write w (border (w.widths.getD [])) := by
      simp [finish, keeping, hs, hne]
    have hstart := gives_startByRows new hrows false
    rw [hwidths] at hstart
    rw [standing, if_neg hearly, hfinish]
    refine ⟨_, _, hstart.andThen (Production.gives_write _ _), ?_⟩
    rw [written, if_neg hearly, wholeTable, if_neg hearly, headLines, rowLines, rowLine_eq_cellLine]
    simp only [rowLine_eq_cellLine]
    simp [drawing]

/-- Nothing is drawn for no rows, unless the table has been begun. -/
theorem gives_finish_nil (hs : schema ≠ []) (h : ¬ new.IsEarly ([] : List Row).length) :
    (new.standing schema []).finish.Gives [] (new.standing schema []) := by
  have hfinish : (new.keeping schema []).finish = .done (new.keeping schema []) := by
    simp [finish, keeping, hs]
  rw [standing, if_neg h, hfinish]
  exact Production.gives_done _

/-- **Breaking off** closes the table if it has been begun. -/
theorem gives_abort (new : TableDrawing) (schema : Schema) (rows : List Row) :
    ∃ last, (new.standing schema rows).abort.Gives
      (if new.IsEarly rows.length then [border (new.columnWidths schema rows)] else []) last := by
  by_cases hearly : new.IsEarly rows.length
  · rw [standing, if_pos hearly, if_pos hearly]
    exact ⟨_, Production.gives_write _ _⟩
  · rw [standing, if_neg hearly, if_neg hearly]
    exact ⟨_, Production.gives_done _⟩

/-- **A table that is ended or broken off** is left out, or it is the whole table
    of the rows that have come. -/
theorem gives_close (new : TableDrawing) (success : Bool)
    (hs : schema ≠ []) (hrows : ∀ row ∈ rows, row.length = schema.length) :
    ∃ texts last, (if success then (new.standing schema rows).finish
        else (new.standing schema rows).abort).Gives texts last ∧
      (new.written schema rows ++ texts = [] ∨
        new.written schema rows ++ texts = new.wholeTable schema rows) := by
  by_cases hearly : new.IsEarly rows.length
  · cases success with
    | true =>
      obtain ⟨texts, last, hfinish, hwhole⟩ := gives_finish new hs (.inr hearly) hrows
      exact ⟨texts, last, hfinish, .inr hwhole⟩
    | false =>
      obtain ⟨last, habort⟩ := gives_abort new schema rows
      rw [if_pos hearly] at habort
      exact ⟨_, last, habort, .inr (wholeTable_of_early hearly).symm⟩
  · have hwritten : new.written schema rows = [] := if_neg hearly
    rw [hwritten]
    cases success with
    | true =>
      by_cases hne : rows = []
      · subst hne
        exact ⟨_, _, gives_finish_nil hs hearly, .inl rfl⟩
      · obtain ⟨texts, last, hfinish, hwhole⟩ := gives_finish new hs (.inl hne) hrows
        rw [hwritten] at hwhole
        exact ⟨texts, last, hfinish, .inr hwhole⟩
    | false =>
      obtain ⟨last, habort⟩ := gives_abort new schema rows
      rw [if_neg hearly] at habort
      exact ⟨_, last, habort, .inl rfl⟩

end Rows

end TableDrawing

namespace Writer

/-- The writer of tables that is made for some settings. -/
def tableFor (settings : Settings) : TableDrawing :=
  { maxWidth := settings.maxWidth, nullMarker := settings.nullMarker,
    lookaheadRows := settings.lookaheadRows }

theorem isNew_tableFor (settings : Settings) : (tableFor settings).IsNew := ⟨rfl, rfl, rfl⟩

variable {settings : Settings} {schema : Schema} {bs : List Batch}

/-- **Any batches**: what has been written, and where the writer stands. -/
theorem gives_takeAll_table (hs : schema ≠ []) (hne : bs ≠ []) (hb : HaveSchema schema bs)
    (hrows : ∀ row ∈ rowsOf bs, row.length = schema.length)
    (hdraw : ∀ row ∈ rowsOf bs, (tableFor settings).canDraw row = true) :
    ((create settings .table).takeAll bs).Gives ((tableFor settings).written schema (rowsOf bs))
      (table ((tableFor settings).standing schema (rowsOf bs))) := by
  rw [takeAll_eq_batch _ hne hb]
  exact (TableDrawing.gives_batch (isNew_tableFor settings) hs hrows hdraw).map table

/-- **A whole result** is drawn as the whole table of its rows. -/
theorem gives_takeWhole_table (hs : schema ≠ []) (hb : HaveSchema schema bs)
    (hne : rowsOf bs ≠ []) (hrows : ∀ row ∈ rowsOf bs, row.length = schema.length)
    (hdraw : ∀ row ∈ rowsOf bs, (tableFor settings).canDraw row = true) :
    ∃ last, ((create settings .table).takeWhole bs).Gives
      ((tableFor settings).wholeTable schema (rowsOf bs)) last := by
  have hbatches : bs ≠ [] := by
    rintro rfl
    exact hne rfl
  obtain ⟨texts, last, hfinish, hwhole⟩ :=
    TableDrawing.gives_finish (tableFor settings) hs (.inl hne) hrows
  rw [← hwhole]
  exact ⟨_, (gives_takeAll_table hs hbatches hb hrows hdraw).andThen (hfinish.map table)⟩

/-- **The table in closed form.**  A result with at least one column and one row is
    drawn in one way, whatever the batches it comes in: a note, if the widths are
    fixed before the whole result has come; the header between two borders; one
    line for each row, in order; and a border.  Each column is as wide as

    - the type of the column and its name ask for, if no row is kept back;
    - its name and all its cells, if the rows that are kept back are all there are;
    - its name and its cells in these rows and in the next one otherwise,

    but no wider than the greatest width, except where the mark of a cut needs it. -/
theorem table_in_closed_form (settings : Settings) (hs : schema ≠ []) (hb : HaveSchema schema bs)
    (hne : rowsOf bs ≠ []) (hrows : ∀ row ∈ rowsOf bs, row.length = schema.length)
    (hdraw : ∀ row ∈ rowsOf bs, (tableFor settings).canDraw row = true) :
    ∃ (widths : List Int) (last : Writer),
      ((create settings .table).takeWhole bs).Gives
        ((if settings.lookaheadRows ≤ 0 ∨ settings.lookaheadRows < (rowsOf bs).length
            then [widthNote] else [])
          ++ [TableDrawing.border widths, TableDrawing.cellLine widths schema.names,
            TableDrawing.border widths]
          ++ (rowsOf bs).map (fun row =>
            TableDrawing.cellLine widths ((tableFor settings).cells row))
          ++ [TableDrawing.border widths]) last ∧
      widths.length = schema.length ∧
      ∀ i c, schema[i]? = some c → widths[i]? = some
        (if settings.lookaheadRows ≤ 0 then
          max (min (max (c.name.length : Int) (widthOfType c.typeName settings.maxWidth))
            settings.maxWidth) 3
        else if (rowsOf bs).length ≤ settings.lookaheadRows then
          min (TableDrawing.longest (c.name :: (tableFor settings).column (rowsOf bs) i) : Int)
            settings.maxWidth
        else
          max (min (TableDrawing.longest (c.name :: (tableFor settings).column
            ((rowsOf bs).take (settings.lookaheadRows.toNat + 1)) i) : Int)
            settings.maxWidth) 3) := by
  obtain ⟨last, hgives⟩ := gives_takeWhole_table hs hb hne hrows hdraw
  refine ⟨(tableFor settings).columnWidths schema (rowsOf bs), last, hgives,
    TableDrawing.length_columnWidths, ?_⟩
  intro i c hc
  exact TableDrawing.getElem?_columnWidths hc

/-- Two columns, for the names of cities and their rivers. -/
@[irreducible] def cityColumns : Schema :=
  [⟨"city".toList, "VARCHAR".toList⟩, ⟨"river".toList, "VARCHAR".toList⟩]

/-- Three cities in two batches. -/
@[irreducible] def threeCities : List Batch :=
  [⟨cityColumns, [[.text "Ulm".toList, .text "Donau".toList]]⟩,
    ⟨cityColumns, [[.text "Celle".toList, .text "Aller".toList],
      [.text "Hannover".toList, .null]]⟩]

/-- Their table, if one row is kept back: the third city comes too late to be
    measured, and its name is cut. -/
@[irreducible] def cityTable : List Text :=
  [widthNote,
    "+-------+-------+\n".toList,
    "| city  | river |\n".toList,
    "+-------+-------+\n".toList,
    "| Ulm   | Donau |\n".toList,
    "| Celle | Aller |\n".toList,
    "| Ha... | NULL  |\n".toList,
    "+-------+-------+\n".toList]

theorem table_in_closed_form_cities : ∃ last,
    ((create { lookaheadRows := 1 } .table).takeWhole threeCities).Gives cityTable last := by
  have hs : cityColumns ≠ [] := by
    unfold cityColumns
    simp
  have hb : HaveSchema cityColumns threeCities := by
    unfold threeCities HaveSchema
    simp
  have hne : rowsOf threeCities ≠ [] := by
    unfold threeCities
    simp [rowsOf]
  have hrows : ∀ row ∈ rowsOf threeCities, row.length = cityColumns.length := by
    unfold threeCities cityColumns
    simp [rowsOf]
  have hdraw : ∀ row ∈ rowsOf threeCities,
      (tableFor { lookaheadRows := 1 }).canDraw row = true := by
    intro row _
    rfl
  obtain ⟨widths, last, hgives, hlength, hwidths⟩ :=
    table_in_closed_form { lookaheadRows := 1 } hs hb hne hrows hdraw
  have hfive : widths = [5, 5] := by
    unfold threeCities at hwidths
    unfold cityColumns at hwidths hlength
    have hcity : widths[0]? = some 5 := hwidths 0 _ rfl
    have hriver : widths[1]? = some 5 := hwidths 1 _ rfl
    apply List.ext_getElem?
    intro i
    match i with
    | 0 => exact hcity
    | 1 => exact hriver
    | i + 2 =>
      have hnone : widths[i + 2]? = none := by
        apply List.getElem?_eq_none
        rw [hlength]
        exact Nat.le_add_left 2 i
      rw [hnone]
      rfl
  subst hfive
  unfold threeCities cityColumns at hgives
  unfold threeCities cityColumns cityTable
  exact ⟨last, hgives⟩

end Writer

end SqlShell
