import SqlShell.Proofs.Output.Merging

/-! # Rows That Fit

    A writer does not break down over rows that are **no wider than the columns**,
    if there is a marker for missing values.

    * **`Fits`** is the invariant of the writer of a table: the rows that it
      keeps back can be measured.
    * **`whole_row`** is its step, **`whole_forEach`** the run over the rows of a
      batch.
    * **`Writer.whole_batch`** and **`Writer.whole_end`** are the results. -/

namespace SqlShell

namespace TableDrawing

/-! ## Measuring -/

theorem exists_widen {widths : List Int} {cells : List Text} (h : cells.length ≤ widths.length) :
    ∃ widths', widen widths cells = some widths' ∧ widths'.length = widths.length := by
  induction cells generalizing widths with
  | nil => exact ⟨widths, by cases widths <;> rfl, rfl⟩
  | cons c cells ih =>
    cases widths with
    | nil =>
      rw [List.length_cons, List.length_nil] at h
      omega
    | cons w widths =>
      rw [List.length_cons, List.length_cons] at h
      have hcells : cells.length ≤ widths.length := by omega
      obtain ⟨widths', hwiden, hlength⟩ := ih hcells
      refine ⟨max w c.length :: widths', ?_, ?_⟩
      · rw [widen, hwiden]
        rfl
      · rw [List.length_cons, hlength, List.length_cons]

theorem exists_widenAll {widths : List Int} {rows : List (List Text)}
    (h : ∀ cells ∈ rows, cells.length ≤ widths.length) :
    ∃ widths', widenAll widths rows = some widths' := by
  induction rows generalizing widths with
  | nil => exact ⟨widths, rfl⟩
  | cons cells rows ih =>
    obtain ⟨hcells, hrows⟩ := List.forall_mem_cons.1 h
    obtain ⟨first, hwiden, hlength⟩ := exists_widen hcells
    have hrest : ∀ cells ∈ rows, cells.length ≤ first.length := by
      intro cells hmem
      rw [hlength]
      exact hrows cells hmem
    obtain ⟨last, hall⟩ := ih hrest
    refine ⟨last, ?_⟩
    rw [widenAll, hwiden]
    exact hall

/-! ## The invariant -/

/-- **The rows kept back can be measured**, and missing values can be drawn. -/
structure Fits (schema : Schema) (w : TableDrawing) : Prop where
  marker : w.nullMarker.isSome = true
  pending : ∀ cells ∈ w.pending, cells.length ≤ schema.length

variable {schema : Schema} {w : TableDrawing}

theorem Fits.whole_startByRows (h : Fits schema w) (early : Bool) :
    (w.startByRows schema early).crash = none ∧
      Fits schema (w.startByRows schema early).last := by
  have hpending : ∀ cells ∈ w.pending.reverse,
      cells.length ≤ (schema.names.map fun n => (n.length : Int)).length := by
    intro cells hcells
    rw [List.length_map, Schema.names, List.length_map]
    exact h.pending cells (List.mem_reverse.1 hcells)
  obtain ⟨widths, hwidths⟩ := exists_widenAll hpending
  have hmeasured : w.widthsOfRows schema = some (widths.map (min · w.maxWidth)) := by
    rw [widthsOfRows, hwidths]
    rfl
  obtain ⟨drawn, hstart⟩ := gives_start w schema (widths.map (min · w.maxWidth)) early
  have heq : w.startByRows schema early = w.start schema (widths.map (min · w.maxWidth)) early := by
    rw [startByRows, hmeasured]
  rw [heq]
  refine ⟨hstart.whole, ?_⟩
  rw [hstart.last]
  exact ⟨h.marker, by simp⟩

/-- What is done with a row that can be drawn. -/
theorem row_eq {r : Row} (h : w.canDraw r = true) : row schema w r = match w.widths with
    | some widths => .write w (rowLine widths (w.cells r))
    | none =>
      let kept := { w with pending := w.cells r :: w.pending }
      if kept.lookaheadRows < kept.pending.length then kept.startByRows schema true
      else .done kept := by
  rw [row, h]
  rfl

/-- **One row** that is no wider than the columns. -/
theorem Fits.whole_row (h : Fits schema w) {r : Row} (hr : r.length ≤ schema.length) :
    (row schema w r).crash = none ∧ Fits schema (row schema w r).last := by
  have hdraw : w.canDraw r = true := by
    rw [canDraw, h.marker]
    rfl
  have hkept : Fits schema { w with pending := w.cells r :: w.pending } := by
    refine ⟨h.marker, ?_⟩
    intro texts htexts
    rcases List.mem_cons.1 htexts with htexts | htexts
    · rw [htexts, TableDrawing.cells, List.length_map]
      exact hr
    · exact h.pending texts htexts
  rw [row_eq hdraw]
  split
  case h_1 => exact ⟨rfl, h⟩
  case h_2 =>
    dsimp only
    split
    case isTrue => exact hkept.whole_startByRows true
    case isFalse => exact ⟨rfl, hkept⟩

/-- **Row after row.** -/
theorem Fits.whole_forEach (h : Fits schema w) {rows : List Row}
    (hrows : ∀ r ∈ rows, r.length ≤ schema.length) :
    (Production.forEach (row schema) w rows).crash = none ∧
      Fits schema (Production.forEach (row schema) w rows).last := by
  induction rows generalizing w with
  | nil => exact ⟨rfl, h⟩
  | cons r rows ih =>
    obtain ⟨hr, hrows⟩ := List.forall_mem_cons.1 hrows
    obtain ⟨hwhole, hfits⟩ := h.whole_row hr
    rw [Production.forEach, Production.crash_andThen hwhole, Production.last_andThen hwhole]
    exact ih hfits hrows

/-- **The head** of a table, or nothing. -/
theorem Fits.whole_begin (h : Fits schema w) :
    (w.begin schema).crash = none ∧ Fits schema (w.begin schema).last := by
  have hbegun : Fits schema { w with schema := some schema } := ⟨h.marker, h.pending⟩
  unfold begin
  split
  case isTrue =>
    split
    case isTrue =>
      obtain ⟨widths, hstart⟩ := gives_start { w with schema := some schema } schema
        ({ w with schema := some schema }.widthsOfTypes schema) true
      refine ⟨hstart.whole, ?_⟩
      rw [hstart.last]
      exact ⟨h.marker, by simp⟩
    case isFalse => exact ⟨rfl, hbegun⟩
  case isFalse => exact ⟨rfl, h⟩

/-- **A batch** with rows that are no wider than the columns. -/
theorem Fits.whole_batch (h : Fits schema w) (hnew : w.schema = none) {rows : List Row}
    (hrows : ∀ r ∈ rows, r.length ≤ schema.length) :
    (w.batch ⟨schema, rows⟩).crash = none ∧ Fits schema (w.batch ⟨schema, rows⟩).last := by
  obtain ⟨hwhole, hfits⟩ := h.whole_begin
  rw [batch_eq, hnew, Option.getD_none, Production.crash_andThen hwhole,
    Production.last_andThen hwhole]
  -- A result without columns has no rows either.
  by_cases hschema : schema = []
  · rw [addRows, if_pos hschema]
    exact ⟨rfl, hfits⟩
  · rw [addRows, if_neg hschema]
    exact hfits.whole_forEach hrows

/-- **The end of a table** whose rows can be measured. -/
theorem Fits.whole_finish (h : Fits schema w) (hschema : ∀ s ∈ w.schema, s = schema) :
    w.finish.crash = none := by
  unfold finish
  split
  case h_1 => rfl
  case h_2 s hs =>
    obtain rfl := hschema s hs
    split
    case isTrue => rfl
    case isFalse =>
      split
      case h_1 => rfl
      case h_2 =>
        split
        case isTrue => rfl
        case isFalse =>
          rw [Production.crash_andThen (h.whole_startByRows false).1]
          rfl

end TableDrawing

namespace Writer

variable {schema : Schema} {rows : List Row}

/-- Breaking off is always done to its end. -/
theorem whole_abort (w : Writer) : w.abort.crash = none := by
  obtain ⟨last, habort | ⟨widths, habort⟩⟩ := gives_abort w
  · exact habort.whole
  · exact habort.whole

/-- **A new writer does not break down** over a batch with rows that are no wider
    than the columns, nor over the end of the result. -/
theorem whole_batch {settings : Settings} (format : ResultFormat)
    (hmarker : settings.nullMarker.isSome = true) (hrows : ∀ r ∈ rows, r.length ≤ schema.length) :
    ((create settings format).batch ⟨schema, rows⟩).crash = none ∧
      ((create settings format).batch ⟨schema, rows⟩).last.finish.crash = none := by
  cases format with
  | table =>
    have hnew : TableDrawing.Fits schema
        { maxWidth := settings.maxWidth, nullMarker := settings.nullMarker,
          lookaheadRows := settings.lookaheadRows } := ⟨hmarker, by simp⟩
    obtain ⟨hwhole, hfits⟩ := hnew.whole_batch rfl hrows
    have hfinish := hfits.whole_finish (by simp [TableDrawing.schema_batch])
    exact ⟨hwhole, hfinish⟩
  | csv | tsv => exact ⟨(DelimitedLines.gives_batch _ _).whole, rfl⟩
  | json => exact ⟨(JsonLines.gives_batch _ _).whole, rfl⟩

end Writer

end SqlShell
