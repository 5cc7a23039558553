import SqlShell.Proofs.Output.Sheet

/-! # Merging Batches

    A writer makes the same of a result **whatever the batches it comes in**.

    * **`batch_batch`**: two batches with the same columns are to a writer what
      one batch with the rows of both is, text by text and state by state, also
      if it breaks down over one of the rows.
    * **`takeAll_eq_batch`** follows by induction: all batches together are to it
      what one is. -/

namespace SqlShell

namespace Production

variable {σ τ : Type}

@[simp] theorem andThen_done (p : Production σ) : p.andThen done = p := by
  cases h : p.crash with
  | some c => exact andThen_of_crash h
  | none =>
    obtain ⟨steps, last, crash⟩ := p
    subst h
    simp [andThen, done]

/-- One behind the other, of a writer that this one is part of. -/
theorem map_andThen (f : σ → τ) (p : Production σ) (next : σ → Production σ)
    (next' : τ → Production τ) (h : ∀ s, next' (f s) = (next s).map f) :
    (p.map f).andThen next' = (p.andThen next).map f := by
  cases hp : p.crash with
  | some c => simp [andThen, map, hp]
  | none => simp [andThen, map, hp, h]

/-- What comes next matters only where something does. -/
theorem andThen_congr {p : Production σ} {next next' : σ → Production σ}
    (h : p.crash = none → next p.last = next' p.last) : p.andThen next = p.andThen next' := by
  cases hp : p.crash with
  | some c => rw [andThen_of_crash hp, andThen_of_crash hp]
  | none => simp only [andThen, hp, h hp]

end Production

/-! ## Delimited fields and JSON lines -/

variable (schema : Schema) (rows rows' : List Row)

theorem DelimitedLines.batch_batch (w : DelimitedLines) :
    (w.batch ⟨schema, rows⟩).andThen (fun w => w.batch ⟨schema, rows'⟩)
      = w.batch ⟨schema, rows ++ rows'⟩ := by
  have hlast := (gives_batch w ⟨schema, rows⟩).last
  -- The header has been written with the first batch.
  have hnext : ({ w with begun := true } : DelimitedLines).batch ⟨schema, rows'⟩
      = Production.forEach Production.write { w with begun := true }
          (rows'.map fun row => record w.delimiter (fields row)) := by
    simp [batch]
  have hrest : (w.batch ⟨schema, rows⟩).andThen (fun w => w.batch ⟨schema, rows'⟩)
      = (w.batch ⟨schema, rows⟩).andThen fun w' => Production.forEach Production.write w'
          (rows'.map fun row => record w.delimiter (fields row)) := by
    apply Production.andThen_congr
    intro _
    rw [hlast, hnext]
  rw [hrest]
  unfold batch
  dsimp only
  rw [List.map_append, ← List.append_assoc]
  generalize (if w.begun ∨ schema = [] then [] else [record w.delimiter schema.names])
    ++ rows.map (fun row => record w.delimiter (fields row)) = lines
  rw [Production.forEach_append]

theorem JsonLines.batch_batch (w : JsonLines) :
    (w.batch ⟨schema, rows⟩).andThen (fun w => w.batch ⟨schema, rows'⟩)
      = w.batch ⟨schema, rows ++ rows'⟩ := by
  have hlast := (gives_batch w ⟨schema, rows⟩).last
  have hrest : (w.batch ⟨schema, rows⟩).andThen (fun w => w.batch ⟨schema, rows'⟩)
      = (w.batch ⟨schema, rows⟩).andThen fun w' => Production.forEach Production.write w'
          (rows'.map (line (w.names.getD (distinctNames schema.names)))) := by
    apply Production.andThen_congr
    intro _
    rw [hlast]
    rfl
  rw [hrest]
  unfold batch
  dsimp only
  rw [List.map_append, Production.forEach_append]

/-! ## Tables -/

namespace TableDrawing

/-- Beginning the table leaves its columns as they are. -/
theorem schema_start (w : TableDrawing) (widths : List Int) (early : Bool) :
    (w.start schema widths early).last.schema = w.schema := by
  obtain ⟨widths', h⟩ := gives_start w schema widths early
  rw [h.last]

theorem schema_startByRows (w : TableDrawing) (early : Bool) :
    (w.startByRows schema early).last.schema = w.schema := by
  unfold startByRows
  split
  · exact schema_start schema w _ early
  · rfl

theorem schema_row (w : TableDrawing) (r : Row) : (row schema w r).last.schema = w.schema := by
  unfold row
  split
  · rfl
  · dsimp only
    split
    · rfl
    · split
      · exact schema_startByRows schema _ true
      · rfl

theorem schema_forEach (w : TableDrawing) :
    (Production.forEach (row schema) w rows).last.schema = w.schema := by
  induction rows generalizing w with
  | nil => rfl
  | cons r rows ih =>
    have hrow := schema_row schema w r
    rw [Production.forEach]
    cases hcrash : (row schema w r).crash with
    | some c => rw [Production.andThen_of_crash hcrash, hrow]
    | none => rw [Production.last_andThen hcrash, ih, hrow]

/-- The columns and the head of a table, as far as the first batch brings them. -/
def begin (w : TableDrawing) (schema : Schema) : Production TableDrawing :=
  if w.schema.isNone then
    if w.lookaheadRows ≤ 0 ∧ schema ≠ [] then
      { w with schema := some schema }.start schema
        ({ w with schema := some schema }.widthsOfTypes schema) true
    else .done { w with schema := some schema }
  else .done w

/-- The rows of a batch behind the head. -/
def addRows (schema : Schema) (rows : List Row) (w : TableDrawing) : Production TableDrawing :=
  if schema = [] then .done w else Production.forEach (row schema) w rows

theorem batch_eq (w : TableDrawing) :
    w.batch ⟨schema, rows⟩ = (w.begin (w.schema.getD schema)).andThen
      (addRows (w.schema.getD schema) rows) := rfl

theorem schema_begin (w : TableDrawing) :
    (w.begin (w.schema.getD schema)).last.schema = some (w.schema.getD schema) := by
  unfold begin
  split
  case isTrue =>
    split
    · exact schema_start _ _ _ true
    · rfl
  case isFalse hsome =>
    cases hw : w.schema with
    | none => simp [hw] at hsome
    | some s => exact hw

theorem schema_addRows (w : TableDrawing) :
    (addRows schema rows w).last.schema = w.schema := by
  unfold addRows
  split
  · rfl
  · exact schema_forEach schema rows w

/-- **The columns are known** once a batch has been taken. -/
theorem schema_batch (w : TableDrawing) :
    (w.batch ⟨schema, rows⟩).last.schema = some (w.schema.getD schema) := by
  rw [batch_eq]
  cases hcrash : (w.begin (w.schema.getD schema)).crash with
  | some c => rw [Production.andThen_of_crash hcrash, schema_begin]
  | none => rw [Production.last_andThen hcrash, schema_addRows, schema_begin]

theorem addRows_addRows (w : TableDrawing) :
    (addRows schema rows w).andThen (addRows schema rows') = addRows schema (rows ++ rows') w := by
  unfold addRows
  split
  · exact Production.done_andThen w
  · rw [Production.forEach_append]

theorem batch_batch (w : TableDrawing) :
    (w.batch ⟨schema, rows⟩).andThen (fun w => w.batch ⟨schema, rows'⟩)
      = w.batch ⟨schema, rows ++ rows'⟩ := by
  -- A later batch finds the columns there, and only brings its rows.
  have hlater : ∀ w' : TableDrawing, w'.schema = some (w.schema.getD schema) →
      w'.batch ⟨schema, rows'⟩ = addRows (w.schema.getD schema) rows' w' := by
    intro w' hw'
    rw [batch_eq, hw', Option.getD_some, begin, hw']
    exact Production.done_andThen w'
  rw [batch_eq, batch_eq, Production.andThen_assoc]
  apply Production.andThen_congr
  intro _
  rw [← addRows_addRows]
  apply Production.andThen_congr
  intro _
  apply hlater
  rw [schema_addRows, schema_begin]

end TableDrawing

/-! ## All writers -/

namespace Writer

/-- **Two batches are one** to a writer. -/
theorem batch_batch (w : Writer) :
    (w.batch ⟨schema, rows⟩).andThen (fun w => w.batch ⟨schema, rows'⟩)
      = w.batch ⟨schema, rows ++ rows'⟩ := by
  cases w with
  | table w =>
    show ((w.batch ⟨schema, rows⟩).map table).andThen _
      = (w.batch ⟨schema, rows ++ rows'⟩).map table
    rw [Production.map_andThen table _ (fun w => w.batch ⟨schema, rows'⟩) _ fun _ => rfl,
      TableDrawing.batch_batch]
  | delimited w =>
    show ((w.batch ⟨schema, rows⟩).map delimited).andThen _
      = (w.batch ⟨schema, rows ++ rows'⟩).map delimited
    rw [Production.map_andThen delimited _ (fun w => w.batch ⟨schema, rows'⟩) _ fun _ => rfl,
      DelimitedLines.batch_batch]
  | jsonLines w =>
    show ((w.batch ⟨schema, rows⟩).map jsonLines).andThen _
      = (w.batch ⟨schema, rows ++ rows'⟩).map jsonLines
    rw [Production.map_andThen jsonLines _ (fun w => w.batch ⟨schema, rows'⟩) _ fun _ => rfl,
      JsonLines.batch_batch]

/-- **All batches are one** to a writer: it is the rows that it writes. -/
theorem takeAll_eq_batch (w : Writer) {schema : Schema} {bs : List Batch} (hne : bs ≠ [])
    (hs : HaveSchema schema bs) : w.takeAll bs = w.batch ⟨schema, rowsOf bs⟩ := by
  induction bs using List.reverseRecOn with
  | nil => exact absurd rfl hne
  | append_singleton bs b ih =>
    obtain ⟨hbs, hb⟩ := hs.concat
    have hlast : ∀ w : Writer, w.takeAll [b] = w.batch ⟨schema, b.rows⟩ := by
      intro w
      subst hb
      exact Production.andThen_done _
    by_cases hfirst : bs = []
    · subst hfirst
      rw [List.nil_append, rowsOf_singleton]
      exact hlast w
    · rw [takeAll_append, ih hfirst hbs, rowsOf_append, rowsOf_singleton, ← batch_batch]
      apply Production.andThen_congr
      intro _
      exact hlast _

end Writer

end SqlShell
