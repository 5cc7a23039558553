import Mathlib.Algebra.Ring.Int.Defs
import SqlShell.Proofs.Output.ClosedForm

/-! # The Table as a Rectangle

    All lines of a table are equally long, since every cell is shown exactly as
    wide as its column: a cell that is cut has room for the mark of the cut.

    * **`HasRoom`** says that a text can be shown at a width, and
      **`length_shownCell`** what follows from it.
    * **`length_border`** and **`length_cellLine`** are the lengths of lines.
    * **`AreShown.hasRoom`**: the columns of a table have room for all that is
      shown in them, whether they were measured early or by all rows.
    * **`isBox_wholeTable`**: so the whole table is a closed box. -/

namespace SqlShell

namespace Text

/-- The length of texts that are put together: each of them counts with a
    separator, but the last has none. -/
theorem length_joinWith (separator : Text) {texts : List Text} (h : texts ≠ []) :
    ((joinWith separator texts).length : Int) + separator.length
      = (texts.map fun t => (separator.length : Int) + t.length).sum := by
  induction texts with
  | nil => exact absurd rfl h
  | cons t texts ih =>
    cases texts with
    | nil =>
      rw [List.map_singleton, List.sum_singleton]
      exact Int.add_comm _ _
    | cons t' texts =>
      have hrest := ih (List.cons_ne_nil t' texts)
      have hcons : joinWith separator (t :: t' :: texts)
          = t ++ separator ++ joinWith separator (t' :: texts) := rfl
      rw [List.map_cons, List.sum_cons, ← hrest, hcons, List.length_append, List.length_append]
      omega

end Text

namespace TableDrawing

/-! ## Lines -/

/-- A text can be shown at a width: it fits, or the mark of a cut does. -/
def HasRoom (text : Text) (width : Int) : Prop := text.length ≤ width ∨ 3 ≤ width

/-- **A cell is as wide as its column.** -/
theorem length_shownCell {text : Text} {width : Int} (h : HasRoom text width) :
    ((shownCell text width).length : Int) = width := by
  unfold shownCell
  split
  case isTrue hfits =>
    rw [List.length_append, List.length_replicate]
    omega
  case isFalse hlong =>
    have hcut : 3 ≤ width := h.resolve_left hlong
    rw [List.length_append, List.length_take]
    show ((min (width.toNat - 3) text.length + 3 : Nat) : Int) = width
    omega

/-- The length of a line whose columns have these widths. -/
def lineLength (widths : List Int) : Int := 2 + (widths.map fun w => w + 3).sum

/-- A line of cells between an opening and a closing. -/
theorem length_line (opening separator closing : Text) {cells : List Text} {widths : List Int}
    (hne : widths ≠ []) (hends : opening.length + closing.length = 2 + separator.length)
    (hcells : cells.map (fun t => (separator.length : Int) + t.length)
      = widths.map fun w => w + 3) :
    ((opening ++ Text.joinWith separator cells ++ closing).length : Int) = lineLength widths := by
  have hsome : cells ≠ [] := by
    rintro rfl
    exact hne (List.map_eq_nil_iff.1 hcells.symm)
  have hjoin := Text.length_joinWith separator hsome
  rw [lineLength, ← hcells, ← hjoin, List.length_append, List.length_append]
  omega

theorem length_border {widths : List Int} (hne : widths ≠ []) (hwidths : ∀ w ∈ widths, 0 ≤ w) :
    ((border widths).length : Int) = lineLength widths := by
  apply length_line ['+'] ['+'] "+\n".toList hne rfl
  rw [List.map_map]
  apply List.map_congr_left
  intro w hw
  have hw := hwidths w hw
  simp only [Function.comp_apply, List.length_replicate, List.length_singleton]
  omega

theorem length_cellLine {widths : List Int} {texts : List Text} (hne : widths ≠ [])
    (hlength : texts.length = widths.length) (hroom : ∀ p ∈ texts.zip widths, HasRoom p.1 p.2) :
    ((cellLine widths texts).length : Int) = lineLength widths := by
  apply length_line "| ".toList " | ".toList " |\n".toList hne rfl
  have hshown : List.zipWith shownCell texts widths
      = (texts.zip widths).map fun p => shownCell p.1 p.2 :=
    List.map_uncurry_zip_eq_zipWith.symm
  have hwidths : widths.map (fun w => w + 3) = (texts.zip widths).map fun p => p.2 + 3 := by
    have hsnd : (texts.zip widths).map Prod.snd = widths := List.map_snd_zip (by omega)
    conv_lhs => rw [← hsnd, List.map_map]
    rfl
  rw [hshown, hwidths, List.map_map]
  apply List.map_congr_left
  intro p hp
  have hlong := length_shownCell (hroom p hp)
  show (3 : Int) + (shownCell p.1 p.2).length = p.2 + 3
  omega

/-! ## Columns -/

theorem length_le_longest {text : Text} {texts : List Text} (h : text ∈ texts) :
    text.length ≤ longest texts := by
  induction texts with
  | nil => cases h
  | cons t texts ih =>
    have hlongest : longest (t :: texts) = max t.length (longest texts) := rfl
    rcases List.mem_cons.1 h with h | h
    · rw [h]
      omega
    · have hle := ih h
      omega

variable {w : TableDrawing} {schema : Schema} {rows : List Row}

/-- A table that is begun early has room for the mark of a cut in every column. -/
theorem three_le_of_early (h : w.IsEarly rows.length) {width : Int}
    (hwidth : width ∈ w.columnWidths schema rows) : 3 ≤ width := by
  have hmark : ∀ {widths : List Int}, width ∈ widths.map (max · 3) → 3 ≤ width := by
    intro widths hmem
    obtain ⟨v, -, hv⟩ := List.mem_map.1 hmem
    omega
  unfold columnWidths at hwidth
  by_cases htypes : w.lookaheadRows ≤ 0
  · rw [if_pos htypes] at hwidth
    obtain ⟨c, -, hc⟩ := List.mem_map.1 hwidth
    omega
  · have hmany := h.resolve_left htypes
    rw [if_neg htypes, if_neg (by omega)] at hwidth
    exact hmark hwidth

/-- **No column is wider than the greatest width.** -/
theorem columnWidths_le (hmax : 3 ≤ w.maxWidth) {width : Int}
    (hwidth : width ∈ w.columnWidths schema rows) : 0 ≤ width ∧ width ≤ w.maxWidth := by
  have hcontent : ∀ {rows : List Row} {v : Int}, v ∈ w.contentWidths schema rows →
      0 ≤ v ∧ v ≤ w.maxWidth := by
    intro rows v hv
    obtain ⟨i, hi, hv⟩ := List.mem_mapIdx.1 hv
    omega
  unfold columnWidths at hwidth
  split at hwidth
  case isTrue =>
    obtain ⟨c, -, hc⟩ := List.mem_map.1 hwidth
    omega
  case isFalse =>
    split at hwidth
    case isTrue => exact hcontent hwidth
    case isFalse =>
      obtain ⟨v, hv, hwidth⟩ := List.mem_map.1 hwidth
      have hv := hcontent hv
      omega

/-- The texts are shown in the columns of a table with these rows. -/
def AreShown (w : TableDrawing) (schema : Schema) (rows : List Row) (texts : List Text) : Prop :=
  ∀ i (hi : i < texts.length) (hi' : i < schema.length),
    texts[i] ∈ schema[i].name :: w.column rows i

theorem areShown_names : w.AreShown schema rows schema.names := by
  intro i hi hi'
  have hname : schema.names[i] = schema[i].name := List.getElem_map _
  rw [hname]
  exact List.mem_cons_self

theorem areShown_cells {row : Row} (hrow : row ∈ rows) :
    w.AreShown schema rows (w.cells row) := by
  intro i hi hi'
  have hcell : (w.cells row)[i] = (w.cells row).getD i [] := by simp [hi]
  rw [hcell]
  exact List.mem_cons_of_mem _ (List.mem_map_of_mem hrow)

/-- **A column has room** for all that is shown in it, even for cells that come
    after it has been measured. -/
theorem AreShown.hasRoom {texts : List Text} (h : w.AreShown schema rows texts)
    (hmax : 3 ≤ w.maxWidth) :
    ∀ p ∈ texts.zip (w.columnWidths schema rows), HasRoom p.1 p.2 := by
  intro p hp
  by_cases hearly : w.IsEarly rows.length
  · exact .inr (three_le_of_early hearly (List.of_mem_zip hp).2)
  · -- All rows are measured, so what does not fit is cut at the greatest width.
    obtain ⟨htypes, hfew⟩ := not_isEarly.1 hearly
    have hwidths : w.columnWidths schema rows = w.contentWidths schema rows := by
      rw [columnWidths, if_neg htypes, if_pos hfew]
    rw [hwidths] at hp
    obtain ⟨i, hi, hp⟩ := List.mem_iff_getElem.1 hp
    rw [List.getElem_zip] at hp
    have htext : i < texts.length := by
      rw [List.length_zip] at hi
      omega
    have hcolumn : i < schema.length := by
      rw [List.length_zip, contentWidths, List.length_mapIdx] at hi
      omega
    have hmeasured := length_le_longest (h i htext hcolumn)
    have hbound : i < (w.contentWidths schema rows).length := by
      simpa [contentWidths] using hcolumn
    have hwidth : (w.contentWidths schema rows)[i]
        = min (longest (schema[i].name :: w.column rows i) : Int) w.maxWidth :=
      List.getElem_mapIdx
    rw [← hp]
    unfold HasRoom
    dsimp only
    omega

/-! ## The whole table -/

/-- **The texts are a closed box**: after the note, if there is one, a border, the
    names, a border, the rows and a border.  All these lines are equally long: they
    have `ends` characters besides those of the columns, of which none is wider
    than the greatest width. -/
def IsBox (ends : Int) (w : TableDrawing) (schema : Schema) (rows : List Row)
    (texts : List Text) : Prop :=
  ∃ (note : List Text) (widths : List Int),
    (note = [] ∨ note = [widthNote]) ∧ widths.length = schema.length ∧
    (∀ width ∈ widths, 0 ≤ width ∧ width ≤ w.maxWidth) ∧
    texts = note ++ [border widths, rowLine widths schema.names, border widths]
      ++ rows.map (fun row => rowLine widths (w.cells row)) ++ [border widths] ∧
    ∀ line ∈ border widths :: rowLine widths schema.names
        :: rows.map (fun row => rowLine widths (w.cells row)),
      (line.length : Int) = ends + (widths.map fun width => width + 3).sum

/-- **The whole table is a closed box.** -/
theorem isBox_wholeTable (hmax : 3 ≤ w.maxWidth) (hs : schema ≠ [])
    (hrows : ∀ row ∈ rows, row.length = schema.length) :
    w.IsBox 2 schema rows (w.wholeTable schema rows) := by
  let widths := w.columnWidths schema rows
  have hlength : widths.length = schema.length := length_columnWidths
  have hne : widths ≠ [] := by
    intro hnil
    rw [hnil, List.length_nil] at hlength
    exact hs (List.eq_nil_of_length_eq_zero hlength.symm)
  have hwidths : ∀ width ∈ widths, 0 ≤ width ∧ width ≤ w.maxWidth := by
    intro width hwidth
    exact columnWidths_le hmax hwidth
  have hline : ∀ texts : List Text, texts.length = schema.length →
      w.AreShown schema rows texts → ((rowLine widths texts).length : Int) = lineLength widths := by
    intro texts htexts hshown
    rw [rowLine_eq_cellLine]
    exact length_cellLine hne (htexts.trans hlength.symm) (hshown.hasRoom hmax)
  refine ⟨if w.IsEarly rows.length then [widthNote] else [], widths, ?_, hlength, hwidths, ?_, ?_⟩
  · split
    · exact .inr rfl
    · exact .inl rfl
  · simp only [wholeTable, rowLine_eq_cellLine]
    rfl
  · intro line hmem
    rcases List.mem_cons.1 hmem with rfl | hmem
    · exact length_border hne fun width hwidth => (hwidths width hwidth).1
    · rcases List.mem_cons.1 hmem with rfl | hmem
      · exact hline schema.names (List.length_map _) areShown_names
      · obtain ⟨row, hrow, rfl⟩ := List.mem_map.1 hmem
        have hcells : (w.cells row).length = schema.length :=
          (List.length_map _).trans (hrows row hrow)
        exact hline (w.cells row) hcells (areShown_cells hrow)

/-- There are two characters at the ends of a line, and not more or less. -/
theorem IsBox.ends_eq {ends : Int} {texts : List Text} (h : w.IsBox ends schema rows texts)
    (hs : schema ≠ []) : ends = 2 := by
  obtain ⟨note, widths, -, hlength, hwidths, -, hlines⟩ := h
  have hne : widths ≠ [] := by
    intro hnil
    rw [hnil, List.length_nil] at hlength
    exact hs (List.eq_nil_of_length_eq_zero hlength.symm)
  have hborder := hlines (border widths) List.mem_cons_self
  have hlong := length_border hne fun width hwidth => (hwidths width hwidth).1
  unfold lineLength at hlong
  omega

end TableDrawing

end SqlShell
