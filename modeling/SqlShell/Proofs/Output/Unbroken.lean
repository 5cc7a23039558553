import SqlShell.Proofs.Output.ClosedForm

/-! # One Line for Each Row

    No cell of a table breaks its line, whatever it holds.  The names of the
    columns are written as they are, and a table is one line for each row
    besides its frame **if none of them breaks the header**.

    * **`IsUnbroken`** and **`IsOneLine`** say what a line is.
    * **`isUnbroken_escapeCell`** is what keeps the cells within their lines.
    * **`table_is_unbroken`** is the result. -/

namespace SqlShell

namespace Text

/-! ## Lines -/

/-- **A text without line breaks** and without tabs. -/
def IsUnbroken (s : Text) : Prop := ∀ c ∈ s, c ≠ '\n' ∧ c ≠ '\r' ∧ c ≠ '\t'

/-- **A single line** and its end. -/
def IsOneLine (s : Text) : Prop := ∃ body, s = body ++ ['\n'] ∧ IsUnbroken body

instance : DecidablePred IsUnbroken :=
  List.decidableBAll fun c => c ≠ '\n' ∧ c ≠ '\r' ∧ c ≠ '\t'

theorem IsUnbroken.append {s t : Text} (hs : IsUnbroken s) (ht : IsUnbroken t) :
    IsUnbroken (s ++ t) := by
  intro c hc
  rcases List.mem_append.1 hc with hc | hc
  · exact hs c hc
  · exact ht c hc

theorem isUnbroken_replicate (n : Nat) {c : Char} (h : IsUnbroken [c]) :
    IsUnbroken (List.replicate n c) := by
  intro d hd
  rw [List.eq_of_mem_replicate hd]
  exact h c List.mem_cons_self

theorem IsUnbroken.take {s : Text} (h : IsUnbroken s) (n : Nat) : IsUnbroken (s.take n) := by
  intro c hc
  exact h c (List.mem_of_mem_take hc)

theorem isUnbroken_joinWith {separator : Text} {texts : List Text}
    (hseparator : IsUnbroken separator) (htexts : ∀ t ∈ texts, IsUnbroken t) :
    IsUnbroken (joinWith separator texts) := by
  induction texts with
  | nil =>
    intro c hc
    cases hc
  | cons t texts ih =>
    obtain ⟨ht, hrest⟩ := List.forall_mem_cons.1 htexts
    cases texts with
    | nil => exact ht
    | cons t' texts => exact (ht.append hseparator).append (ih hrest)

/-- The ends of lines are counted. -/
theorem count_lineEnds {texts : List Text} (h : ∀ t ∈ texts, IsOneLine t) :
    texts.flatten.count '\n' = texts.length := by
  induction texts with
  | nil => rfl
  | cons t texts ih =>
    obtain ⟨⟨body, rfl, hbody⟩, hrest⟩ := List.forall_mem_cons.1 h
    have hnone : body.count '\n' = 0 := by
      apply List.count_eq_zero_of_not_mem
      intro hmem
      exact (hbody _ hmem).1 rfl
    rw [List.flatten_cons, List.count_append, List.count_append, hnone, ih hrest, List.length_cons]
    exact Nat.add_comm _ _

/-! ## Cells -/

/-- A character that is replaced is gone. -/
theorem not_mem_substitute {c : Char} {r : Text} (hr : c ∉ r) (s : Text) :
    c ∉ substitute c r s := by
  intro hmem
  obtain ⟨d, -, hd⟩ := List.mem_flatMap.1 hmem
  split at hd
  case isTrue => exact hr hd
  case isFalse hne => exact hne (List.mem_singleton.1 hd).symm

/-- Another character only comes in with what is put in its place. -/
theorem not_mem_substitute_of_not_mem {c d : Char} {r s : Text} (hr : d ∉ r) (hs : d ∉ s) :
    d ∉ substitute c r s := by
  intro hmem
  obtain ⟨e, he, hd⟩ := List.mem_flatMap.1 hmem
  split at hd
  case isTrue => exact hr hd
  case isFalse => exact hs (List.mem_singleton.1 hd ▸ he)

end Text

open Text

namespace TableDrawing

/-- **No cell breaks its line.** -/
theorem isUnbroken_escapeCell (s : Text) : IsUnbroken (escapeCell s) := by
  have hreturn : '\r' ∉ substitute '\r' ['\\', 'r'] s := not_mem_substitute (by decide) s
  have hreturn' : '\r' ∉ substitute '\n' ['\\', 'n'] (substitute '\r' ['\\', 'r'] s) :=
    not_mem_substitute_of_not_mem (by decide) hreturn
  have hfeed : '\n' ∉ substitute '\n' ['\\', 'n'] (substitute '\r' ['\\', 'r'] s) :=
    not_mem_substitute (by decide) _
  intro c hc
  refine ⟨?_, ?_, ?_⟩
  · rintro rfl
    exact not_mem_substitute_of_not_mem (by decide) hfeed hc
  · rintro rfl
    exact not_mem_substitute_of_not_mem (by decide) hreturn' hc
  · rintro rfl
    exact not_mem_substitute (by decide) _ hc

theorem isUnbroken_shownCell {text : Text} (h : IsUnbroken text) (width : Int) :
    IsUnbroken (shownCell text width) := by
  unfold shownCell
  split
  · exact h.append (isUnbroken_replicate _ (by decide))
  · exact (h.take _).append (by decide)

theorem isOneLine_cellLine (widths : List Int) {texts : List Text}
    (h : ∀ t ∈ texts, IsUnbroken t) : IsOneLine (cellLine widths texts) := by
  have hcells : ∀ t ∈ List.zipWith shownCell texts widths, IsUnbroken t := by
    intro t ht
    rw [← List.map_uncurry_zip_eq_zipWith] at ht
    obtain ⟨p, hp, rfl⟩ := List.mem_map.1 ht
    exact isUnbroken_shownCell (h p.1 (List.of_mem_zip hp).1) p.2
  have hjoin : IsUnbroken (joinWith " | ".toList (List.zipWith shownCell texts widths)) :=
    isUnbroken_joinWith (by decide) hcells
  refine ⟨"| ".toList ++ joinWith " | ".toList (List.zipWith shownCell texts widths)
    ++ " |".toList, ?_, ?_⟩
  · rw [cellLine, List.append_assoc _ " |".toList]
    rfl
  · exact (IsUnbroken.append (by decide) hjoin).append (by decide)

theorem isOneLine_border (widths : List Int) : IsOneLine (border widths) := by
  have hdashes : ∀ t ∈ widths.map fun w => List.replicate (w + 2).toNat '-', IsUnbroken t := by
    intro t ht
    obtain ⟨w, -, rfl⟩ := List.mem_map.1 ht
    exact isUnbroken_replicate _ (by decide)
  have hjoin : IsUnbroken
      (joinWith ['+'] (widths.map fun w => List.replicate (w + 2).toNat '-')) :=
    isUnbroken_joinWith (by decide) hdashes
  refine ⟨['+'] ++ joinWith ['+'] (widths.map fun w => List.replicate (w + 2).toNat '-') ++ ['+'],
    ?_, (IsUnbroken.append (by decide) hjoin).append (by decide)⟩
  rw [border, List.append_assoc _ ['+']]
  rfl

theorem isOneLine_widthNote : IsOneLine widthNote :=
  ⟨widthNote.dropLast, rfl, by decide⟩

/-! ## The whole table -/

variable (new : TableDrawing) (schema : Schema) (rows : List Row)

/-- The header of a table with these rows. -/
def header : Text := cellLine (new.columnWidths schema rows) schema.names

/-- **Every line but the header** is a single one, whatever the names and the cells. -/
theorem isOneLine_of_ne_header {text : Text} (h : text ∈ new.wholeTable schema rows)
    (hne : text ≠ new.header schema rows) : IsOneLine text := by
  have hborder := isOneLine_border (new.columnWidths schema rows)
  rw [wholeTable] at h
  rcases List.mem_append.1 h with h | h
  · rcases List.mem_append.1 h with h | h
    · rcases List.mem_append.1 h with h | h
      · split at h
        case isTrue =>
          rw [List.mem_singleton.1 h]
          exact isOneLine_widthNote
        case isFalse => cases h
      · -- The head of the table.
        rcases List.mem_cons.1 h with h | h
        · exact h ▸ hborder
        · rcases List.mem_cons.1 h with h | h
          · exact absurd h hne
          · exact List.mem_singleton.1 h ▸ hborder
    · obtain ⟨row, -, rfl⟩ := List.mem_map.1 h
      apply isOneLine_cellLine
      intro t ht
      obtain ⟨v, -, rfl⟩ := List.mem_map.1 ht
      exact isUnbroken_escapeCell _
  · exact List.mem_singleton.1 h ▸ hborder

theorem length_wholeTable : (new.wholeTable schema rows).length
    = rows.length + 4 + if new.IsEarly rows.length then 1 else 0 := by
  unfold wholeTable
  split <;> simp

end TableDrawing

namespace Writer

variable {schema : Schema} {bs : List Batch}

/-- **One line for each row.**  Every text that is written for a table is a single
    line, the header apart, whatever the columns are called and whatever the rows
    hold.  If no name breaks its line, the header is one as well, and the table has
    as many lines as there are rows, and four, and one more for the note. -/
theorem table_is_unbroken (settings : Settings) (hs : schema ≠ []) (hb : HaveSchema schema bs)
    (hne : rowsOf bs ≠ []) (hrows : ∀ row ∈ rowsOf bs, row.length = schema.length)
    (hdraw : ∀ row ∈ rowsOf bs, (tableFor settings).canDraw row = true) :
    ∃ texts last, ((create settings .table).takeWhole bs).Gives texts last ∧
      (∀ text ∈ texts, text ≠ (tableFor settings).header schema (rowsOf bs) → IsOneLine text) ∧
      ((∀ name ∈ schema.names, IsUnbroken name) → (∀ text ∈ texts, IsOneLine text) ∧
        texts.flatten.count '\n' = (rowsOf bs).length + 4
          + if (tableFor settings).IsEarly (rowsOf bs).length then 1 else 0) := by
  obtain ⟨last, hgives⟩ := gives_takeWhole_table hs hb hne hrows hdraw
  refine ⟨_, _, hgives, ?_, ?_⟩
  · intro text htext
    exact TableDrawing.isOneLine_of_ne_header _ _ _ htext
  · intro hnames
    have hall : ∀ text ∈ (tableFor settings).wholeTable schema (rowsOf bs), IsOneLine text := by
      intro text htext
      by_cases hheader : text = (tableFor settings).header schema (rowsOf bs)
      · rw [hheader]
        exact TableDrawing.isOneLine_cellLine _ hnames
      · exact TableDrawing.isOneLine_of_ne_header _ _ _ htext hheader
    refine ⟨hall, ?_⟩
    rw [count_lineEnds hall, TableDrawing.length_wholeTable]

/-- A remark of two lines, with a tab in it. -/
@[irreducible] def remark : List Batch :=
  [⟨[⟨"remark".toList, "VARCHAR".toList⟩], [[.text "two\nlines,\tnot one".toList]]⟩]

/-- It is shown on one line. -/
theorem table_is_unbroken_remark :
    ∃ texts last, ((create {} .table).takeWhole remark).Gives texts last ∧
      (∀ text ∈ texts, IsOneLine text) ∧ texts.flatten.count '\n' = 5 := by
  have hb : HaveSchema [⟨"remark".toList, "VARCHAR".toList⟩] remark := by
    unfold remark HaveSchema
    simp
  have hne : rowsOf remark ≠ [] := by
    unfold remark
    simp [rowsOf]
  have hrows : ∀ row ∈ rowsOf remark,
      row.length = ([⟨"remark".toList, "VARCHAR".toList⟩] : Schema).length := by
    unfold remark
    simp [rowsOf]
  have hdraw : ∀ row ∈ rowsOf remark, (tableFor {}).canDraw row = true := by
    intro row _
    rfl
  have hnames : ∀ name ∈ Schema.names [⟨"remark".toList, "VARCHAR".toList⟩],
      IsUnbroken name := by decide
  obtain ⟨texts, last, hgives, -, hlines⟩ :=
    table_is_unbroken {} (List.cons_ne_nil _ _) hb hne hrows hdraw
  obtain ⟨hall, hcount⟩ := hlines hnames
  refine ⟨texts, last, hgives, hall, ?_⟩
  rw [hcount]
  unfold remark
  rfl

/-- A number in a column whose name has two lines. -/
@[irreducible] def twoLineName : List Batch :=
  [⟨[⟨"a\nb".toList, "INTEGER".toList⟩], [[.int 1]]⟩]

/-- The header of its table is broken, and there is one line too many. -/
theorem table_broken_by_name :
    ∃ texts last, ((create {} .table).takeWhole twoLineName).Gives texts last ∧
      (∃ text ∈ texts, ¬ IsOneLine text) ∧ texts.flatten.count '\n' = 6 := by
  have htable : (tableFor {}).wholeTable [⟨"a\nb".toList, "INTEGER".toList⟩] [[.int 1]]
      = ["+-----+\n".toList, "| a\nb |\n".toList, "+-----+\n".toList, "| 1   |\n".toList,
          "+-----+\n".toList] := rfl
  have hb : HaveSchema [⟨"a\nb".toList, "INTEGER".toList⟩] twoLineName := by
    unfold twoLineName HaveSchema
    simp
  have hrows : rowsOf twoLineName = [[.int 1]] := by
    unfold twoLineName
    rfl
  have hdraw : ∀ row ∈ rowsOf twoLineName, (tableFor {}).canDraw row = true := by
    intro row _
    rfl
  obtain ⟨last, hgives⟩ := gives_takeWhole_table (List.cons_ne_nil _ _) hb
    (by rw [hrows]; exact List.cons_ne_nil _ _) (by rw [hrows]; simp) hdraw
  rw [hrows, htable] at hgives
  refine ⟨_, last, hgives, ⟨"| a\nb |\n".toList, by simp, ?_⟩, by decide⟩
  intro hone
  have hall : ∀ text ∈ ["| a\nb |\n".toList], IsOneLine text := by
    intro text htext
    rw [List.mem_singleton.1 htext]
    exact hone
  exact absurd (count_lineEnds hall) (by decide)

end Writer

end SqlShell
