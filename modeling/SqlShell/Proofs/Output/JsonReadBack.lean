import SqlShell.Proofs.Output.ColumnNames
import SqlShell.Proofs.Output.Merging
import SqlShell.Proofs.Output.Unbroken
import SqlShell.Proofs.Value.JsonPrinting

/-! # JSON Lines Are Read Back

    Each line that is written for a row is a JSON text, and nothing of the row is
    lost in it.

    * **`isUnbroken_json`**: the text of a value stays on its line.
    * **`line_eq_json`**: the line of a row is the text of a map, of which the keys
      are the names of the columns, made unlike each other.
    * **`rows_read_back`** is the result. -/

namespace SqlShell

open Text

/-! ## One line -/

namespace JsonText

theorem isUnbroken_escapeChar (c : Char) : IsUnbroken (JsonValue.escapeChar c) := by
  have hprintable : ∀ d : Char, 32 ≤ d.toNat → d ≠ '\n' ∧ d ≠ '\r' ∧ d ≠ '\t' := by
    intro d hd
    refine ⟨?_, ?_, ?_⟩
    all_goals
      rintro rfl
      exact absurd hd (by decide)
  rcases escapeChar_cases c with ⟨hc, -, -, hcontrol⟩ | ⟨t, hc, -, ht⟩
  · rw [hc]
    intro d hd
    rw [List.mem_singleton.1 hd]
    exact hprintable c (Nat.le_of_not_lt hcontrol)
  · rw [hc]
    intro d hd
    rcases List.mem_cons.1 hd with rfl | hd
    · decide
    · exact hprintable d (of_decide_eq_true (List.all_eq_true.1 ht d hd))

theorem isUnbroken_stringText (s : Text) : IsUnbroken (JsonValue.stringText s) := by
  intro c hc
  rcases List.mem_append.1 hc with hc | hc
  · rcases List.mem_cons.1 hc with rfl | hc
    · decide
    · obtain ⟨d, -, hd⟩ := List.mem_flatMap.1 hc
      exact isUnbroken_escapeChar d c hd
  · rw [List.mem_singleton.1 hc]
    decide

theorem IsNumber.isUnbroken {s : Text} (h : IsNumber s) : IsUnbroken s := by
  intro c hc
  have hfigure := h.isFigure c hc
  refine ⟨?_, ?_, ?_⟩
  all_goals
    rintro rfl
    revert hfigure
    unfold IsFigure
    decide

/-- Elements between an opening and a closing sign. -/
theorem isUnbroken_enclosed {first last : Char} {texts : List Text} (hfirst : IsUnbroken [first])
    (hlast : IsUnbroken [last]) (htexts : ∀ t ∈ texts, IsUnbroken t) :
    IsUnbroken (first :: joinWith ", ".toList texts ++ [last]) :=
  (hfirst.append (isUnbroken_joinWith (by decide) htexts)).append hlast

theorem isUnbroken_render (v : JsonValue) : IsUnbroken v.render := by
  induction v using JsonValue.nested_induction with
  | null => decide
  | bool b => cases b <;> decide
  | int n => exact (isNumber_integerText n).isUnbroken
  | float x =>
    cases x with
    | undefined => decide
    | infinite negative => cases negative <;> decide
    | finite negative mantissa exponent =>
      exact (isNumber_finite negative mantissa exponent).isUnbroken
  | text s => exact isUnbroken_stringText s
  | array xs ih =>
    rw [JsonValue.render, JsonValue.renderAll_eq_map]
    exact isUnbroken_enclosed (by decide) (by decide) (List.forall_mem_map.2 ih)
  | object members ih =>
    rw [JsonValue.render, JsonValue.renderMembers_eq_map]
    apply isUnbroken_enclosed (by decide) (by decide)
    rw [List.forall_mem_map]
    intro m hm
    have hcolon : IsUnbroken [':', ' '] := by decide
    exact (isUnbroken_stringText m.1).append (hcolon.append (ih m hm))

/-- **The text of a value stays on its line.** -/
theorem isUnbroken_json (v : Value) : IsUnbroken v.json := isUnbroken_render (.ofValue v)

end JsonText

/-! ## Rows -/

namespace JsonLines

variable {names : List Text} {row : Row}

/-- **The map that a row stands for**: the names of the columns, and their cells. -/
def rowMap (names : List Text) (row : Row) : Value := .map (List.zip (names.map .text) row)

/-- The line of a row is the text of its map. -/
theorem line_eq_json (names : List Text) (row : Row) :
    line names row = (rowMap names row).json ++ ['\n'] := by
  have hentries : JsonValue.ofEntries (List.zip (names.map .text) row)
      = List.zip names (JsonValue.ofValues row) := by
    calc
      JsonValue.ofEntries (List.zip (names.map .text) row)
          = (List.zip (names.map .text) row).map (Prod.map Value.plain JsonValue.ofValue) :=
        JsonValue.ofEntries_eq_map _
      _ = List.zip ((names.map .text).map Value.plain) (row.map JsonValue.ofValue) :=
        (List.zip_map ..).symm
      _ = List.zip names (JsonValue.ofValues row) := by
        rw [JsonValue.ofValues_eq_map, List.map_map]
        exact congrArg (List.zip · _) (List.map_id names)
  rw [line, rowMap, Value.json, JsonValue.ofValue, hentries]

theorem hasJsonForm_rowMap (hnames : names.Nodup) (hlength : row.length = names.length)
    (hrow : ∀ v ∈ row, v.HasJsonForm) : (rowMap names row).HasJsonForm := by
  have hkeys : (names.map Value.text).length = row.length :=
    (List.length_map Value.text).trans hlength.symm
  exact .map names hnames (List.map_fst_zip (Nat.le_of_eq hkeys)) fun e he =>
    hrow e.2 (List.of_mem_zip he).2

theorem untupled_rowMap (names : List Text) (row : Row) :
    (rowMap names row).untupled = rowMap names (row.map Value.untupled) := by
  have hentries : Value.untupledEntries (List.zip (names.map .text) row)
      = List.zip (names.map .text) (row.map Value.untupled) := by
    rw [Value.untupledEntries_eq_map, List.zip_map_right]
    rfl
  rw [rowMap, Value.untupled, hentries, rowMap]

end JsonLines

/-! ## Whole results -/

namespace Writer

variable {schema : Schema} {bs : List Batch}

/-- **JSON lines in closed form**: one line for each row. -/
theorem gives_takeWhole_json (settings : Settings) (hb : HaveSchema schema bs) :
    ∃ last, ((create settings .json).takeWhole bs).Gives
      ((rowsOf bs).map (JsonLines.line (distinctNames schema.names))) last := by
  by_cases hne : bs = []
  · subst hne
    exact ⟨_, Production.gives_done _⟩
  · have hbatch := JsonLines.gives_batch {} ⟨schema, rowsOf bs⟩
    rw [takeWhole, takeAll_eq_batch _ hne hb, ← List.append_nil (List.map _ _)]
    exact ⟨_, (hbatch.map jsonLines).andThen (Production.gives_done _)⟩

/-- **The rows are read back.**  Whatever the columns are called, and whatever the
    batches a result comes in: there is one line for each row, in order, and it is
    a JSON text that stands for an object with one member for each column.  Its
    name is the one that the column has been given, which no other column has, and
    its value is the cell, with lists for the tuples in it. -/
theorem rows_read_back (settings : Settings) (hb : HaveSchema schema bs)
    (hlength : ∀ row ∈ rowsOf bs, row.length = schema.length)
    (hrows : ∀ row ∈ rowsOf bs, ∀ v ∈ row, v.HasJsonForm) :
    ∃ texts last, ((create settings .json).takeWhole bs).Gives texts last ∧
      (distinctNames schema.names).Nodup ∧
      (distinctNames schema.names).length = schema.length ∧
      List.Forall₂ (fun row text => IsOneLine text ∧ JsonText.document? text
          = some (.map (List.zip ((distinctNames schema.names).map .text)
              (row.map Value.untupled)))) (rowsOf bs) texts := by
  obtain ⟨last, hgives⟩ := gives_takeWhole_json settings hb
  have hnames : (distinctNames schema.names).length = schema.length := by
    rw [length_distinctNames, Schema.names, List.length_map]
  refine ⟨_, last, hgives, nodup_distinctNames _, hnames, ?_⟩
  rw [List.forall₂_map_right_iff, List.forall₂_same]
  intro row hrow
  have hform : (JsonLines.rowMap (distinctNames schema.names) row).HasJsonForm :=
    JsonLines.hasJsonForm_rowMap (nodup_distinctNames _) ((hlength row hrow).trans hnames.symm)
      (hrows row hrow)
  rw [JsonLines.line_eq_json]
  refine ⟨⟨_, rfl, JsonText.isUnbroken_json _⟩, ?_⟩
  rw [JsonText.document?_json hform, JsonLines.untupled_rowMap]
  rfl

/-- Two columns of one name, with a tuple and a map in a row. -/
@[irreducible] def nestedCells : List Batch :=
  [⟨[⟨"a".toList, "STRUCT".toList⟩, ⟨"a".toList, "MAP".toList⟩],
    [[.tuple [.null, .int (-5)], .map [(.text "\"k\"".toList, .list [.text "\n".toList])]]]⟩]

/-- The second one is read back under another name, and the tuple as a list. -/
theorem rows_read_back_nested :
    ∃ texts last, ((create {} .json).takeWhole nestedCells).Gives texts last ∧
      (∀ text ∈ texts, IsOneLine text) ∧ texts.map JsonText.document? = [some (.map
        [(.text "a".toList, .list [.null, .int (-5)]),
          (.text "a_1".toList, .map [(.text "\"k\"".toList, .list [.text "\n".toList])])])] := by
  let schema : Schema := [⟨"a".toList, "STRUCT".toList⟩, ⟨"a".toList, "MAP".toList⟩]
  let row : Row := [.tuple [.null, .int (-5)],
    .map [(.text "\"k\"".toList, .list [.text "\n".toList])]]
  have hb : HaveSchema schema nestedCells := by
    unfold nestedCells HaveSchema
    simp [schema]
  have hbatch : rowsOf nestedCells = [row] := by
    unfold nestedCells
    rfl
  have hrow : ∀ v ∈ row, v.HasJsonForm := by
    have htuple : (Value.tuple [.null, .int (-5)]).HasJsonForm :=
      .tuple (by simp [Value.HasJsonForm.null, Value.HasJsonForm.int])
    have hlist : (Value.list [.text "\n".toList]).HasJsonForm :=
      .list (by simp [Value.HasJsonForm.text])
    have hmap : (Value.map [(.text "\"k\"".toList, .list [.text "\n".toList])]).HasJsonForm :=
      .map ["\"k\"".toList] (List.nodup_singleton _) rfl (List.forall_mem_singleton.2 hlist)
    exact List.forall_mem_cons.2 ⟨htuple, List.forall_mem_singleton.2 hmap⟩
  have hlength : ∀ row ∈ rowsOf nestedCells, row.length = schema.length := by
    rw [hbatch]
    exact List.forall_mem_singleton.2 rfl
  have hrows : ∀ row ∈ rowsOf nestedCells, ∀ v ∈ row, v.HasJsonForm := by
    rw [hbatch]
    exact List.forall_mem_singleton.2 hrow
  obtain ⟨texts, last, hgives, -, -, hread⟩ := rows_read_back {} hb hlength hrows
  rw [hbatch] at hread
  obtain ⟨text, _, ⟨hone, hdocument⟩, hnone, rfl⟩ := List.forall₂_cons_left_iff.1 hread
  obtain rfl := List.forall₂_nil_left_iff.1 hnone
  refine ⟨[text], last, hgives, List.forall_mem_singleton.2 hone, ?_⟩
  rw [List.map_singleton, hdocument]
  rfl

end Writer

end SqlShell
