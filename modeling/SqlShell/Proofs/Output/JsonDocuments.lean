import SqlShell.Proofs.Output.JsonReadBack
import SqlShell.Proofs.Value.JsonPrinting

/-! # JSON Lines Are JSON Texts

    The line of a row belongs to the grammar of JSON, whatever kinds of values
    stand in it and however they nest, **if and only if all numbers in it are
    finite**.

    * **`isFinite_ofMembers_zip`**: the names of the columns do not matter.
    * **`rows_are_documents_iff`** is the result. -/

namespace SqlShell

open Text

namespace JsonLines

/-- The members of a row, of which there are as many as columns and cells. -/
theorem map_zip_take_min (names : List Text) (xs : List JsonValue) :
    (List.zip names xs).map Prod.fst = names.take xs.length ∧
      (List.zip names xs).map Prod.snd = xs.take names.length := by
  have hlength : (names.take (min names.length xs.length)).length
      = (xs.take (min names.length xs.length)).length := by
    simp
  rw [List.zip_eq_zip_take_min, List.map_fst_zip (Nat.le_of_eq hlength),
    List.map_snd_zip (Nat.le_of_eq hlength.symm), List.take_eq_take_iff, List.take_eq_take_iff]
  omega

/-- **The cells of a row decide** whether all numbers of its object are finite. -/
theorem isFinite_ofMembers_zip {names : List Text} (hnames : names.Nodup) (row : Row) :
    (JsonValue.ofMembers (List.zip names (JsonValue.ofValues row))).isFinite = true ↔
      ∀ v ∈ row.take names.length, (JsonValue.ofValue v).isFinite = true := by
  obtain ⟨hfst, hsnd⟩ := map_zip_take_min names (JsonValue.ofValues row)
  -- No name stands for two cells, so no member is lost.
  have hunlike : ((List.zip names (JsonValue.ofValues row)).map Prod.fst).Nodup := by
    rw [hfst]
    exact hnames.sublist (List.take_sublist _ _)
  have hcells : (List.zip names (JsonValue.ofValues row)).map Prod.snd
      = (row.take names.length).map JsonValue.ofValue := by
    rw [hsnd, JsonValue.ofValues_eq_map, List.map_take]
  have hall : (∀ x ∈ (List.zip names (JsonValue.ofValues row)).map Prod.snd, x.isFinite = true) ↔
      ∀ v ∈ row.take names.length, (JsonValue.ofValue v).isFinite = true := by
    rw [hcells]
    exact List.forall_mem_map
  rw [JsonValue.ofMembers_of_unlike hunlike, JsonValue.isFinite, JsonValue.membersAreFinite_eq_all,
    List.all_eq_true]
  exact List.forall_mem_map.symm.trans hall

/-- The line of a row is one line. -/
theorem isOneLine_line (names : List Text) (row : Row) : IsOneLine (line names row) :=
  ⟨_, rfl, JsonText.isUnbroken_render _⟩

end JsonLines

namespace Writer

variable {schema : Schema} {bs : List Batch}

/-- **The lines are JSON texts** if and only if all numbers in the row are finite.
    Whatever the columns are called, and whatever the batches a result comes in:
    there is one line for each row, in order, and it belongs to the grammar of JSON
    unless a floating-point number in a cell, at any depth of nesting, is
    undefined or infinite; if there is one, it does not.  A row has a cell for each
    column; what it has beyond them is not written. -/
theorem rows_are_documents_iff (settings : Settings) (hb : HaveSchema schema bs) :
    ∃ texts last, ((create settings .json).takeWhole bs).Gives texts last ∧
      List.Forall₂ (fun row text => IsOneLine text ∧ (JsonText.IsDocument text ↔
        ∀ v ∈ row.take schema.length, (JsonValue.ofValue v).isFinite = true))
          (rowsOf bs) texts := by
  obtain ⟨last, hgives⟩ := gives_takeWhole_json settings hb
  refine ⟨_, last, hgives, ?_⟩
  rw [List.forall₂_map_right_iff, List.forall₂_same]
  intro row _
  have hlength : (distinctNames schema.names).length = schema.length := by
    rw [length_distinctNames, Schema.names, List.length_map]
  have hcells := JsonLines.isFinite_ofMembers_zip (nodup_distinctNames schema.names) row
  rw [hlength] at hcells
  exact ⟨JsonLines.isOneLine_line _ row, (JsonText.isDocument_render_iff _).trans hcells⟩

/-- Numbers of both kinds, one of them undefined, bytes and a map in a row. -/
@[irreducible] def kindsOfCells : List Batch :=
  [⟨[⟨"x".toList, "DOUBLE".toList⟩, ⟨"x".toList, "STRUCT".toList⟩],
    [[.float (.finite true 7205759403792794 (-56)),
      .map [(.int 1, .tuple [.decimal (.undefined false false []), .bytes .fixed [0, 255]])]]]⟩]

/-- The decimal is written as a text, and so are the bytes. -/
theorem rows_are_documents_iff_kinds :
    ∃ texts last, ((create {} .json).takeWhole kindsOfCells).Gives texts last ∧
      texts.length = 1 ∧ ∀ text ∈ texts, IsOneLine text ∧ JsonText.IsDocument text := by
  let schema : Schema := [⟨"x".toList, "DOUBLE".toList⟩, ⟨"x".toList, "STRUCT".toList⟩]
  let row : Row := [.float (.finite true 7205759403792794 (-56)),
    .map [(.int 1, .tuple [.decimal (.undefined false false []), .bytes .fixed [0, 255]])]]
  have hb : HaveSchema schema kindsOfCells := by
    unfold kindsOfCells HaveSchema
    simp [schema]
  have hrows : rowsOf kindsOfCells = [row] := by
    unfold kindsOfCells
    rfl
  obtain ⟨texts, last, hgives, hlines⟩ := rows_are_documents_iff {} hb
  rw [hrows] at hlines
  obtain ⟨text, _, ⟨hone, hdocument⟩, hnone, rfl⟩ := List.forall₂_cons_left_iff.1 hlines
  obtain rfl := List.forall₂_nil_left_iff.1 hnone
  have hfinite : ∀ v ∈ row.take schema.length, (JsonValue.ofValue v).isFinite = true :=
    List.forall_mem_cons.2 ⟨rfl, List.forall_mem_singleton.2 rfl⟩
  exact ⟨[text], last, hgives, rfl, List.forall_mem_singleton.2 ⟨hone, hdocument.2 hfinite⟩⟩

/-- A cell with an undefined number. -/
@[irreducible] def undefinedCell : List Batch :=
  [⟨[⟨"x".toList, "DOUBLE".toList⟩], [[.float .undefined]]⟩]

/-- It is written as a word that is none of the grammar. -/
theorem undefined_is_no_document :
    ∃ text last, ((create {} .json).takeWhole undefinedCell).Gives [text] last ∧
      text = "\x7b\"x\": NaN\x7d\n".toList ∧ ¬ JsonText.IsDocument text := by
  have hb : HaveSchema [⟨"x".toList, "DOUBLE".toList⟩] undefinedCell := by
    unfold undefinedCell HaveSchema
    simp
  have hrows : rowsOf undefinedCell = [[.float .undefined]] := by
    unfold undefinedCell
    rfl
  obtain ⟨last, hgives⟩ := gives_takeWhole_json {} hb
  rw [hrows] at hgives
  refine ⟨_, last, hgives, rfl, ?_⟩
  intro hdocument
  rw [JsonLines.line, JsonText.isDocument_render_iff] at hdocument
  cases hdocument

end Writer

end SqlShell
