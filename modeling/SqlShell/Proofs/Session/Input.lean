import SqlShell.Proofs.Statement.Stability
import SqlShell.Session.Run

/-! # The Statements of an Input

    What the lines of a session come to, with the interruptions between them.

    * **`runsOf`** are the runs of lines between the interruptions, and
      **`statementsOfInput`** the statements that each of them completes, with
      the one that the last run leaves.
    * **`assembled`** says the same along the way: one item of the input after
      the other, from the buffer as it stands.
    * **`ofText_of_isStable`**: a statement that has been given out is taken for
      a statement again, as it is, or for a command. -/

namespace SqlShell

/-! ## Runs of lines -/

/-- A line with no line feed but at its end, or an interruption. -/
def InputLine.IsPlain : InputLine → Prop
  | .line text => IsLine text
  | .interrupt => True
  | .crash _ => False

instance : DecidablePred InputLine.IsPlain
  | .line text => inferInstanceAs (Decidable (IsLine text))
  | .interrupt => isTrue trivial
  | .crash _ => isFalse id

/-- The line that an item of the input holds. -/
def InputLine.text? : InputLine → Option Text
  | .line text => some text
  | .interrupt | .crash _ => none

/-- **The runs of lines** between the interruptions. -/
def runsOf (input : List InputLine) : List (List Text) :=
  (input.splitOn .interrupt).map (·.filterMap InputLine.text?)

/-- What is left at the end of some input, where the last run ends. -/
def leftOver (input : List InputLine) : Except Unterminated (Option Text) :=
  (StatementBuffer.empty.takeLines ((runsOf input).getLastD [])).2.finish

/-- The statement that is left, if there is one. -/
def tailOf : Except Unterminated (Option Text) → List Text
  | .ok tail => tail.toList
  | .error _ => []

/-- **The statements of some input**: those that its runs complete, and the one
    that is left at the end of the last run. -/
def statementsOfInput (input : List InputLine) : List Text :=
  (runsOf input).flatMap (fun lines => (StatementBuffer.empty.takeLines lines).1)
    ++ tailOf (leftOver input)

section Runs

variable (r : List InputLine)

theorem exists_runsOf : ∃ first others, runsOf r = first :: others := by
  apply List.exists_cons_of_ne_nil
  simp [runsOf, List.splitOn_ne_nil]

@[simp] theorem runsOf_nil : runsOf [] = [[]] := by
  rw [runsOf, List.splitOn_nil]
  rfl

@[simp] theorem runsOf_interrupt : runsOf (.interrupt :: r) = [] :: runsOf r := by
  rw [runsOf, List.splitOn_cons_eq_if_modifyHead, if_pos (by decide)]
  rfl

@[simp] theorem runsOf_line (text : Text) :
    runsOf (.line text :: r) = (runsOf r).modifyHead (text :: ·) := by
  rw [runsOf, runsOf, List.splitOn_cons_eq_if_modifyHead, if_neg (by simp)]
  cases r.splitOn .interrupt <;> rfl

@[simp] theorem runsOf_crash (c : Crash) : runsOf (.crash c :: r) = runsOf r := by
  rw [runsOf, runsOf, List.splitOn_cons_eq_if_modifyHead, if_neg (by simp)]
  cases r.splitOn .interrupt <;> rfl

end Runs

theorem runsOf_lines (lines : List Text) : runsOf (lines.map .line) = [lines] := by
  induction lines with
  | nil => exact runsOf_nil
  | cons line lines ih => rw [List.map_cons, runsOf_line, ih, List.modifyHead_cons]

theorem leftOver_lines (lines : List Text) :
    leftOver (lines.map .line) = (StatementBuffer.empty.takeLines lines).2.finish := by
  rw [leftOver, runsOf_lines]
  rfl

/-- The statements of lines are those that the buffer completes, and what is left. -/
theorem statementsOfInput_eq_takeLines (lines : List Text) :
    statementsOfInput (lines.map .line) = (StatementBuffer.empty.takeLines lines).1
      ++ tailOf (StatementBuffer.empty.takeLines lines).2.finish := by
  rw [← leftOver_lines, statementsOfInput, runsOf_lines]
  simp

/-- **Without interruptions** these are the statements of the lines; if the last
    of them is not terminated, those that have been completed before. -/
theorem statementsOfInput_lines (lines : List Text) :
    statementsOfInput (lines.map .line) = (StatementBuffer.empty.takeLines lines).1
        ++ tailOf (leftOver (lines.map .line)) ∧
      statementsOfLines lines = (leftOver (lines.map .line)).map
        fun _ => statementsOfInput (lines.map .line) := by
  have hleft := leftOver_lines lines
  have hall := statementsOfInput_eq_takeLines lines
  rw [← hleft] at hall
  refine ⟨hall, ?_⟩
  rw [StatementBuffer.statementsOfLines_eq, hall, hleft]
  cases (StatementBuffer.empty.takeLines lines).2.finish <;> rfl

/-! ## Assembly item by item -/

/-- **What comes of some input** from a buffer on: the statements that are
    completed, and what is left at the end. -/
def assembled (a : StatementBuffer) :
    List InputLine → List Text × Except Unterminated (Option Text)
  | [] => ([], a.finish)
  | .line text :: r =>
    ((a.takeLine text).1 ++ (assembled (a.takeLine text).2 r).1,
      (assembled (a.takeLine text).2 r).2)
  | .interrupt :: r => assembled .empty r
  | .crash _ :: r => assembled a r

/-- The buffer goes through the first run, and begins anew with each of the
    others. -/
theorem assembled_runs (a : StatementBuffer) {input : List InputLine} {first : List Text}
    {others : List (List Text)} (h : runsOf input = first :: others) :
    (assembled a input).1 = (a.takeLines first).1
        ++ others.flatMap (fun lines => (StatementBuffer.empty.takeLines lines).1) ∧
      (assembled a input).2 = (match others.getLast? with
        | none => (a.takeLines first).2
        | some last => (StatementBuffer.empty.takeLines last).2).finish := by
  induction input generalizing a first others with
  | nil =>
    rw [runsOf_nil] at h
    cases h
    exact ⟨rfl, rfl⟩
  | cons item r ih =>
    obtain ⟨next, rest, hr⟩ := exists_runsOf r
    cases item with
    | line text =>
      rw [runsOf_line, hr] at h
      cases h
      obtain ⟨hcomplete, hleft⟩ := ih (a.takeLine text).2 hr
      refine ⟨?_, hleft⟩
      rw [assembled, hcomplete, StatementBuffer.takeLines_cons, List.append_assoc]
    | interrupt =>
      rw [runsOf_interrupt, hr] at h
      cases h
      obtain ⟨hcomplete, hleft⟩ := ih .empty hr
      refine ⟨hcomplete, ?_⟩
      rw [assembled, hleft, List.getLast?_cons]
      cases rest.getLast? <;> rfl
    | crash c =>
      rw [runsOf_crash] at h
      exact ih a h

theorem assembled_empty (input : List InputLine) :
    (assembled .empty input).1 ++ tailOf (assembled .empty input).2 = statementsOfInput input ∧
      (assembled .empty input).2 = leftOver input := by
  obtain ⟨first, others, hruns⟩ := exists_runsOf input
  obtain ⟨hcomplete, hleft⟩ := assembled_runs .empty hruns
  have hleft : (assembled .empty input).2 = leftOver input := by
    rw [hleft, leftOver, hruns, List.getLastD_cons, List.getLastD_eq_getLast?]
    cases others.getLast? <;> rfl
  refine ⟨?_, hleft⟩
  rw [statementsOfInput, hleft, hcomplete, hruns]
  simp

/-! ## Statements and commands -/

/-- It asks for a command. -/
def Input.isCommand : Input → Bool
  | .command _ => true
  | .statement _ | .empty => false

/-- **No line is read as a command**: none of those that come while no statement
    is in progress. -/
def ReadsNoCommand (a : StatementBuffer) : List InputLine → Prop
  | [] => True
  | .line text :: r =>
    (a.inProgress = false → (Input.ofText text).isCommand = false) ∧
      ReadsNoCommand (a.takeLine text).2 r
  | .interrupt :: r => ReadsNoCommand .empty r
  | .crash _ :: r => ReadsNoCommand a r

instance decidableReadsNoCommand :
    (a : StatementBuffer) → (input : List InputLine) → Decidable (ReadsNoCommand a input)
  | _, [] => isTrue trivial
  | a, .line text :: r =>
    have := decidableReadsNoCommand (a.takeLine text).2 r
    inferInstanceAs (Decidable ((a.inProgress = false → (Input.ofText text).isCommand = false) ∧
      ReadsNoCommand (a.takeLine text).2 r))
  | _, .interrupt :: r => decidableReadsNoCommand .empty r
  | a, .crash _ :: r => decidableReadsNoCommand a r

/-- **A statement is taken for itself**, or for a command: it does not begin with
    a blank or with the end of a statement. -/
theorem ofText_of_isStable {s : Text} {ps : List Piece} (h : IsStable s ps) :
    Input.ofText s = .statement s ∨ (Input.ofText s).isCommand = true := by
  obtain ⟨c, t, rfl⟩ := List.exists_cons_of_ne_nil h.ne_nil
  have hblank : Text.isBlank c = false := h.trimmed.head c rfl
  have hsemicolon : c ≠ ';' := by
    rintro rfl
    have hread := h.read
    rw [reading_cons (p := ⟨[';'], .normal, .cut⟩) (s := t) (r := t) rfl rfl] at hread
    have hcut := h.uncut _ (hread ▸ List.mem_cons_self)
    cases hcut
  have hword : ∃ word rest, Text.splitWord (undecorated (c :: t)) = some (word, rest) := by
    rw [undecorated, h.trimmed.trim_eq h.ne_nil,
      Text.dropEndWhile_cons (by simp [hblank, hsemicolon]), Text.splitWord, Text.trimStart,
      List.dropWhile_cons_of_neg (by simp [hblank])]
    exact ⟨_, _, rfl⟩
  obtain ⟨word, rest, hword⟩ := hword
  simp only [Input.ofText, hword]
  split
  · exact .inr rfl
  · rw [h.trimmed.trim_eq h.ne_nil]
    exact .inl rfl

/-- **The statements of an input are stable**, when a run of lines has been read
    before. -/
theorem exists_isStable_of_assembled {lines : List Text} {input : List InputLine} {s : Text}
    (hlines : ∀ line ∈ lines, IsLine line) (hinput : ∀ item ∈ input, item.IsPlain)
    (hs : s ∈ (assembled (StatementBuffer.empty.takeLines lines).2 input).1
      ++ tailOf (assembled (StatementBuffer.empty.takeLines lines).2 input).2) :
    ∃ ps, IsStable s ps := by
  induction input generalizing lines with
  | nil =>
    apply StatementBuffer.exists_isStable hlines
    right
    cases hfinish : (StatementBuffer.empty.takeLines lines).2.finish with
    | ok tail => simpa [assembled, hfinish, tailOf] using hs
    | error e => simp [assembled, hfinish, tailOf] at hs
  | cons item r ih =>
    obtain ⟨hitem, hr⟩ := List.forall_mem_cons.1 hinput
    cases item with
    | line text =>
      have htext : ∀ line ∈ lines ++ [text], IsLine line := by
        intro line hline
        rcases List.mem_append.1 hline with hline | hline
        · exact hlines line hline
        · exact List.mem_singleton.1 hline ▸ hitem
      have hconcat := StatementBuffer.takeLines_concat .empty lines text
      rw [assembled, List.append_assoc] at hs
      rcases List.mem_append.1 hs with hs | hs
      · apply StatementBuffer.exists_isStable htext
        rw [hconcat]
        exact .inl (List.mem_append_right _ hs)
      · apply ih htext hr
        rw [hconcat]
        exact hs
    | interrupt =>
      have hnone : ∀ line ∈ ([] : List Text), IsLine line := nofun
      exact ih hnone hr hs
    | crash c => exact ih hlines hr hs

end SqlShell
