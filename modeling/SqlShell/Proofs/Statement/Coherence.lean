import SqlShell.Proofs.Statement.IdleText
import SqlShell.Session.Run

/-! # What the Buffer Remembers

    The buffer remembers how the scanner stands at its position, and not how it got
    there.  Lines may come while complete statements are still waiting in it, the text
    in front of a semicolon is cut off, idle text is forgotten: whatever is done, what
    is remembered is what scanning the text again would tell.

    * **`Coherent`** is this invariant, `coherent_use` its step, and `coherent_uses`
      what it says of any number of steps.  A coherent buffer does the same as one in
      which all of its text is still waiting (`Coherent.next_eq`).
    * **`Settled`** is a buffer that has no statement to give: all of its text has been
      scanned, and there is text exactly if a statement has been begun.
    * **`remembers_scan`** puts the two together. -/

namespace SqlShell

/-- **What is asked of the buffer** while lines come in. -/
inductive Call where
  /-- A line is added. -/
  | addLine (line : Text)
  /-- The next statement is wanted. -/
  | next
deriving DecidableEq, Repr

/-- **What is done with the buffer** altogether. -/
inductive Use where
  | call (c : Call)
  /-- The input has ended. -/
  | close
  /-- All that has been entered is thrown away. -/
  | reset
deriving DecidableEq, Repr

namespace StatementBuffer

/-- **A call** brings a statement, if one is complete. -/
def answer (a : StatementBuffer) : Call → Option Text × StatementBuffer
  | .addLine line => a.addLine line
  | .next => a.next

/-- The buffer behind one use of it. -/
def use (a : StatementBuffer) : Use → StatementBuffer
  | .call c => (a.answer c).2
  | .close => a.close.2
  | .reset => empty

/-- The buffer behind any number of uses. -/
def uses (a : StatementBuffer) (us : List Use) : StatementBuffer := us.foldl use a

/-- How far the text has been scanned. -/
def position (a : StatementBuffer) : Nat := a.before.length

theorem take_text (a : StatementBuffer) : a.text.take a.position = a.before.reverse := by
  rw [text, position, ← List.length_reverse]
  exact List.take_left

/-! ## The invariant -/

/-- **What is remembered is what scanning again would tell.** -/
structure Coherent (a : StatementBuffer) : Prop where
  endsLine : EndsLine a.text
  position_le : a.position ≤ a.text.length
  /-- Up to the position there is no cut, and there the scanner stands as remembered. -/
  scanned : ScannedTo (a.text.take a.position) a.mode a.content
  /-- The position is at the start of a line. -/
  atLineStart : EndsLine (a.text.take a.position)

theorem coherent_of_before {a : StatementBuffer} (hend : EndsLine a.text)
    (hscanned : ScannedTo a.before.reverse a.mode a.content) (hstart : EndsLine a.before.reverse) :
    a.Coherent where
  endsLine := hend
  position_le := by
    rw [text, position, List.length_append, List.length_reverse]
    omega
  scanned := by rwa [take_text]
  atLineStart := by rwa [take_text]

/-- Text that nobody has looked at yet. -/
theorem coherent_waiting {s : Text} (hs : EndsLine s) : Coherent { empty with waiting := s } :=
  coherent_of_before hs .nil endsLine_nil

theorem coherent_empty : Coherent empty := coherent_waiting endsLine_nil

namespace Coherent

variable {a : StatementBuffer}

theorem scannedTo_before (h : a.Coherent) : ScannedTo a.before.reverse a.mode a.content :=
  take_text a ▸ h.scanned

theorem endsLine_before (h : a.Coherent) : EndsLine a.before.reverse :=
  take_text a ▸ h.atLineStart

/-- Scanning on comes to what scanning all of the text again would come to. -/
theorem scan_eq (h : a.Coherent) :
    scan a.before a.mode a.content a.waiting = scan [] .normal false a.text := by
  rw [text, h.scannedTo_before.scan_append h.endsLine_before, List.reverse_reverse]

/-- **The buffer goes by its text alone.** -/
theorem next_eq (h : a.Coherent) : a.next = next { empty with waiting := a.text } := by
  unfold next
  rw [h.scan_eq]
  rfl

theorem drain_eq (h : a.Coherent) : a.drain = drain { empty with waiting := a.text } :=
  drain_congr h.scan_eq

/-- A line more does no harm. -/
theorem addText (h : a.Coherent) (line : Text) :
    Coherent { a with waiting := a.waiting ++ line ++ ['\n'] } := by
  refine coherent_of_before ?_ h.scannedTo_before h.endsLine_before
  rw [text, ← List.append_assoc]
  exact endsLine_concat _

end Coherent

/-! ## The next statement of a text -/

/-- What is held of a text that has been scanned to its end: nothing, if it is idle. -/
def held (s : Text) (mode : ScanMode) (content : Bool) : StatementBuffer :=
  if content || mode ≠ .normal then { before := s.reverse, mode, content } else empty

section Pieces

variable {s : Text} {mode : ScanMode} {content : Bool}

theorem next_of_scannedTo (h : ScannedTo s mode content) :
    next { empty with waiting := s } = (none, held s mode content) := by
  have hscan : scan empty.before empty.mode empty.content s = .pending s.reverse mode content :=
    h.scan_eq
  unfold next
  rw [hscan]
  rfl

theorem next_of_semicolon (h : ScannedTo s .normal content) (r : Text) :
    next { empty with waiting := s ++ ';' :: r }
      = if content then (some (Text.trim s), { empty with waiting := r })
        else next { empty with waiting := r } := by
  have hscan : scan empty.before empty.mode empty.content (s ++ ';' :: r)
      = if content then .statement (Text.trim s) r else scan [] .normal false r :=
    h.scan_semicolon r
  unfold next
  rw [hscan]
  cases content <;> rfl

/-- Text is held exactly if a statement has been begun. -/
theorem held_cases (h : ScannedTo s mode content) :
    (held s mode content).inProgress = true ∧ (held s mode content).text = s ∧ s ≠ [] ∧
        held s mode content = { before := s.reverse, mode, content } ∨
      held s mode content = empty ∧ mode = .normal ∧ content = false := by
  by_cases hbegun : (content || decide (mode ≠ .normal)) = true
  · have hheld : held s mode content = { before := s.reverse, mode, content } := if_pos hbegun
    refine .inl ⟨?_, ?_, ?_, hheld⟩
    · rw [hheld]
      exact hbegun
    · rw [hheld, text, List.reverse_reverse, List.append_nil]
    · rintro rfl
      obtain ⟨rfl, rfl⟩ := h.of_allBlank rfl
      cases hbegun
  · have hidle : content = false ∧ mode = .normal := by simpa using hbegun
    exact .inr ⟨if_neg hbegun, hidle.2, hidle.1⟩

end Pieces

/-! ## A buffer with no statement to give -/

/-- **The buffer has no statement to give.** -/
structure Settled (a : StatementBuffer) : Prop where
  position_eq : a.position = a.text.length
  mode_ne : a.mode ≠ .lineComment
  inProgress_iff : a.inProgress = true ↔ a.text ≠ []
  /-- Blanks and comments alone are not kept. -/
  idle : IsIdle a.text → a.text = []
  /-- A person is prompted to go on exactly if there is text. -/
  prompt_iff : ∀ shell : Shell,
    Shell.currentPrompt { shell with interactive := true, buffer := a } = continuationPrompt ↔
      a.text ≠ []

/-- A person is prompted to go on while a statement is in progress. -/
theorem currentPrompt_eq_iff (a : StatementBuffer) (shell : Shell) :
    Shell.currentPrompt { shell with interactive := true, buffer := a } = continuationPrompt ↔
      a.inProgress = true := by
  have hprompts : prompt ≠ continuationPrompt := by decide
  rw [Shell.currentPrompt]
  cases hprogress : a.inProgress with
  | true => simp
  | false => simpa using hprompts

theorem settled_empty : Settled empty where
  position_eq := rfl
  mode_ne := nofun
  inProgress_iff := by decide
  idle _ := rfl
  prompt_iff shell := by
    rw [currentPrompt_eq_iff]
    decide

theorem held_spec {s : Text} {mode : ScanMode} {content : Bool} (h : ScannedTo s mode content)
    (hs : EndsLine s) : (held s mode content).Coherent ∧ (held s mode content).Settled := by
  rcases held_cases h with ⟨hbegun, htext, hne, hheld⟩ | ⟨hheld, -⟩
  · have hprogress : (held s mode content).inProgress = true ↔ (held s mode content).text ≠ [] := by
      rw [htext]
      exact ⟨fun _ => hne, fun _ => hbegun⟩
    refine ⟨?_, ?_, ?_, hprogress, ?_, fun shell => (currentPrompt_eq_iff _ shell).trans hprogress⟩
    · apply coherent_of_before
      · rwa [htext]
      · rw [hheld, List.reverse_reverse]
        exact h
      · rwa [hheld, List.reverse_reverse]
    · rw [htext, hheld, position, List.length_reverse]
    · rw [hheld]
      exact h.mode_ne_lineComment hs
    · intro hidle
      rw [htext, isIdle_iff] at hidle
      -- Behind idle text nothing has been begun.
      rw [hheld, inProgress, ← h.mode, ← h.content, hidle.mode, hidle.content] at hbegun
      cases hbegun
  · rw [hheld]
    exact ⟨coherent_empty, settled_empty⟩

/-- **The next statement** of a text leaves a coherent buffer, and if there is none, a
    settled one. -/
theorem next_spec (s : Text) (hs : EndsLine s) :
    (next { empty with waiting := s }).2.Coherent ∧
      ((next { empty with waiting := s }).1 = none →
        (next { empty with waiting := s }).2.Settled) := by
  induction s using cuts_induction with
  | uncut s mode content h =>
    rw [next_of_scannedTo h]
    obtain ⟨hcoherent, hsettled⟩ := held_spec h hs
    exact ⟨hcoherent, fun _ => hsettled⟩
  | cut s content r h ih =>
    have hr : EndsLine r := hs.of_semicolon
    rw [next_of_semicolon h]
    cases content with
    | true => exact ⟨coherent_waiting hr, nofun⟩
    | false => exact ih hr

namespace Coherent

variable {a b : StatementBuffer}

theorem next (h : a.Coherent) : a.next.2.Coherent := by
  rw [h.next_eq]
  exact (next_spec a.text h.endsLine).1

theorem settled_of_next (h : a.Coherent) (hb : a.next = (none, b)) : b.Settled := by
  have hsettled := (next_spec a.text h.endsLine).2
  rw [← h.next_eq, hb] at hsettled
  exact hsettled rfl

end Coherent

/-! ## Any number of uses -/

/-- **One use on**, the buffer is as coherent as it was. -/
theorem coherent_use {a : StatementBuffer} (h : a.Coherent) (u : Use) : (a.use u).Coherent := by
  cases u with
  | call c =>
    cases c with
    | addLine line =>
      rw [use, answer, addLine]
      split
      · exact h
      · exact (h.addText _).next
    | next => exact h.next
  | close => exact coherent_empty
  | reset => exact coherent_empty

/-- **The invariant** holds behind any number of uses. -/
theorem coherent_uses (us : List Use) : (empty.uses us).Coherent := by
  induction us using List.reverseRecOn with
  | nil => exact coherent_empty
  | append_singleton us u ih =>
    rw [uses, List.foldl_concat]
    exact coherent_use ih u

/-- Whether a line is blank does not depend on its end. -/
theorem allBlank_dropLineEnd (line : Text) :
    Text.allBlank (Text.dropLineEnd line) = Text.allBlank line := by
  obtain ⟨ending, hending, hline⟩ := Text.exists_lineEnd line
  conv_rhs => rw [hline]
  unfold Text.allBlank at hending ⊢
  rw [List.all_append, hending, Bool.and_true]

/-- A line that is not passed over is added to the text, and the text is scanned. -/
theorem addLine_eq_next {a : StatementBuffer} {line : Text}
    (h : a.inProgress = true ∨ Text.allBlank line = false) :
    a.addLine line
      = next { a with waiting := a.waiting ++ Text.dropLineEnd line ++ ['\n'] } := by
  rw [addLine, if_neg]
  rw [allBlank_dropLineEnd]
  rcases h with h | h <;> simp [h]

/-- **The buffer remembers what scanning its text would tell**, whatever is done with it.
    When there is no statement to give, all of its text has been scanned, no comment that
    ends with the line is open, and there is text exactly if a statement has been begun:
    blanks and comments do not pile up, and a person is prompted to go on exactly while
    something has been entered. -/
theorem remembers_scan (us : List Use) :
    (empty.uses us).Coherent ∧
      (∀ b, (empty.uses us).next = (none, b) → b.Settled) ∧
      ∀ line b, (empty.uses us).inProgress = true ∨ Text.allBlank line = false →
        (empty.uses us).addLine line = (none, b) → b.Settled := by
  have h := coherent_uses us
  refine ⟨h, fun b hb => h.settled_of_next hb, ?_⟩
  intro line b hline hb
  rw [addLine_eq_next hline] at hb
  exact (h.addText _).settled_of_next hb

/-- Behind a statement that has been given out, a comment is left that goes on with the
    next line. -/
theorem remembers_scan_open_comment :
    let left : StatementBuffer := { empty with waiting := " /* one\n".toList }
    let scanned : StatementBuffer :=
      { before := " /* one\n".toList.reverse, mode := .blockComment }
    empty.uses [.call (.addLine "select 1; /* one".toList)] = left ∧ left.Coherent ∧
      left.next = (none, scanned) ∧ scanned.Settled ∧
      Text.allBlank "two */".toList = false ∧ left.addLine "two */".toList = (none, empty) ∧
      empty.Settled := by
  have hleft : empty.uses [.call (.addLine "select 1; /* one".toList)]
      = { empty with waiting := " /* one\n".toList } := by
    decide +kernel
  obtain ⟨hcoherent, hnext, hline⟩ :=
    remembers_scan [.call (.addLine "select 1; /* one".toList)]
  rw [hleft] at hcoherent hnext hline
  have hscanned : next { empty with waiting := " /* one\n".toList }
      = (none, { before := " /* one\n".toList.reverse, mode := .blockComment }) := by
    decide +kernel
  have hadded : addLine { empty with waiting := " /* one\n".toList } "two */".toList
      = (none, empty) := by
    decide +kernel
  have hblank : Text.allBlank "two */".toList = false := by decide +kernel
  exact ⟨hleft, hcoherent, hscanned, hnext _ hscanned, hblank, hadded,
    hline _ _ (.inr hblank) hadded⟩

end StatementBuffer

end SqlShell
