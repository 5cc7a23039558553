import SqlShell.Launch.Script
import SqlShell.Proofs.Session.Input
import SqlShell.Proofs.Text.LineBreaks

/-! # How the Lines of a Text Are Framed

    The buffer takes a line with its end or without one, and a script comes to
    it with a line more, which holds a semicolon.  Neither makes a difference to
    the statements.

    * **`takeLines_streamLines`**: the lines of a text and the lines of a stream
      of that text, its breaks written as line feeds, are the same to the buffer.
    * **`takeLine_scriptEnd`**: the semicolon completes what is left of a script
      that leaves nothing open, and then the buffer is as good as new.  A quote
      or a block comment that is open takes the semicolon in.
    * **`takeLines_scripts`** follows from it, script by script. -/

namespace SqlShell

/-! ## Line ends -/

theorem dropLineEnd_concat {body : Text} (h : '\r' ∉ body) :
    Text.dropLineEnd (body ++ ['\n']) = body := by
  unfold Text.dropLineEnd
  rw [List.reverse_append]
  split
  case h_1 r hr =>
    have hmem : '\r' ∈ body.reverse := by
      have hbody : body.reverse = '\r' :: r := (List.cons.inj hr).2
      rw [hbody]
      exact List.mem_cons_self
    exact absurd (List.mem_reverse.1 hmem) h
  case h_2 r _ hr =>
    have hbody : body.reverse = r := (List.cons.inj hr).2
    rw [← hbody, List.reverse_reverse]
  case h_3 _ hr => exact absurd rfl (hr body.reverse)

/-- **The lines of a text** are those of a stream, when the breaks of the stream
    are line feeds. -/
theorem lines_eq_map_streamLines {s : Text} (h : '\r' ∉ s) :
    Text.lines s = (Text.streamLines (Text.withLineFeeds s)).map Text.dropLineEnd := by
  suffices hafter : ∀ line : Text, (∀ c ∈ line, Text.isLineBreak c = false) →
      Text.linesAfter line s
        = (Text.streamLinesAfter line (Text.withLineFeeds s)).map Text.dropLineEnd from
    hafter [] (by simp)
  induction s with
  | nil =>
    intro line hline
    have hfeed : '\n' ∉ line.reverse := by
      intro hmem
      have hbreak := hline '\n' (List.mem_reverse.1 hmem)
      cases hbreak
    cases line with
    | nil => rfl
    | cons c line =>
      show [(c :: line).reverse] = [Text.dropLineEnd (c :: line).reverse]
      rw [dropLineEnd_of_not_mem hfeed]
  | cons c s ih =>
    intro line hline
    have hc : c ≠ '\r' := by
      intro hc
      exact h (hc ▸ List.mem_cons_self)
    have hs := ih fun hmem => h (List.mem_cons_of_mem c hmem)
    rw [Text.linesAfter_cons line hc]
    show _ = (Text.streamLinesAfter line
      ((if Text.isLineBreak c then '\n' else c) :: Text.withLineFeeds s)).map Text.dropLineEnd
    by_cases hbreak : Text.isLineBreak c = true
    · have hreturn : '\r' ∉ line.reverse := by
        intro hmem
        have hbreak := hline '\r' (List.mem_reverse.1 hmem)
        cases hbreak
      rw [if_pos hbreak, if_pos hbreak, Text.streamLinesAfter, if_pos rfl, List.map_cons,
        List.reverse_cons, dropLineEnd_concat hreturn, hs [] (by simp)]
    · have hfeed : c ≠ '\n' := by
        intro hc
        rw [hc] at hbreak
        exact hbreak (by decide)
      rw [if_neg hbreak, if_neg hbreak, Text.streamLinesAfter, if_neg hfeed]
      apply hs
      intro d hd
      rcases List.mem_cons.1 hd with hd | hd
      · rw [hd]
        simpa using hbreak
      · exact hline d hd

theorem isLine_of_mem_lines {s line : Text} (h : line ∈ Text.lines s) : IsLine line := by
  intro hmem
  exact Text.not_mem_of_mem_lines h ((List.dropLast_sublist line).subset hmem)

theorem isLine_of_mem_streamLines {s line : Text} (h : line ∈ Text.streamLines s) :
    IsLine line := by
  obtain ⟨body, hbody, hline⟩ := Text.exists_of_mem_streamLinesAfter (by simp) h
  unfold IsLine
  rcases hline with hline | hline
  · rw [hline]
    intro hmem
    exact hbody ((List.dropLast_sublist body).subset hmem)
  · rw [hline, List.dropLast_concat]
    exact hbody

namespace StatementBuffer

/-- The buffer does not see how a line ends. -/
theorem takeLine_dropLineEnd (a : StatementBuffer) {line : Text} (h : IsLine line) :
    a.takeLine (Text.dropLineEnd line) = a.takeLine line := by
  have hdrop : Text.dropLineEnd (Text.dropLineEnd line) = Text.dropLineEnd line :=
    dropLineEnd_of_not_mem h.not_mem_dropLineEnd
  unfold takeLine addLine
  rw [hdrop]

theorem takeLines_dropLineEnd (a : StatementBuffer) {lines : List Text}
    (h : ∀ line ∈ lines, IsLine line) :
    a.takeLines (lines.map Text.dropLineEnd) = a.takeLines lines := by
  induction lines generalizing a with
  | nil => rfl
  | cons line lines ih =>
    obtain ⟨hline, hlines⟩ := List.forall_mem_cons.1 h
    rw [List.map_cons, takeLines_cons, takeLines_cons, takeLine_dropLineEnd a hline, ih _ hlines]

/-- **A text and a stream of it** are the same to the buffer. -/
theorem takeLines_streamLines (a : StatementBuffer) {s : Text} (h : '\r' ∉ s) :
    a.takeLines (Text.streamLines (Text.withLineFeeds s)) = a.takeLines (Text.lines s) := by
  rw [lines_eq_map_streamLines h]
  exact (takeLines_dropLineEnd a fun _ => isLine_of_mem_streamLines).symm

end StatementBuffer

/-! ## Behind the last line -/

namespace StatementBuffer

/-- **Behind its last line** a text has left something open, or the scanner
    stands outside every quote and comment. -/
theorem mode_takeLines {lines : List Text} (hlines : ∀ line ∈ lines, IsLine line)
    (hopen : (empty.takeLines lines).2.mode.isOpen = false) :
    (empty.takeLines lines).2.mode = .normal := by
  obtain ⟨hholds, -, -⟩ := takeLines_empty hlines
  rw [hholds.mode] at hopen ⊢
  have hline : modeAfter .normal (reading [] .normal (textOfLines lines)) ≠ .lineComment := by
    cases hlast : (textOfLines lines).getLast? with
    | none =>
      rw [List.getLast?_eq_none_iff.1 hlast]
      decide
    | some c =>
      rw [getLast?_textOfLines lines c hlast] at hlast
      exact modeAfter_ne_lineComment [] .normal _ hlast
  generalize modeAfter .normal (reading [] .normal (textOfLines lines)) = mode at hopen hline ⊢
  cases mode with
  | normal => rfl
  | lineComment => exact absurd rfl hline
  | singleQuoted _ | doubleQuoted | blockComment => cases hopen

/-! ## The end of a script -/

/-- **The semicolon behind a script** completes the statement that is left, and
    leaves nothing behind. -/
theorem AtRest.takeLine_scriptEnd {a : StatementBuffer} (h : a.AtRest) (hmode : a.mode = .normal) :
    a.takeLine scriptEnd = (tailOf a.finish, empty) := by
  have hwaiting : a.takeLine scriptEnd = drain { a with waiting := [';', '\n'] } :=
    h.takeLine_eq scriptEnd
  have hfinish : a.finish
      = .ok (if a.content then some (Text.trim a.before.reverse) else none) := by
    rw [finish, hmode, text, h.scanned, List.append_nil]
    rfl
  have hblank : drain { empty with waiting := ['\n'] } = ([], empty) := by
    rw [drain_next]
    rfl
  rw [hwaiting, hfinish, drain_next]
  unfold next
  by_cases hcontent : a.content = true
  · have hscan : scan a.before a.mode a.content [';', '\n']
        = .statement (Text.trim a.before.reverse) ['\n'] := by
      rw [hmode, hcontent]
      rfl
    rw [hscan, if_pos hcontent]
    show (_ :: (drain { empty with waiting := ['\n'] }).1,
      (drain { empty with waiting := ['\n'] }).2) = _
    rw [hblank]
    rfl
  · have hscan : scan a.before a.mode a.content [';', '\n'] = .pending ['\n'] .normal false := by
      rw [hmode, Bool.eq_false_iff.2 hcontent]
      rfl
    rw [hscan, if_neg hcontent]
    rfl

/-- **What is left open takes the semicolon in**, and stays open. -/
theorem AtRest.takeLine_scriptEnd_open {a : StatementBuffer} (h : a.AtRest)
    (hmode : a.mode.isOpen = true) :
    (a.takeLine scriptEnd).1 = [] ∧ (a.takeLine scriptEnd).2.mode = a.mode := by
  have hwaiting : a.takeLine scriptEnd = drain { a with waiting := [';', '\n'] } :=
    h.takeLine_eq scriptEnd
  have hscan : scan a.before a.mode a.content [';', '\n']
      = .pending ('\n' :: ';' :: a.before) a.mode a.content := by
    cases hm : a.mode with
    | normal | lineComment =>
      rw [hm] at hmode
      cases hmode
    | singleQuoted escapes | doubleQuoted | blockComment => rfl
  have hne : (a.content || decide (a.mode ≠ .normal)) = true := by
    cases hm : a.mode with
    | normal =>
      rw [hm] at hmode
      cases hmode
    | _ => simp
  rw [hwaiting, drain_next]
  unfold next
  rw [hscan]
  dsimp only
  rw [if_pos hne]
  exact ⟨rfl, rfl⟩

end StatementBuffer

/-! ## One script -/

/-- **A script leaves something open**: it ends inside a quote or a block comment. -/
def leavesOpen (script : Text) : Bool :=
  (StatementBuffer.empty.takeLines (Text.lines script)).2.mode.isOpen

/-- The items of input that a script comes as. -/
def itemsOfScript (script : Text) : List InputLine := (scriptLines script).map .line

theorem isPlain_of_mem_itemsOfScript {script : Text} {item : InputLine}
    (h : item ∈ itemsOfScript script) : item.IsPlain := by
  obtain ⟨line, hline, rfl⟩ := List.mem_map.1 h
  rcases List.mem_append.1 hline with hline | hline
  · exact isLine_of_mem_lines hline
  · rw [List.mem_singleton.1 hline]
    show IsLine scriptEnd
    decide

/-- **The statements of a script** that is run alone. -/
def statementsOfScript (script : Text) : List Text := statementsOfInput (itemsOfScript script)

theorem takeLines_scriptLines (a : StatementBuffer) (script : Text) :
    a.takeLines (scriptLines script)
      = ((a.takeLines (Text.lines script)).1
          ++ ((a.takeLines (Text.lines script)).2.takeLine scriptEnd).1,
        ((a.takeLines (Text.lines script)).2.takeLine scriptEnd).2) :=
  StatementBuffer.takeLines_concat a (Text.lines script) scriptEnd

/-- **A script that leaves nothing open** gives its statements, and a buffer that
    is as good as new. -/
theorem takeLines_of_closed {script : Text} (h : leavesOpen script = false) :
    StatementBuffer.empty.takeLines (scriptLines script) = (statementsOfScript script, .empty) := by
  have hlines : ∀ line ∈ Text.lines script, IsLine line := fun _ => isLine_of_mem_lines
  obtain ⟨-, -, hrest⟩ := StatementBuffer.takeLines_empty hlines
  have hend := hrest.takeLine_scriptEnd (StatementBuffer.mode_takeLines hlines h)
  have htake := takeLines_scriptLines .empty script
  rw [hend] at htake
  rw [htake, statementsOfScript, itemsOfScript, statementsOfInput_eq_takeLines, htake]
  simp [StatementBuffer.finish, StatementBuffer.empty, ScanMode.isOpen, tailOf]

/-! ## Scripts one after the other -/

/-- **Scripts that leave nothing open** do not run together. -/
theorem takeLines_scripts {scripts : List Text}
    (h : ∀ script ∈ scripts, leavesOpen script = false) :
    StatementBuffer.empty.takeLines (scripts.flatMap scriptLines)
      = (scripts.flatMap statementsOfScript, .empty) := by
  induction scripts with
  | nil => rfl
  | cons script scripts ih =>
    obtain ⟨hscript, hscripts⟩ := List.forall_mem_cons.1 h
    rw [List.flatMap_cons, List.flatMap_cons, StatementBuffer.takeLines_append,
      takeLines_of_closed hscript, ih hscripts]

theorem itemsOfScripts (scripts : List Text) :
    scripts.flatMap itemsOfScript = (scripts.flatMap scriptLines).map .line := by
  rw [List.map_flatMap]
  rfl

/-- **The last script may be left open**: it gives the statements, and leaves
    what it would if it was run alone. -/
theorem statementsOfInput_scripts {scripts : List Text} (last : Text)
    (h : ∀ script ∈ scripts, leavesOpen script = false) :
    statementsOfInput ((scripts ++ [last]).flatMap itemsOfScript)
        = (scripts ++ [last]).flatMap statementsOfScript ∧
      leftOver ((scripts ++ [last]).flatMap itemsOfScript) = leftOver (itemsOfScript last) := by
  have htake : StatementBuffer.empty.takeLines ((scripts ++ [last]).flatMap scriptLines)
      = (scripts.flatMap statementsOfScript
          ++ (StatementBuffer.empty.takeLines (scriptLines last)).1,
        (StatementBuffer.empty.takeLines (scriptLines last)).2) := by
    rw [List.flatMap_append, List.flatMap_singleton, StatementBuffer.takeLines_append,
      takeLines_scripts h]
  have hleft : leftOver ((scripts ++ [last]).flatMap itemsOfScript)
      = leftOver (itemsOfScript last) := by
    rw [itemsOfScripts, itemsOfScript, leftOver_lines, leftOver_lines, htake]
  refine ⟨?_, hleft⟩
  have hlast : statementsOfScript last = _ := statementsOfInput_eq_takeLines (scriptLines last)
  rw [itemsOfScripts, statementsOfInput_eq_takeLines, htake, List.flatMap_append,
    List.flatMap_singleton, hlast, List.append_assoc]

/-! ## Commands in scripts -/

/-- **Nothing in some input is a command**: no line, and no statement. -/
structure HoldsNoCommand (input : List InputLine) : Prop where
  lines : ReadsNoCommand .empty input
  statements : ∀ text ∈ statementsOfInput input, (Input.ofText text).isCommand = false

instance (input : List InputLine) : Decidable (HoldsNoCommand input) :=
  decidable_of_iff (ReadsNoCommand .empty input ∧
      ∀ text ∈ statementsOfInput input, (Input.ofText text).isCommand = false)
    ⟨fun h => ⟨h.1, h.2⟩, fun h => ⟨h.lines, h.statements⟩⟩

theorem readsNoCommand_append {a : StatementBuffer} {lines : List Text} {input : List InputLine} :
    ReadsNoCommand a (lines.map .line ++ input)
      ↔ ReadsNoCommand a (lines.map .line) ∧ ReadsNoCommand (a.takeLines lines).2 input := by
  induction lines generalizing a with
  | nil => exact ⟨fun h => ⟨trivial, h⟩, fun h => h.2⟩
  | cons line lines ih =>
    show (_ ∧ ReadsNoCommand _ (lines.map .line ++ input)) ↔ (_ ∧ ReadsNoCommand _ _) ∧ _
    rw [ih, and_assoc]
    rfl

/-- **Scripts without commands** make up an input without any. -/
theorem holdsNoCommand_scripts {scripts : List Text} {last : Text}
    (hfree : ∀ script ∈ scripts ++ [last], HoldsNoCommand (itemsOfScript script))
    (h : ∀ script ∈ scripts, leavesOpen script = false) :
    HoldsNoCommand ((scripts ++ [last]).flatMap itemsOfScript) := by
  constructor
  · induction scripts with
    | nil =>
      rw [List.nil_append, List.flatMap_singleton]
      exact (hfree last (by simp)).lines
    | cons script scripts ih =>
      obtain ⟨hscript, hscripts⟩ := List.forall_mem_cons.1 h
      rw [List.cons_append, List.flatMap_cons]
      refine readsNoCommand_append.2 ⟨(hfree script (by simp)).lines, ?_⟩
      rw [takeLines_of_closed hscript]
      apply ih _ hscripts
      intro other hother
      exact hfree other (List.mem_cons_of_mem _ hother)
  · obtain ⟨hstatements, -⟩ := statementsOfInput_scripts last h
    rw [hstatements]
    intro text htext
    obtain ⟨script, hscript, htext⟩ := List.mem_flatMap.1 htext
    exact (hfree script hscript).statements text htext

/-! ## Line ends and commands -/

/-- **What a line asks for** does not depend on its end. -/
theorem ofText_dropLineEnd (line : Text) :
    Input.ofText (Text.dropLineEnd line) = Input.ofText line := by
  obtain ⟨ending, hblank, hline⟩ := Text.exists_lineEnd line
  have htrim : Text.trim line = Text.trim (Text.dropLineEnd line) := by
    conv_lhs => rw [hline]
    exact Text.trim_append_blank _ hblank
  unfold Input.ofText undecorated
  rw [htrim]

theorem readsNoCommand_dropLineEnd {a : StatementBuffer} {lines : List Text}
    (hlines : ∀ line ∈ lines, IsLine line) :
    ReadsNoCommand a ((lines.map Text.dropLineEnd).map .line)
      ↔ ReadsNoCommand a (lines.map .line) := by
  induction lines generalizing a with
  | nil => exact Iff.rfl
  | cons line lines ih =>
    obtain ⟨hline, hlines⟩ := List.forall_mem_cons.1 hlines
    show ((_ → _) ∧ ReadsNoCommand _ _) ↔ ((_ → _) ∧ ReadsNoCommand _ _)
    rw [ofText_dropLineEnd, StatementBuffer.takeLine_dropLineEnd a hline, ih hlines]

/-! ## A script and a stream -/

/-- The items of input that a stream comes as. -/
def itemsOfStream (s : Text) : List InputLine := (Text.streamLines s).map .line

/-- **What is left behind the last line** is the same whether a semicolon
    follows or not, and an open quote or comment is the same one. -/
theorem takeLines_scriptLines_tail (script : Text) :
    ((StatementBuffer.empty.takeLines (Text.lines script)).2.takeLine scriptEnd).1
          ++ tailOf
            ((StatementBuffer.empty.takeLines (Text.lines script)).2.takeLine scriptEnd).2.finish
        = tailOf (StatementBuffer.empty.takeLines (Text.lines script)).2.finish := by
  have hlines : ∀ line ∈ Text.lines script, IsLine line := fun _ => isLine_of_mem_lines
  obtain ⟨-, -, hrest⟩ := StatementBuffer.takeLines_empty hlines
  by_cases hopen : (StatementBuffer.empty.takeLines (Text.lines script)).2.mode.isOpen = true
  · obtain ⟨hnone, hmode⟩ := hrest.takeLine_scriptEnd_open hopen
    have herror : ∀ a : StatementBuffer, a.mode.isOpen = true → tailOf a.finish = [] := by
      intro a ha
      rw [StatementBuffer.finish, if_pos ha]
      rfl
    rw [hnone, herror _ (hmode ▸ hopen), herror _ hopen]
    rfl
  · rw [Bool.not_eq_true] at hopen
    rw [hrest.takeLine_scriptEnd (StatementBuffer.mode_takeLines hlines hopen)]
    simp [StatementBuffer.finish, StatementBuffer.empty, ScanMode.isOpen, tailOf]

/-- **The statements of a script** are those of its lines. -/
theorem statementsOfScript_eq_lines (script : Text) :
    statementsOfScript script = statementsOfInput ((Text.lines script).map .line) := by
  rw [statementsOfScript, itemsOfScript, statementsOfInput_eq_takeLines,
    statementsOfInput_eq_takeLines, takeLines_scriptLines, List.append_assoc,
    takeLines_scriptLines_tail]

/-- **A script and a stream of its text** have the same statements, when the
    breaks of the stream are line feeds. -/
theorem statementsOfInput_stream {script : Text} (h : '\r' ∉ script) :
    statementsOfInput (itemsOfStream (Text.withLineFeeds script)) = statementsOfScript script := by
  rw [itemsOfStream, statementsOfInput_eq_takeLines, StatementBuffer.takeLines_streamLines .empty h,
    statementsOfScript_eq_lines, statementsOfInput_eq_takeLines]

theorem holdsNoCommand_stream {script : Text} (h : '\r' ∉ script)
    (hfree : HoldsNoCommand (itemsOfScript script)) :
    HoldsNoCommand (itemsOfStream (Text.withLineFeeds script)) := by
  constructor
  · have hlines : ReadsNoCommand .empty ((Text.lines script).map .line) := by
      have hscript := hfree.lines
      rw [itemsOfScript, scriptLines, List.map_append] at hscript
      exact (readsNoCommand_append.1 hscript).1
    rw [lines_eq_map_streamLines h,
      readsNoCommand_dropLineEnd fun _ => isLine_of_mem_streamLines] at hlines
    exact hlines
  · rw [statementsOfInput_stream h]
    exact hfree.statements

/-! ## Nothing is changed -/

/-- The text with a line feed at its end, if it has none there and is not empty. -/
def withLastEnd (s : Text) : Text := if s = [] ∨ s.getLast? = some '\n' then s else s ++ ['\n']

/-- **The lines of a stream hold its text**, character by character. -/
theorem textOfLines_streamLines {s : Text} (h : '\r' ∉ s) :
    textOfLines (Text.streamLines s) = withLastEnd s := by
  suffices hafter : ∀ line : Text, '\n' ∉ line → '\r' ∉ line →
      textOfLines (Text.streamLinesAfter line s) = withLastEnd (line.reverse ++ s) from
    hafter [] (by simp) (by simp)
  induction s with
  | nil =>
    intro line hfeed _
    cases line with
    | nil => rfl
    | cons c line =>
      have hrev : '\n' ∉ (c :: line).reverse := mt List.mem_reverse.1 hfeed
      have hlast : ¬((c :: line).reverse = [] ∨ (c :: line).reverse.getLast? = some '\n') := by
        intro hor
        rcases hor with hnil | hlast
        · simp at hnil
        · exact hrev (List.mem_of_getLast? hlast)
      rw [List.append_nil, withLastEnd, if_neg hlast]
      show Text.dropLineEnd (c :: line).reverse ++ ['\n'] ++ [] = _
      rw [dropLineEnd_of_not_mem hrev, List.append_nil]
  | cons c s ih =>
    intro line hfeed hreturn
    have hs := ih fun hmem => h (List.mem_cons_of_mem c hmem)
    rw [Text.streamLinesAfter]
    by_cases hc : c = '\n'
    · have hdrop : Text.dropLineEnd ((c :: line).reverse) = line.reverse := by
        rw [hc, List.reverse_cons]
        exact dropLineEnd_concat (mt List.mem_reverse.1 hreturn)
      have hend : withLastEnd (line.reverse ++ c :: s) = line.reverse ++ c :: withLastEnd s := by
        cases s with
        | nil => simp [withLastEnd, hc]
        | cons d s => simp only [withLastEnd]; split <;> split <;> simp_all
      rw [if_pos hc, hend]
      show Text.dropLineEnd (c :: line).reverse ++ ['\n']
        ++ textOfLines (Text.streamLinesAfter [] s) = _
      rw [hdrop, hs [] (by simp) (by simp), hc]
      simp
    · rw [if_neg hc, hs (c :: line)]
      · simp
      · intro hmem
        rcases List.mem_cons.1 hmem with hmem | hmem
        · exact hc hmem.symm
        · exact hfeed hmem
      · intro hmem
        rcases List.mem_cons.1 hmem with hmem | hmem
        · exact h (hmem ▸ List.mem_cons_self)
        · exact hreturn hmem

/-- **The statements of a stream** are found in one scan over its text. -/
theorem statementsOfInput_stream_eq_wholeScan {s : Text} (h : '\r' ∉ s) :
    statementsOfInput (itemsOfStream s)
      = (wholeScan (withLastEnd s)).1 ++ tailOf (wholeScan (withLastEnd s)).2 := by
  have hlines : ∀ line ∈ Text.streamLines s, IsLine line := fun _ => isLine_of_mem_streamLines
  obtain ⟨hholds, hcompleted, hrest⟩ := StatementBuffer.takeLines_empty hlines
  rw [itemsOfStream, statementsOfInput_eq_takeLines, ← hcompleted, hholds.finish hrest,
    textOfLines_streamLines h]
  rfl

end SqlShell
