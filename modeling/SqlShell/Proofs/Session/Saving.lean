import SqlShell.Proofs.Session.Closing

/-! # Saving the Statements

    The history file holds what it held at first and, behind it, **one line for
    each statement that counts as saved**, whichever attempts to use it fail.

    * **`Session.Saves`** is what one attempt comes to.
    * **`Errand`** is one of the things that are done with a session and its
      history file, and **`InStep`** is what any number of them preserve.
    * **`saves_each_once`**: no statement is lost, and none is saved twice. -/

namespace SqlShell

/-! ## Lines of the history file -/

/-- A blank for the end of a line. -/
def blankForBreak (c : Char) : Char := if c = '\r' ∨ c = '\n' then ' ' else c

/-- **A text on one line**: its line ends become blanks. -/
def Text.onOneLine (s : Text) : Text := s.map blankForBreak

/-- **A saved statement**: on one line, with a semicolon behind it. -/
def savedLine (statement : Text) : Text := statement.onOneLine ++ [';', '\n']

/-- It is the line of the statement in the history file. -/
theorem Session.historyLine_eq (statement : Text) :
    historyLine statement = savedLine statement := by
  have hblank (s : Text) : Text.substitute '\n' [' '] (Text.substitute '\r' [' '] s)
      = s.onOneLine := by
    induction s with
    | nil => rfl
    | cons c s ih =>
      rw [Text.onOneLine, List.map_cons, ← Text.onOneLine, ← ih]
      by_cases hreturn : c = '\r'
      · simp [Text.substitute, blankForBreak, hreturn]
      · by_cases hfeed : c = '\n' <;> simp [Text.substitute, blankForBreak, hreturn, hfeed]
  show Text.substitute '\n' [' '] (Text.substitute '\r' [' '] statement) ++ [';', '\n'] = _
  rw [hblank]
  rfl

/-- No line ends within it. -/
theorem Text.not_mem_onOneLine (s : Text) : '\n' ∉ s.onOneLine ∧ '\r' ∉ s.onOneLine := by
  have h (c : Char) (hc : c = '\r' ∨ c = '\n') : c ∉ s.onOneLine := by
    intro hmem
    obtain ⟨d, -, hd⟩ := List.mem_map.1 hmem
    unfold blankForBreak at hd
    by_cases hbreak : d = '\r' ∨ d = '\n'
    · rw [if_pos hbreak] at hd
      rcases hc with rfl | rfl <;> exact absurd hd (by decide)
    · rw [if_neg hbreak] at hd
      exact hbreak (hd ▸ hc)
  exact ⟨h '\n' (.inr rfl), h '\r' (.inl rfl)⟩

/-- Nor is there a line end in front of the one that ends a saved statement. -/
theorem Text.not_mem_onOneLine_semicolon (s : Text) :
    '\n' ∉ s.onOneLine ++ [';'] ∧ '\r' ∉ s.onOneLine ++ [';'] := by
  obtain ⟨hfeed, hreturn⟩ := s.not_mem_onOneLine
  simp [hfeed, hreturn]

/-- **What the lines of some statements hold.** -/
def savedLines (statements : List Text) : Text := statements.flatMap savedLine

theorem savedLines_append (l l' : List Text) :
    savedLines (l ++ l') = savedLines l ++ savedLines l' := List.flatMap_append

theorem flatMap_historyLine (statements : List Text) :
    statements.flatMap Session.historyLine = savedLines statements := by
  unfold savedLines
  exact congrArg (statements.flatMap ·) (funext Session.historyLine_eq)

/-- What a history file holds; a file that does not exist holds nothing. -/
def HistoryFile.text (file : HistoryFile) : Text := file.content.getD []

/-! ## One attempt -/

namespace Session

variable {s after : Session} {file file' : HistoryFile} {n : Nat}

/-- **What an attempt to save comes to**: how many statements it has written, and
    the session and the history file then. -/
inductive Saves (s : Session) (file : HistoryFile) : Nat → Session → HistoryFile → Prop where
  /-- No file is wanted, or nothing is pending: the file is not touched. -/
  | idle (h : s.historyPath? = none ∨ s.unsaved = []) : Saves s file 0 s.allSaved file
  /-- The file cannot be used: its content stays as it is, and so does the session. -/
  | failed (hpath : s.historyPath? ≠ none) (hpending : s.unsaved ≠ []) (f : FileFault)
    (h : file.fault file.attempts = some f) :
    Saves s file 0 s { file with attempts := file.attempts + 1 }
  /-- Everything that is pending is written behind what the file holds. -/
  | written (hpath : s.historyPath? ≠ none) (hpending : s.unsaved ≠ [])
    (h : file.fault file.attempts = none) :
    Saves s file s.unsaved.length s.allSaved
      { file with
        attempts := file.attempts + 1
        content := some (file.text ++ savedLines s.unsaved) }

/-- **Every attempt** comes to one of these. -/
theorem saves_saveHistory (s : Session) (file : HistoryFile) :
    Saves s file (s.saveHistory file).written (s.saveHistory file).session
      (s.saveHistory file).file := by
  unfold saveHistory
  cases hpending : s.unsaved with
  | nil => exact .idle (.inr hpending)
  | cons first others =>
    cases hpath : s.historyPath? with
    | none => exact .idle (.inl hpath)
    | some path =>
      have hsome : s.historyPath? ≠ none := by
        rw [hpath]
        nofun
      have hcons : s.unsaved ≠ [] := by
        rw [hpending]
        nofun
      cases hfault : file.fault file.attempts with
      | some f => exact .failed hsome hcons f hfault
      | none =>
        dsimp only
        rw [flatMap_historyLine, ← hpending]
        exact .written hsome hcons hfault

@[simp] theorem unsaved_allSaved (s : Session) : s.allSaved.unsaved = [] := List.drop_length

/-- The path does not depend on what has been saved. -/
@[simp] theorem historyPath?_allSaved (s : Session) :
    s.allSaved.historyPath? = s.historyPath? := rfl

namespace Saves

variable (h : Saves s file n after file')

include h

theorem history_eq : after.history = s.history ∧ after.settings = s.settings := by
  cases h <;> exact ⟨rfl, rfl⟩

theorem fault_eq : file'.fault = file.fault := by
  cases h <;> rfl

/-- **An attempt that does not fail leaves nothing pending.** -/
theorem unsaved_eq_nil (hfault : file.fault file.attempts = none) : after.unsaved = [] := by
  cases h with
  | idle | written => exact unsaved_allSaved s
  | failed _ _ f hf =>
    rw [hfault] at hf
    cases hf

/-- If no file is wanted it is left alone, and nothing stays pending. -/
theorem eq_of_historyPath?_eq_none (hpath : s.historyPath? = none) :
    n = 0 ∧ file' = file ∧ after.unsaved = [] := by
  cases h with
  | idle => exact ⟨rfl, rfl, unsaved_allSaved s⟩
  | failed hsome | written hsome => exact absurd hpath hsome

theorem saved_le (hle : s.saved ≤ s.history.length) : after.saved ≤ after.history.length := by
  cases h with
  | idle | written => exact Nat.le_refl _
  | failed => exact hle

/-- **A line for each statement that counts as saved**: no attempt breaks with it. -/
theorem text_eq {text : Text} (hpath : s.historyPath? ≠ none)
    (htext : file.text = text ++ savedLines (s.history.take s.saved)) :
    file'.text = text ++ savedLines (after.history.take after.saved) := by
  cases h with
  | idle hidle =>
    -- A file is wanted, so nothing was pending: all statements are in it.
    have hall : s.history.length ≤ s.saved := List.drop_eq_nil_iff.1 (hidle.resolve_left hpath)
    show file.text = text ++ savedLines (s.history.take s.history.length)
    rw [htext, List.take_of_length_le hall, List.take_length]
  | failed => exact htext
  | written =>
    show file.text ++ savedLines (s.history.drop s.saved)
      = text ++ savedLines (s.history.take s.history.length)
    rw [htext, List.append_assoc, ← savedLines_append, List.take_append_drop, List.take_length]

end Saves

end Session

namespace Shell

variable {shell before : Shell} {recorded : List Text}

/-- Saving the statements is such an attempt, and it tells how many it has written
    unless the file breaks down. -/
theorem ensures_saveHistory (hnotices : shell.console.GivesNotices) :
    Ensures saveHistory shell fun ended after =>
      after.console.nature = shell.console.nature ∧
      ∃ n, (ended = .ok n ∨ ¬ shell.historyFile.NeverBreaks) ∧
        shell.session.Saves shell.historyFile n after.session after.historyFile := by
  apply (murmurs_saveHistory hnotices).mono
  intro ended after hafter
  obtain ⟨hended, k, more, hsame, hnature, -⟩ := hafter
  have hsaves := shell.session.saves_saveHistory shell.historyFile
  subst hsame
  exact ⟨hnature, _, hended, hsaves⟩

/-- Closing the session makes such an attempt as well. -/
theorem ensures_closeSession (hnotices : shell.console.GivesNotices) :
    Ensures closeSession shell fun ended after =>
      after.console.nature = shell.console.nature ∧
      (ended = .ok () ∨ ¬ shell.historyFile.NeverBreaks) ∧
      ∃ n, shell.session.Saves shell.historyFile n after.session after.historyFile := by
  unfold closeSession
  rw [ensures_bind]
  apply (ensures_saveHistory hnotices).mono
  intro ended saved hsaved
  obtain ⟨hnature, n, hended, hsaves⟩ := hsaved
  cases ended with
  | error e => exact ⟨hnature, .inr (hended.resolve_left nofun), n, hsaves⟩
  | ok n' =>
    -- The engine is closed behind the attempt and does not touch the file.
    apply (murmurs_closeEngine ((Console.givesNotices_congr hnature).2 hnotices)).mono
    intro ended after hafter
    obtain ⟨hclosed, k, more, hsame, hlater, -⟩ := hafter
    subst hsame
    exact ⟨hlater.trans hnature, .inl hclosed, n, hsaves⟩

/-! ## Many attempts -/

/-- **What is done with a session and its history file.** -/
inductive Errand where
  /-- A statement is recorded. -/
  | record (statement : Text)
  /-- The statements are saved. -/
  | save
  /-- The session is closed. -/
  | close

/-- The statement that is recorded. -/
def Errand.recorded? : Errand → Option Text
  | record statement => some statement
  | save | close => none

/-- Does one of these things. -/
def doErrand : Errand → ShellM Unit
  | .record statement =>
    modify fun shell => { shell with session := shell.session.record statement }
  | .save => do
    let _ ← saveHistory
  | .close => closeSession

/-- Does them one after the other, whether or not one of them breaks off. -/
def doErrands : List Errand → ShellM Unit
  | [] => pure ()
  | errand :: r => do
    let _ ← attempt (doErrand errand)
    doErrands r

/-- **The history file is in step with the session**: `recorded` has been recorded
    since `before`, and the file has grown by the lines of the statements that
    count as saved. -/
structure InStep (before : Shell) (recorded : List Text) (after : Shell) : Prop where
  nature : after.console.nature = before.console.nature
  settings : after.session.settings = before.session.settings
  fault : after.historyFile.fault = before.historyFile.fault
  history : after.session.history = before.session.history ++ recorded
  saved_le : after.session.saved ≤ after.session.history.length
  file : before.session.historyPath? ≠ none → after.historyFile.text
    = before.historyFile.text ++ savedLines (after.session.history.take after.session.saved)
  untouched : before.session.historyPath? = none → after.historyFile = before.historyFile

theorem inStep_refl (hnew : shell.session.saved = 0) : InStep shell [] shell where
  nature := rfl
  settings := rfl
  fault := rfl
  history := (List.append_nil _).symm
  saved_le := by
    rw [hnew]
    exact Nat.zero_le _
  file _ := by
    rw [hnew]
    exact (List.append_nil _).symm
  untouched _ := rfl

namespace InStep

variable (h : InStep before recorded shell)

include h

theorem historyPath?_eq : shell.session.historyPath? = before.session.historyPath? := by
  unfold Session.historyPath?
  rw [h.settings]

theorem givesNotices (hnotices : before.console.GivesNotices) : shell.console.GivesNotices :=
  (Console.givesNotices_congr h.nature).2 hnotices

theorem neverBreaks (hfile : before.historyFile.NeverBreaks) : shell.historyFile.NeverBreaks := by
  unfold HistoryFile.NeverBreaks
  rw [h.fault]
  exact hfile

/-- If nothing is pending the file holds a line for **every** statement. -/
theorem text_eq (hpath : before.session.historyPath? ≠ none) (hsaved : shell.session.unsaved = []) :
    shell.historyFile.text = before.historyFile.text ++ savedLines shell.session.history := by
  have hall : shell.session.history.length ≤ shell.session.saved := List.drop_eq_nil_iff.1 hsaved
  rw [h.file hpath, List.take_of_length_le hall]

/-- **A statement that is recorded** is pending, and the file stays as it is. -/
theorem record (statement : Text) : InStep before (recorded ++ [statement])
    { shell with session := shell.session.record statement } where
  nature := h.nature
  settings := h.settings
  fault := h.fault
  history := by
    show shell.session.history ++ [statement] = _
    rw [h.history, List.append_assoc]
  saved_le := by
    show shell.session.saved ≤ (shell.session.history ++ [statement]).length
    rw [List.length_append]
    exact h.saved_le.trans (Nat.le_add_right _ _)
  file hpath := by
    show shell.historyFile.text = before.historyFile.text
      ++ savedLines ((shell.session.history ++ [statement]).take shell.session.saved)
    rw [List.take_append_of_le_length h.saved_le]
    exact h.file hpath
  untouched := h.untouched

/-- **An attempt to save** keeps the file in step. -/
theorem saves {after : Shell} {n : Nat} (hnature : after.console.nature = shell.console.nature)
    (hsaves : shell.session.Saves shell.historyFile n after.session after.historyFile) :
    InStep before recorded after := by
  obtain ⟨hhistory, hsettings⟩ := hsaves.history_eq
  constructor
  · exact hnature.trans h.nature
  · exact hsettings.trans h.settings
  · exact hsaves.fault_eq.trans h.fault
  · exact hhistory.trans h.history
  · exact hsaves.saved_le h.saved_le
  · intro hpath
    have hsome : shell.session.historyPath? ≠ none := by
      rw [h.historyPath?_eq]
      exact hpath
    exact hsaves.text_eq hsome (h.file hpath)
  · intro hpath
    have hnone : shell.session.historyPath? = none := h.historyPath?_eq.trans hpath
    exact (hsaves.eq_of_historyPath?_eq_none hnone).2.1.trans (h.untouched hpath)

/-- **Whatever is done** keeps the file in step, and it is done to its end unless the
    file breaks down. -/
theorem doErrand (hnotices : before.console.GivesNotices) (errand : Errand) :
    Ensures (doErrand errand) shell fun ended after =>
      (ended = .ok () ∨ ¬ before.historyFile.NeverBreaks) ∧
        InStep before (recorded ++ errand.recorded?.toList) after := by
  have hgives := h.givesNotices hnotices
  have hbreaks : ¬ shell.historyFile.NeverBreaks → ¬ before.historyFile.NeverBreaks :=
    fun hnot hfile => hnot (h.neverBreaks hfile)
  cases errand with
  | record statement => exact ⟨.inl rfl, h.record statement⟩
  | save =>
    show Ensures (saveHistory >>= fun _ => pure ()) shell _
    rw [ensures_bind, Errand.recorded?, Option.toList_none, List.append_nil]
    apply (ensures_saveHistory hgives).mono
    intro ended after hafter
    obtain ⟨hnature, n, hended, hsaves⟩ := hafter
    have hstep := h.saves hnature hsaves
    cases ended with
    | error e => exact ⟨.inr (hbreaks (hended.resolve_left nofun)), hstep⟩
    | ok n' => exact ⟨.inl rfl, hstep⟩
  | close =>
    rw [Errand.recorded?, Option.toList_none, List.append_nil]
    apply (ensures_closeSession hgives).mono
    intro ended after hafter
    obtain ⟨hnature, hended, n, hsaves⟩ := hafter
    exact ⟨hended.imp_right hbreaks, h.saves hnature hsaves⟩

/-- **Any number of errands**, whether or not they break off, keep it in step. -/
theorem doErrands (hnotices : before.console.GivesNotices) (errands : List Errand) :
    Ensures (doErrands errands) shell fun ended after =>
      ended = .ok () ∧ InStep before (recorded ++ errands.filterMap Errand.recorded?) after := by
  -- What has been recorded so far grows by each errand that is done.
  induction errands generalizing shell recorded with
  | nil =>
    rw [List.filterMap_nil, List.append_nil]
    exact ⟨rfl, h⟩
  | cons errand errands ih =>
    rw [Shell.doErrands, ensures_bind, ensures_attempt]
    apply (h.doErrand hnotices errand).mono
    intro ended later hlater
    have hrest := ih hlater.2
    rw [List.append_assoc] at hrest
    have hrecorded : errand.recorded?.toList ++ errands.filterMap Errand.recorded?
        = (errand :: errands).filterMap Errand.recorded? := by
      cases hrecord : errand.recorded? <;> simp [hrecord]
    rw [hrecorded] at hrest
    exact hrest

end InStep

/-- **No statement is lost, and none is saved twice**, whatever is recorded, saved
    and closed, one after the other, and whichever attempts to use the history file
    fail, as long as none of them breaks down. At every moment the file holds what
    it held at first and one line for each statement that counts as saved; if
    nothing is pending that is a line for every statement. The next attempt to
    save, or to close, tells how many lines it has added behind that: all that was
    pending, or none because nothing was to be done, or none because the file
    could not be used, and then session and content are what they were. -/
theorem saves_each_once (shell : Shell) (hnotices : shell.console.GivesNotices)
    (hfile : shell.historyFile.NeverBreaks) (hnew : shell.session.saved = 0)
    (errands : List Errand) :
    Ensures (doErrands errands) shell fun ended later => ended = .ok () ∧
      InStep shell (errands.filterMap Errand.recorded?) later ∧
      (shell.session.historyPath? ≠ none → later.session.unsaved = [] →
        later.historyFile.text
          = shell.historyFile.text ++ savedLines later.session.history) ∧
      (Ensures saveHistory later fun ended after => ∃ n, ended = .ok n ∧
        later.session.Saves later.historyFile n after.session after.historyFile ∧
        (later.historyFile.fault later.historyFile.attempts = none ∨
          shell.session.historyPath? = none → after.session.unsaved = [])) ∧
      Ensures closeSession later fun ended after => ended = .ok () ∧
        ∃ n, later.session.Saves later.historyFile n after.session after.historyFile := by
  apply ((inStep_refl hnew).doErrands hnotices errands).mono
  intro ended later hlater
  obtain ⟨hended, hstep⟩ := hlater
  rw [List.nil_append] at hstep
  have hgives := hstep.givesNotices hnotices
  have hnever := hstep.neverBreaks hfile
  refine ⟨hended, hstep, hstep.text_eq, ?_, ?_⟩
  · apply (ensures_saveHistory hgives).mono
    intro ended after hafter
    obtain ⟨-, n, hended, hsaves⟩ := hafter
    refine ⟨n, hended.resolve_right (not_not_intro hnever), hsaves, ?_⟩
    intro hdone
    rcases hdone with hfault | hpath
    · exact hsaves.unsaved_eq_nil hfault
    · exact (hsaves.eq_of_historyPath?_eq_none (hstep.historyPath?_eq.trans hpath)).2.2
  · apply (ensures_closeSession hgives).mono
    intro ended after hafter
    obtain ⟨-, hended, hsaves⟩ := hafter
    exact ⟨hended.resolve_right (not_not_intro hnever), hsaves⟩

/-- A shell whose history file holds a line and cannot be used at first. -/
def retryingShell : Shell :=
  { completingShell with
    session := { settings := { historyFile := some "h".toList } }
    historyFile := {
      content := some "old;\n".toList
      fault := fun n => if n = 0 then some .missing else none } }

/-- What could not be saved at first is saved at the next attempt, once. -/
theorem saves_each_once_retrying : retryingShell.console.GivesNotices ∧
    retryingShell.historyFile.NeverBreaks ∧ retryingShell.session.saved = 0 ∧
    Ensures (doErrands [.record "select\n1".toList, .save, .record "select 2".toList, .save])
      retryingShell fun ended later => ended = .ok () ∧ later.historyFile.attempts = 2 ∧
        later.historyFile.text = "old;\nselect 1;\nselect 2;\n".toList := by
  have hnotices : retryingShell.console.GivesNotices := nofun
  have hnever : retryingShell.historyFile.NeverBreaks := by
    intro n f hf
    have hmissing : (if n = 0 then some FileFault.missing else none) = some f := hf
    by_cases hn : n = 0
    · rw [if_pos hn] at hmissing
      cases hmissing
      rfl
    · rw [if_neg hn] at hmissing
      cases hmissing
  have hsaved : Ensures
      (doErrands [.record "select\n1".toList, .save, .record "select 2".toList, .save])
      retryingShell fun _ later => later.historyFile.attempts = 2 ∧ later.session.unsaved = [] :=
    ⟨rfl, rfl⟩
  refine ⟨hnotices, hnever, rfl, ?_⟩
  apply (hsaved.and (saves_each_once retryingShell hnotices hnever rfl _)).mono
  intro ended later hlater
  obtain ⟨⟨hattempts, hnone⟩, hended, hstep, htext, -⟩ := hlater
  refine ⟨hended, hattempts, ?_⟩
  rw [htext nofun hnone, hstep.history]
  rfl

/-- **If the history file breaks down** a failed attempt to save has no answer: it
    breaks off, and the statement stays pending. -/
theorem no_answer_from_failed_save :
    Ensures (doErrands [.record "select 1".toList]) unsavingShell fun _ later =>
      Ensures saveHistory later fun ended after =>
        ended = .error (.crashed ⟨.badValue, "embedded null byte".toList⟩) ∧
        after.session.unsaved = ["select 1".toList] ∧ after.historyFile.content = none :=
  ⟨rfl, rfl, rfl⟩

end Shell

end SqlShell
