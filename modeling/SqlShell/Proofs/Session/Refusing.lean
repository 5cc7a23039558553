import SqlShell.Proofs.Session.Closing

/-! # Sessions that are not Started

    A session is not started if there is no engine for it, or if the format that it
    should start with does not exist. What there is to complain of is written to the
    error output, and the engine, if there is one, is closed.

    * **`FailedStart`** is a call that fails like this, with what it complains of and
      what it owes.
    * **`failed_start_ends`**: if the complaint can be written the engine is closed,
      once, and the call fails with an exit code.
    * **`engine_left_open_unheard`**: if it cannot be written the engine is left open. -/

namespace SqlShell

/-! ## Notices that may be lost -/

namespace Console

/-- **A notice leaves no milestone**, whether it can be given or not. -/
theorem entries_note (n : Notice) (k : Console) : ∃ noted,
    (k.note n).2.entries = k.entries ++ noted ∧ noted.filter Entry.isMilestone = [] := by
  have hcomplain (f : SinkFault) (k : Console) : (k.complain f).2.entries = k.entries := by
    rw [entries, entries, transcript_complain]
  unfold note
  split
  case isFalse => exact ⟨[.noted n false], entries_enter _ k, rfl⟩
  case isTrue =>
    dsimp only
    generalize hcounted : { k with err := { k.err with writes := k.err.writes + 1 } } = counted
    have hsame : counted.entries = k.entries := by
      rw [← hcounted]
      rfl
    split
    case h_1 f _ =>
      refine ⟨[.noted n false], ?_, rfl⟩
      rw [hcomplain, entries_enter, hsame]
    case h_2 =>
      -- The notice is in the transcript, and the flush may leave its fault behind it.
      obtain ⟨-, hflush⟩ := flush_eq .err (counted.enter (.noted n true))
      rw [entries_enter, hsame] at hflush
      generalize (counted.enter (.noted n true)).flush .err = flushed at hflush ⊢
      obtain ⟨fault, after⟩ := flushed
      cases fault with
      | none => exact ⟨[.noted n true], hflush, rfl⟩
      | some f =>
        refine ⟨[.noted n true, .unflushed .err f], ?_, rfl⟩
        dsimp only at hflush ⊢
        rw [hcomplain, hflush.1]
        simp

end Console

namespace Shell

variable {shell : Shell}

/-- **The engine is closed** in any case, and nothing but a lost notice of it ends the
    action early. -/
theorem ensures_closeEngine (shell : Shell) : Ensures closeEngine shell fun ended after =>
    (∃ noted, after.console.entries = shell.console.entries ++ .engineClosed :: noted ∧
      noted.filter Entry.isMilestone = []) ∧
    ((shell.engine.logsClosing = true → shell.console.GivesNotices) → ended = .ok ()) := by
  rw [closeEngine, ensures_bind, enter, onConsole, ensures_modify]
  dsimp only
  rw [ensures_bind, ensures_get]
  dsimp only
  split
  case isFalse => exact ⟨⟨[], Console.entries_enter _ _, rfl⟩, fun _ => rfl⟩
  case isTrue hlogs =>
    obtain ⟨noted, hentries, hnoted⟩ :=
      Console.entries_note .engineClosed (shell.console.enter .engineClosed)
    rw [note, ensures_bind, ensures_modifyGet]
    dsimp only
    have hclosed : ∃ noted, ((shell.console.enter .engineClosed).note .engineClosed).2.entries
        = shell.console.entries ++ .engineClosed :: noted ∧
          noted.filter Entry.isMilestone = [] := by
      refine ⟨noted, ?_, hnoted⟩
      rw [hentries, Console.entries_enter]
      simp
    have hgiven (h : shell.engine.logsClosing = true → shell.console.GivesNotices) :
        ((shell.console.enter .engineClosed).note .engineClosed).1 = none :=
      (Console.note_eq (by exact h hlogs) _).1
    generalize (shell.console.enter .engineClosed).note .engineClosed = given at hclosed hgiven ⊢
    obtain ⟨fault, k⟩ := given
    refine Ensures.mono (Q := fun ended after => after.console = k ∧ (fault = none → ended = .ok ()))
      ?_ ?_
    · cases fault with
      | none => exact ⟨rfl, fun _ => rfl⟩
      | some f => cases f <;> exact ⟨rfl, by simp⟩
    · rintro ended after ⟨rfl, hended⟩
      exact ⟨hclosed, fun h => hended (hgiven h)⟩

/-- **A complaint** is written, or its fault ends the action. -/
theorem ensures_complaint (text : Text) (shell : Shell) :
    Ensures (write .err text) shell fun ended after =>
      ∃ k, after = { shell with console := k } ∧ k.nature = shell.console.nature ∧
        match (shell.console.put .err text).1 with
        | none => ended = .ok () ∧ k.entries = shell.console.entries ++ [.written .err text]
        | some f => ended = .error (exitOf f) ∧
            k.entries = shell.console.entries ++ [.unwritten .err f] := by
  obtain ⟨hnature, hput⟩ := Console.put_eq .err text shell.console
  rw [write, ensures_bind, put, ensures_modifyGet]
  dsimp only
  generalize shell.console.put .err text = written at hnature hput ⊢
  obtain ⟨fault, k⟩ := written
  cases fault with
  | none => exact ⟨k, rfl, hnature, rfl, hput⟩
  | some f => exact ⟨k, rfl, hnature, rfl, hput.1⟩

/-! ## Failed starts -/

/-- **A call that fails at the start.** -/
inductive FailedStart where
  /-- There is no engine. -/
  | noEngine
  /-- There is an engine, but no format of this name. -/
  | noFormat (name : Text) (unknown : ∀ f, ResultFormat.parse (some name) ≠ .ok f)
      (failOnError : Bool) (input : List InputLine)

namespace FailedStart

/-- What the call does. -/
def action : FailedStart → ShellM Nat
  | noEngine => refuse
  | noFormat name _ failOnError input => start (.named name) failOnError input

/-- What there is to complain of. -/
def complaint : FailedStart → Text
  | noEngine => "no engine session".toList
  | noFormat name _ _ _ => (CommandError.unknownFormat name).message

/-- The milestones of an end in order: the engine is closed, if there is one. -/
def owed : FailedStart → List Entry
  | noEngine => []
  | noFormat _ _ _ _ => [.engineClosed]

/-- The notice that the engine has been closed, if there is one, is not lost. -/
def IsHeard (shell : Shell) : FailedStart → Prop
  | noEngine => True
  | noFormat _ _ _ _ => shell.engine.logsClosing = true → shell.console.GivesNotices

end FailedStart

/-- A name that is not known is complained of as it is given. -/
theorem resolve_unknown {name : Text} (h : ∀ f, ResultFormat.parse (some name) ≠ .ok f) :
    (InitialFormat.named name).resolve = .error (.unknownFormat name) := by
  unfold InitialFormat.resolve
  unfold ResultFormat.parse at h ⊢
  dsimp only at h ⊢
  split
  case h_1 f hf =>
    rw [hf] at h
    exact absurd rfl (h f)
  case h_2 => rfl

/-- **How a call ends that fails at the start**, whichever writes and flushes fail. If
    its complaint can be written, the engine is closed, once and behind the complaint,
    and the exit code is that of a failure, unless the notice of the closing is lost.
    Otherwise there is no exit code, and nothing follows: the engine is left open. -/
theorem failed_start_ends (call : FailedStart) (shell : Shell) :
    Ensures call.action shell fun ended after =>
      match (shell.console.put .err (errorLine call.complaint)).1 with
      | none =>
        (∃ closing, after.console.entries = shell.console.entries
            ++ .written .err (errorLine call.complaint) :: closing ∧
          closing.filter Entry.isMilestone = call.owed) ∧
        (call.IsHeard shell → ended = .ok exitFailure)
      | some f =>
        after.console.entries = shell.console.entries ++ [.unwritten .err f] ∧
        ended = .error (exitOf f) := by
  cases call with
  | noEngine =>
    rw [FailedStart.action, refuse, ensures_bind]
    refine (ensures_complaint _ shell).mono ?_
    rintro ended after ⟨k, rfl, -, hwritten⟩
    dsimp only [FailedStart.complaint]
    split at hwritten <;> obtain ⟨rfl, hentries⟩ := hwritten
    case h_1 => exact ⟨⟨[], hentries, rfl⟩, fun _ => rfl⟩
    case h_2 => exact ⟨hentries, rfl⟩
  | noFormat name unknown failOnError input =>
    rw [FailedStart.action, start, resolve_unknown unknown]
    dsimp only
    rw [ensures_bind]
    refine (ensures_complaint _ shell).mono ?_
    rintro ended told ⟨k, rfl, hnature, hwritten⟩
    dsimp only [FailedStart.complaint]
    split at hwritten <;> obtain ⟨rfl, hentries⟩ := hwritten
    case h_2 => exact ⟨hentries, rfl⟩
    case h_1 =>
      -- The complaint has been written, and now the engine is closed.
      dsimp only
      rw [ensures_bind]
      refine (ensures_closeEngine _).mono ?_
      rintro ended after ⟨⟨noted, hclosed, hnoted⟩, hheard⟩
      have hclosing : ∃ closing, after.console.entries = shell.console.entries
          ++ .written .err (errorLine (CommandError.unknownFormat name).message) :: closing ∧
            closing.filter Entry.isMilestone = [.engineClosed] := by
        refine ⟨.engineClosed :: noted, ?_, ?_⟩
        · rw [hclosed, hentries]
          simp
        · rw [List.filter_cons_of_pos rfl, hnoted]
      have hreturns (h : shell.engine.logsClosing = true → shell.console.GivesNotices) :
          ended = .ok () :=
        hheard fun hlogs => (Console.givesNotices_congr hnature).2 (h hlogs)
      cases ended with
      | ok => exact ⟨hclosing, fun _ => rfl⟩
      | error e => exact ⟨hclosing, fun h => nomatch hreturns h⟩

/-- A shell whose error output nobody reads. -/
def unheardShell : Shell :=
  { completingShell with console.err.writeFault := fun _ => some (.fault .brokenPipe) }

/-- **If the complaint cannot be written the engine is left open**, and the call has no
    exit code, not even that of a lost output. -/
theorem engine_left_open_unheard : ∃ after,
    start (.named "xml".toList) false [] unheardShell
      = .error (.outputLost .brokenPipe) after ∧
    .engineClosed ∉ after.console.entries := by
  obtain ⟨e, after, hstart, htest⟩ := exists_of_breaksOff
    (start (.named "xml".toList) false []) unheardShell (fun e after =>
      e = .outputLost .brokenPipe && decide (.engineClosed ∉ after.console.entries))
    (by decide +kernel)
  simp only [Bool.and_eq_true, decide_eq_true_eq] at htest
  obtain ⟨rfl, hopen⟩ := htest
  exact ⟨after, hstart, hopen⟩

end Shell

end SqlShell
