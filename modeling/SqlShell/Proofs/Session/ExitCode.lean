import SqlShell.Proofs.Session.Closing

/-! # The Exit Code of a Session

    Without interruptions, the exit code tells whether the output was lost, and
    otherwise whether a request has failed.

    * **`AmountsTo.lost_or_faultless`**: the loss of the output is the only fault
      that a session meets with, and ends it.
    * **`exit_code`**: what the exit code of a session tells. -/

namespace SqlShell

/-- **No output is interrupted**, but any write and any flush may fail. -/
def Console.NeverInterrupted (k : Console) : Prop :=
  ∀ e, k.Allows e → e.fault? ≠ some .interrupt

namespace Shell

section Faults

variable {mayBreak : Prop} {k : Console} {past added : List Entry} {before after : Shell}
  {chapters : List Chapter} {ended : Except Exit Unit}

/-- Without interruptions no fault is endured. -/
theorem AreEndured.faultless {l : List Entry} (h : AreEndured l)
    (hk : k.NeverInterrupted) (hallowed : ∀ e ∈ l, k.Allows e) : ∀ e ∈ l, e.fault? = none := by
  intro e he
  refine (h e he).resolve_right fun hstruck => ?_
  exact hk e (hallowed e he) (e.fault?_of_isStruck hstruck)

/-- **What a session has met with** that nobody has interrupted: no fault at all, or
    the loss of its output, behind which nothing is written or offered. -/
theorem AmountsTo.lost_or_faultless
    (h : AmountsTo False past before chapters added ended after)
    (hk : before.console.NeverInterrupted) (hprompts : before.writesPrompts = false) :
    (ended = .ok () ∧ ∀ e ∈ added, e.fault? = none) ∨
      ∃ f earlier e later, ended = .error (.outputLost f) ∧ added = earlier ++ e :: later ∧
        (∀ x ∈ earlier, x.fault? = none) ∧ e.fault? ≠ none ∧ AreQuiet later := by
  have hends := h.ends
  match ended with
  | .ok () => exact .inl ⟨rfl, AreEndured.faultless hends hk h.allowed⟩
  | .error (.outputLost f) =>
    obtain ⟨earlier, e, later, rfl, hearlier, hf, hlater⟩ := hends
    refine .inr ⟨f, earlier, e, later, rfl, rfl, ?_, by simp [hf], hlater⟩
    exact AreEndured.faultless hearlier hk fun x hx => h.allowed x (List.mem_append_left _ hx)
  | .error .interrupted =>
    obtain ⟨earlier, e, later, rfl, hf, -⟩ := hends
    exact absurd hf (hk e (h.allowed e (by simp)))
  | .error (.crashed c) => exact hends.elim
  | .error .stalled =>
    have hwrites := (h.stalled rfl).1
    rw [hprompts] at hwrites
    cases hwrites

/-- **The exit code of a session that has not lost its output** tells whether a
    request has failed. -/
theorem AmountsTo.codeOf_eq (h : AmountsTo mayBreak past before chapters added (.ok ()) after)
    (herrors : before.errors = 0) (failOnError : Bool) : after.codeOf failOnError
      = if failOnError = true ∧ ∃ c ∈ chapters, c.fails = true then exitFailure else exitOk := by
  have hfails : 0 < after.errors ↔ ∃ c ∈ chapters, c.fails = true := by
    rw [h.count rfl, herrors, Nat.zero_add, List.countP_pos_iff]
  rw [codeOf]
  simp only [Bool.and_eq_true, decide_eq_true_eq, hfails]

end Faults

/-- Nothing but quiet entries is behind a fault, if that is so behind the first one. -/
theorem areQuiet_of_first_fault {earlier earlier' later later' : List Entry} {e e' : Entry}
    (h : earlier ++ e :: later = earlier' ++ e' :: later')
    (hearlier : ∀ x ∈ earlier, x.fault? = none) (hlater : AreQuiet later) (he' : e'.fault? ≠ none) :
    AreQuiet later' := by
  -- The fault at hand is the first one, or it is behind it.
  rcases List.append_eq_append_iff.1 h with ⟨between, rfl, hrest⟩ | ⟨between, rfl, hrest⟩
  · cases between with
    | nil =>
      obtain ⟨rfl, rfl⟩ := List.cons.inj hrest
      exact hlater
    | cons x rest =>
      obtain ⟨rfl, rfl⟩ := List.cons.inj hrest
      have hquiet := hlater e' (by simp)
      exact absurd (e'.fault?_of_isSilent hquiet.1) he'
  · cases between with
    | nil =>
      obtain ⟨rfl, rfl⟩ := List.cons.inj hrest
      exact hlater
    | cons x rest =>
      obtain ⟨rfl, rfl⟩ := List.cons.inj hrest
      exact absurd (hearlier e' (by simp)) he'

/-- **The exit code of a session** whose outputs are not interrupted, whatever its
    input holds, however its engine answers, and whichever writes and flushes fail,
    as long as notices are given, the history file does not break down, the prompts
    are not written by the shell itself and the engine does not hold a statement up.
    It is 2 if and only if a write or a flush has failed, and nothing is written or
    offered after that. Otherwise every request has been dealt with until the session
    was left, and the code is 1 if failures count and one of the requests has failed,
    and else 0. -/
theorem exit_code (format : InitialFormat) (failOnError : Bool) (input : List InputLine)
    (shell : Shell) {f : ResultFormat} (hformat : format.resolve = .ok f)
    (herrors : shell.errors = 0) (hinput : ∀ c, .crash c ∉ input)
    (hprompts : shell.writesPrompts = false) (hsinks : shell.console.NeverInterrupted)
    (hnotices : shell.console.GivesNotices) (hlimit : shell.surroundings.limitFault = none)
    (hfile : shell.historyFile.NeverBreaks) :
    Ensures (start format failOnError input) shell fun ended after =>
      (ended = .error .stalled ∧ ∃ statement, shell.engine.HoldsUp statement after) ∨
      ∃ code chapters stopped last added closing, ended = .ok code ∧
        Unfolds False [] { shell with session := { shell.session with format := f } } chapters added
          stopped last ∧
        after.console.entries = shell.console.entries ++ (added ++ closing) ∧
        (code = exitOutputLost ↔ ∃ e ∈ added ++ closing, e.fault? ≠ none) ∧
        (∀ earlier e later, added ++ closing = earlier ++ e :: later → e.fault? ≠ none →
          AreQuiet later) ∧
        ((∀ e ∈ added ++ closing, e.fault? = none) →
          Serves (requestsFrom shell.buffer input) chapters (.ok ()) last ∧
          code = if failOnError = true ∧ ∃ c ∈ chapters, c.fails = true then exitFailure
            else exitOk) := by
  have hfit : Fit False [] shell :=
    fit_nil hnotices hlimit fun hwrites => by simp [hprompts] at hwrites
  refine (told_start failOnError hformat (fun c hc => absurd hc (hinput c)) hfit).mono ?_
  rintro ended after (⟨hheld, hstalled⟩ | ⟨c, htells⟩)
  · exact .inl ⟨hstalled hfile, hheld⟩
  have hamounts := htells.unfolds.amountsTo
  have hsame : c.input = input := by
    refine htells.same.resolve_right ?_
    rintro ⟨hwrites, -⟩
    simp [hprompts] at hwrites
  -- The end of the session meets with no fault, so the main loop has met with all.
  have hclosing : ∀ e ∈ c.closing, e.fault? = none :=
    fun e he => e.fault?_of_isSilent (htells.quiet e he).1
  right
  rcases hamounts.lost_or_faultless hsinks hprompts with
    ⟨hstopped, hfaultless⟩ | ⟨f', earlier, e, later, hstopped, hadded, hearlier, he, hlater⟩
  · have hnone : ∀ e ∈ c.entries ++ c.closing, e.fault? = none :=
      fun e he => (List.mem_append.1 he).elim (hfaultless e) (hclosing e)
    have hended := htells.ended hfile
    rw [hstopped] at hended
    refine ⟨_, c.chapters, c.stopped, c.last, c.entries, c.closing, hended, htells.unfolds,
      htells.transcript, ?_, ?_, ?_⟩
    · refine ⟨fun hcode => ?_, fun ⟨e, he, hfault⟩ => absurd (hnone e he) hfault⟩
      unfold codeOf at hcode
      split at hcode <;> cases hcode
    · intro earlier e later hsplit he
      exact absurd (hnone e (by simp [hsplit])) he
    · intro _
      have hserves := htells.serves
      rw [hsame, hstopped] at hserves
      rw [hstopped] at hamounts
      exact ⟨hserves, hamounts.codeOf_eq herrors failOnError⟩
  · have hended := htells.ended hfile
    rw [hstopped] at hended
    refine ⟨_, c.chapters, c.stopped, c.last, c.entries, c.closing, hended, htells.unfolds,
      htells.transcript, ⟨fun _ => ⟨e, by simp [hadded], he⟩, fun _ => rfl⟩, ?_, ?_⟩
    · intro earlier' e' later' hsplit he'
      rw [hadded, List.append_assoc, List.cons_append] at hsplit
      refine areQuiet_of_first_fault hsplit hearlier ?_ he'
      exact fun x hx => (List.mem_append.1 hx).elim (hlater x) (htells.quiet x)
    · intro hnone
      exact absurd (hnone e (by simp [hadded])) he

/-- A shell that cannot flush its output for the second time. -/
@[irreducible] def unflushingShell : Shell :=
  { completingShell with
    console.out.flushFault := fun n => if n = 1 then some (.fault .noSpace) else none }

theorem neverInterrupted_unflushingShell : unflushingShell.console.NeverInterrupted := by
  unfold unflushingShell
  intro e hallowed hf
  cases e with
  | unwritten c f =>
    obtain ⟨n, hn⟩ := hallowed
    cases c <;> cases hn
  | unflushed c f =>
    obtain rfl : f = .interrupt := Option.some.inj hf
    obtain ⟨n, hn⟩ := hallowed
    cases c with
    | out =>
      have hn : (if n = 1 then some (.fault .noSpace) else none) = some SinkFault.interrupt := hn
      split at hn <;> cases hn
    | err => cases hn
  | _ => cases hf

/-- A flush that fails after the second statement shows in the exit code, and the
    third statement is not submitted. -/
theorem exit_code_flush : InitialFormat.resolve (.named "CSV".toList) = .ok .csv ∧
    unflushingShell.console.NeverInterrupted ∧ unflushingShell.console.GivesNotices ∧
    unflushingShell.historyFile.NeverBreaks ∧
    Ensures (start (.named "CSV".toList) true [.line "select 1; select 2; select 3;".toList])
      unflushingShell fun ended after => ∃ code added, ended = .ok code ∧
        after.console.entries = unflushingShell.console.entries ++ added ∧
        (code = exitOutputLost ↔ ∃ e ∈ added, e.fault? ≠ none) ∧
        ∀ earlier e later, added = earlier ++ e :: later → e.fault? ≠ none → AreQuiet later := by
  have hformat : InitialFormat.resolve (.named "CSV".toList) = .ok .csv := by decide +kernel
  have hnotices : unflushingShell.console.GivesNotices := by
    unfold unflushingShell
    exact nofun
  have hfile : unflushingShell.historyFile.NeverBreaks := by
    unfold unflushingShell
    exact nofun
  have hblocks : ¬ unflushingShell.engine.Blocks := by
    unfold unflushingShell
    exact not_blocks_completingShell
  have hplain : unflushingShell.errors = 0 ∧ unflushingShell.writesPrompts = false ∧
      unflushingShell.surroundings.limitFault = none := by
    unfold unflushingShell
    exact ⟨rfl, rfl, rfl⟩
  refine ⟨hformat, neverInterrupted_unflushingShell, hnotices, hfile, ?_⟩
  refine (exit_code _ true [.line "select 1; select 2; select 3;".toList] unflushingShell hformat
    hplain.1 (by simp) hplain.2.1 neverInterrupted_unflushingShell hnotices hplain.2.2
    hfile).mono ?_
  rintro ended after (⟨-, statement, hheld⟩ |
    ⟨code, chapters, stopped, last, added, closing, hended, -, hentries, hcode, hquiet, -⟩)
  · exact absurd hheld.engine_blocks hblocks
  · exact ⟨code, added ++ closing, hended, hentries, hcode, hquiet⟩

/-- A shell that writes its own prompts, to an output that nobody reads. -/
def unreadShell : Shell :=
  { completingShell with
    interactive := true
    writesPrompts := true
    console.out.writeFault := fun _ => some (.fault .brokenPipe) }

/-- **A prompt that cannot be written** by the shell itself is no lost output: the
    session breaks down without an exit code. -/
theorem lost_prompt_escapes : ∃ after,
    start (.known .table) false [.line "select 1;".toList] unreadShell
      = .error (.crashed ⟨.brokenPipe, "[Errno 32] Broken pipe".toList⟩) after ∧
    .unwritten .out (.fault .brokenPipe) ∈ after.console.entries := by
  obtain ⟨e, after, hrun, htest⟩ := exists_of_breaksOff
    (start (.known .table) false [.line "select 1;".toList]) unreadShell (fun e after =>
      e = .crashed ⟨.brokenPipe, "[Errno 32] Broken pipe".toList⟩ &&
      decide (.unwritten .out (.fault .brokenPipe) ∈ after.console.entries)) (by decide +kernel)
  simp only [Bool.and_eq_true, decide_eq_true_eq] at htest
  obtain ⟨rfl, hunwritten⟩ := htest
  exact ⟨after, hrun, hunwritten⟩

end Shell

end SqlShell
