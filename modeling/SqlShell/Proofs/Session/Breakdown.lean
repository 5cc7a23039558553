import SqlShell.Proofs.Session.Showing

/-! # Breakdowns of the Engine

    An engine may break down over a statement before it has given a batch: it does not
    even take the statement, or it takes it and the stream of the result breaks down at
    once. Either costs one line and one failure, and the session goes on. Only the
    second is told as a failure of the execution: only then an outcome comes, and only
    then the outputs are flushed.

    * **`Breakdown`** is the place of the breakdown, with all that depends on it.
    * **`Shell.tally`** is what is counted: the failures, and the flushes of the output.
    * **`IsBorne`** says how a session bears a breakdown.
    * **`breakdown_is_borne`** says so of every session that nothing else disturbs. -/

namespace SqlShell

/-- **The place of a breakdown** before the first batch. -/
inductive Breakdown where
  /-- The engine does not take the statement. -/
  | atSubmission
  /-- The engine takes the statement, and the stream of the result breaks down. -/
  | inStream (closable : Bool)

namespace Breakdown

/-- The answer to the statement. -/
def answer (c : Crash) : Breakdown → Submission
  | atSubmission => .crashed c
  | inStream closable => .accepted { batches := [], ending := .crashed c, closable }

/-- The only reply that comes before the events are exhausted. -/
def reply (c : Crash) (elapsed : Binary64) : Breakdown → Reply Binary64
  | atSubmission => .crashed c
  | inStream _ => .event (.completed (.failure c.failure elapsed))

/-- What the user is told. -/
def message (c : Crash) : Breakdown → Text
  | atSubmission => c.describe
  | inStream _ => c.failure.describe

/-- How often the outputs are flushed. -/
def flushes : Breakdown → Nat
  | atSubmission => 0
  | inStream _ => 1

theorem unblocked (b : Breakdown) {c : Crash} {stream : ResultStream}
    (h : b.answer c = .accepted stream) : stream.ending ≠ .blocked := by
  cases b with
  | atSubmission => cases h
  | inStream closable =>
    cases h
    exact nofun

/-- A writer has nothing to end that has not got a batch. -/
theorem whole_inStream (closable : Bool) (c : Crash) (settings : Settings) (format : ResultFormat)
    (elapsed : Binary64) :
    (((inStream closable).answer c).written settings format elapsed).crash = none := by
  cases format <;> rfl

/-- **One line is shown**, whatever the format. -/
theorem shown_eq (b : Breakdown) (c : Crash) (settings : Settings) (format : ResultFormat)
    (elapsed : Binary64) : (b.answer c).shown settings format elapsed
      = textsOn .err [Shell.errorLine (b.message c)] := by
  funext channel
  cases b with
  | atSubmission => cases channel <;> rfl
  | inStream closable =>
    -- No writer has anything to end that has not got a batch.
    cases format <;> cases channel <;> rfl

end Breakdown

namespace Console

/-- The error output is flushed apart from the other. -/
theorem out_flush_err (k : Console) : (k.flush .err).2.out = k.out := by
  unfold flush
  dsimp only
  split <;> rfl

theorem flushes_flush_out (k : Console) : (k.flush .out).2.out.flushes = k.out.flushes + 1 := by
  unfold flush
  dsimp only
  split <;> rfl

/-- **Notices go to the error output.** -/
theorem out_note (n : Notice) (k : Console) : (k.note n).2.out = k.out := by
  have hcomplain (f : SinkFault) (k : Console) : (k.complain f).2.out = k.out := by
    unfold complain
    split
    · rfl
    · dsimp only
      split <;> rfl
  unfold note
  split
  case isFalse => rfl
  case isTrue =>
    dsimp only
    split
    case h_1 => exact hcomplain _ _
    case h_2 =>
      have hflush := out_flush_err
        (enter (.noted n true) { k with err := { k.err with writes := k.err.writes + 1 } })
      split
      case h_1 f k' hk =>
        rw [hk] at hflush
        exact (hcomplain f k').trans hflush
      case h_2 k' hk =>
        rw [hk] at hflush
        exact hflush

end Console

namespace Shell

/-! ## What a presentation keeps -/

section Keeping

variable {γ : Type} {view : Shell → γ}

/-- A production is written as far as the output takes it. -/
theorem keeps_produce {σ : Type} (hput : ∀ text, Keeps view (put .out text)) (p : Production σ) :
    Keeps view (produce p) := by
  have hsteps (final : σ) (crash : Option Crash) (steps : List (σ × Text)) :
      Keeps view (writeSteps final crash steps) := by
    induction steps with
    | nil => exact keeps_pure _
    | cons step rest ih =>
      refine (hput step.2).bind ?_
      intro fault
      split
      · exact ih
      · exact keeps_pure _
  exact hsteps p.last p.crash p.steps

namespace Detached

variable (h : Detached view)

include h

theorem keeps_interrupted : Keeps view interrupted := by
  refine keeps_get.bind ?_
  intro shell
  split
  · exact keeps_throw _
  · exact keeps_modify fun shell => h.source shell _

theorem keeps_interlude : Keeps view interlude := by
  refine keeps_modify ?_
  intro shell
  split
  · exact h.both shell _ _
  · rfl

theorem keeps_takeEvents (hput : ∀ text, Keeps view (put .out text)) (fuel : Nat) (w : Writer) :
    Keeps view (takeEvents fuel w) := by
  induction fuel generalizing w with
  | zero => exact keeps_pure _
  | succ fuel ih =>
    refine h.keeps_nextEvent.bind ?_
    intro reply
    split
    case h_1 => exact keeps_pure _
    case h_2 | h_3 => exact keeps_throw _
    case h_4 => exact h.keeps_interrupted.bind fun _ => ih w
    case h_5 => exact keeps_pure _
    case h_6 b =>
      refine h.keeps_interlude.bind fun _ => keeps_get.bind fun shell => ?_
      split
      · exact ih w
      · refine (keeps_produce hput (w.batch b)).bind ?_
        rintro ⟨w', lapse⟩
        split
        · exact ih _
        · exact h.keeps_interrupted.bind fun _ => ih _
        · exact keeps_throw _

/-- **A presentation keeps a view** that sees neither the statement nor its texts. -/
theorem keeps_present (hput : ∀ channel text, Keeps view (put channel text)) (w : Writer) :
    Keeps view (present w) := by
  have hall (p : Production Writer) : Keeps view (produceAll p) := by
    refine (keeps_produce (hput .out) p).bind ?_
    rintro ⟨w', lapse⟩
    split
    · exact keeps_pure _
    · exact keeps_throw _
  have htell (outcome : Outcome Binary64) : Keeps view (tellOutcome outcome) := by
    refine keeps_get.bind ?_
    intro shell
    split
    · exact keeps_pure _
    · exact keeps_write (hput _) _
  refine keeps_get.bind fun shell => (h.keeps_takeEvents (hput .out) _ w).bind ?_
  rintro ⟨w', came⟩
  exact keeps_get.bind fun shell =>
    (hall _).bind fun _ => (htell _).bind fun _ => keeps_pure _

theorem keeps_showResult (hput : ∀ channel text, Keeps view (put channel text))
    (hphase : ∀ shell phase, view { shell with phase } = view shell) : Keeps view showResult :=
  (keeps_enterPhase h.toUnaware hphase .rendering).bind fun _ =>
    (keeps_get.bind fun _ => keeps_pure _).bind fun w => h.keeps_present hput w

end Detached

end Keeping

/-! ## Counting -/

/-- **What is counted**: the failures, and the flushes of the results. -/
def tally (shell : Shell) : Nat × Nat := (shell.errors, shell.console.out.flushes)

theorem detached_tally : Detached tally where
  enter _ _ _ := rfl
  note shell n := congrArg (fun out : Sink => (shell.errors, out.flushes)) (shell.console.out_note n)
  source _ _ := rfl
  surroundings _ _ := rfl

theorem keeps_tally_put (channel : Channel) (text : Text) : Keeps tally (put channel text) := by
  refine keeps_modifyGet ?_
  intro shell
  refine congrArg (Prod.mk shell.errors) ?_
  unfold Console.put
  dsimp only
  split <;> cases channel <;> rfl

/-- **The outputs are flushed**, whether that fails or not. -/
theorem tally_flush (shell : Shell) : Ensures flush shell fun _ after =>
    after.tally = (shell.errors, shell.console.out.flushes + 1) := by
  have hsink (c : Channel) (shell : Shell) : Ensures (flushSink c) shell fun _ after =>
      after = { shell with console := (shell.console.flush c).2 } := by
    rw [flushSink, ensures_bind, ensures_modifyGet]
    dsimp only
    split <;> rfl
  have hcounted : ({ shell with console := (shell.console.flush .out).2 } : Shell).tally
      = (shell.errors, shell.console.out.flushes + 1) :=
    congrArg (Prod.mk shell.errors) shell.console.flushes_flush_out
  rw [flush, ensures_bind]
  refine (hsink .out shell).mono ?_
  rintro ended later rfl
  cases ended with
  | error e => exact hcounted
  | ok =>
    refine (hsink .err _).mono ?_
    rintro _ after rfl
    refine Eq.trans ?_ hcounted
    exact congrArg (fun out : Sink => (shell.errors, out.flushes)) (Console.out_flush_err _)

/-- **What follows a failure** that has been presented counts it, and flushes. -/
theorem tally_conclude {outcome : Outcome Binary64} {shell : Shell}
    (hfailure : outcome.isSuccess = false) (hshell : shell.console.IsFaultless) :
    Ensures (conclude outcome) shell fun _ after =>
      after.tally = (shell.errors + 1, shell.console.out.flushes + 1) := by
  rw [conclude, ensures_bind]
  refine ((calm_closeEvents shell hshell).and (detached_tally.keeps_closeEvents shell)).mono ?_
  rintro _ closed ⟨⟨-, -, rfl⟩, htally⟩
  obtain ⟨herrors, hflushes⟩ := Prod.mk.inj htally
  dsimp only
  rw [hfailure, if_pos Bool.not_false, ensures_bind, countError, ensures_modify]
  refine (tally_flush _).mono ?_
  intro _ after hafter
  rw [hafter]
  exact Prod.ext (congrArg (· + 1) herrors) (congrArg (· + 1) hflushes)

/-- **What follows a breakdown** counts it, and does not flush. -/
theorem tally_reportCrash (c : Crash) {shell : Shell} (hshell : shell.console.IsFaultless) :
    Ensures (followedBy (reportCrash c) closeEvents) shell fun _ after =>
      after.tally = (shell.errors + 1, shell.console.out.flushes) := by
  have hreported : Ensures (reportCrash c) shell fun _ after =>
      after.tally = (shell.errors + 1, shell.console.out.flushes) := by
    have hnote : Keeps tally (note .unexpected) := keeps_note _ fun shell =>
      detached_tally.note shell _
    rw [reportCrash, ensures_bind]
    refine ((calm_notice .unexpected shell hshell).and (hnote shell)).mono ?_
    rintro _ noted ⟨⟨-, -, rfl⟩, htally⟩
    obtain ⟨herrors, hflushes⟩ := Prod.mk.inj htally
    dsimp only
    rw [ensures_bind, countError, ensures_modify]
    refine (keeps_write (keeps_tally_put .err) _ _).mono ?_
    intro _ told htold
    rw [htold]
    exact Prod.ext (congrArg (· + 1) herrors) hflushes
  rw [followedBy, ensures_bind, ensures_attempt]
  refine hreported.mono ?_
  intro ended reported hreported
  dsimp only
  rw [ensures_bind]
  refine (detached_tally.keeps_closeEvents reported).mono ?_
  intro closed after hafter
  cases closed with
  | error e => exact hafter.trans hreported
  | ok => cases ended <;> exact hafter.trans hreported

/-! ## A statement over which the engine breaks down -/

section Breaking

variable {b : Breakdown} {c : Crash} {s : Text} {shell : Shell}

theorem keeps_tally_takeUp (s : Text) : Keeps tally (takeUp s) := by
  have hphase (phase : Phase) : Keeps tally (enterPhase phase) :=
    keeps_enterPhase detached_tally.toUnaware (fun _ _ => rfl) phase
  refine (hphase .dispatching).bind fun _ => Keeps.bind ?_ fun _ => ?_
  · exact keeps_modify fun _ => rfl
  · refine (keeps_enter _ fun _ => rfl).bind fun _ => (hphase .executing).bind fun _ => ?_
    exact keeps_modify fun _ => rfl

/-- **The statement is taken up**, and the engine will break down over it. -/
theorem breaking_takeUp (hshell : shell.Undisturbed) (hanswer : shell.answerTo s = b.answer c) :
    Ensures (takeUp s) shell fun ended begun => ended = .ok () ∧ begun.Undisturbed ∧
      begun.source = .execution (.fresh s {}) ∧ begun.answer s = b.answer c := by
  refine (ensures_takeUp s hshell.console.givesNotices).mono ?_
  rintro _ begun ⟨rfl, k, taken, rfl, hnature, -⟩
  refine ⟨rfl, ⟨?_, hshell.surroundings⟩, rfl, hanswer⟩
  exact (Console.isFaultless_congr hnature).2 hshell.console

/-- **One reply comes**, and it is an outcome if the engine has taken the statement. -/
theorem replies_to_breakdown (hshell : shell.Undisturbed)
    (hanswer : shell.answerTo s = b.answer c) :
    Ensures (takeUp s >>= fun _ => nextEvent) shell fun ended _ =>
      ∃ elapsed, ended = .ok (b.reply c elapsed) := by
  rw [ensures_bind]
  refine (breaking_takeUp hshell hanswer).mono ?_
  rintro _ begun ⟨rfl, hbegun, hsource, hgiven⟩
  dsimp only
  cases b with
  | atSubmission =>
    have hrefused (stream : ResultStream) : begun.answer s ≠ .accepted stream := by
      rw [hgiven]
      exact nofun
    refine (gets_refusal hbegun hsource hrefused).mono ?_
    rintro ended after ⟨-, elapsed, hended⟩
    rw [hgiven] at hended
    exact ⟨elapsed, hended⟩
  | inStream closable =>
    refine (gets_nextEvent hbegun (.fresh s hsource hgiven nofun rfl)).mono ?_
    intro ended after hgets
    rcases hgets.batch_or_outcome with ⟨batch, r, -, hahead, -⟩ | ⟨elapsed, rfl, -⟩
    · simp at hahead
    · exact ⟨elapsed, rfl⟩

/-- **A breakdown is counted once**, and what has been presented is flushed. -/
theorem tally_statement (hshell : shell.Undisturbed) (hanswer : shell.answerTo s = b.answer c) :
    Ensures (handle (.statement s)) shell fun _ after =>
      after.tally = (shell.errors + 1, shell.console.out.flushes + b.flushes) := by
  rw [handle_statement, ensures_bind]
  refine ((breaking_takeUp hshell hanswer).and (keeps_tally_takeUp s shell)).mono ?_
  rintro _ begun ⟨⟨rfl, hbegun, hsource, hgiven⟩, htaken⟩
  have hopen (stream : ResultStream) (h : begun.answer s = .accepted stream) :
      stream.ending ≠ .blocked := b.unblocked (hgiven.symm.trans h)
  dsimp only
  rw [ensures_bind, ensures_attempt]
  refine ((displays_showResult hbegun hsource hopen).and
    (detached_tally.keeps_showResult keeps_tally_put (fun _ _ => rfl) begun)).mono ?_
  rintro ended shown ⟨⟨elapsed, rfl, hshows⟩, hshown⟩
  obtain ⟨herrors, hflushes⟩ := Prod.mk.inj (hshown.trans htaken)
  rw [hgiven, ← herrors, ← hflushes]
  -- Only an outcome is concluded; a breakdown of the events is reported by itself.
  cases b with
  | atSubmission => exact tally_reportCrash c hshows.undisturbed.console
  | inStream closable =>
    rw [Production.ends_of_whole (Breakdown.whole_inStream closable c _ _ _)]
    exact tally_conclude rfl hshows.undisturbed.console

/-- **A session bears a breakdown** over a statement: one line and one failure, and
    for the rest it is as after any other statement. -/
structure IsBorne (b : Breakdown) (c : Crash) (s : Text) (before after : Shell) : Prop where
  printed (channel : Channel) : after.console.printed channel
    = before.console.printed channel ++ textsOn .err [errorLine (b.message c)] channel
  errors : after.errors = before.errors + 1
  flushes : after.console.out.flushes = before.console.out.flushes + b.flushes
  session : after.session = before.session.record s
  buffer : after.buffer = before.buffer
  lasting : after.lasting = before.lasting
  undisturbed : after.Undisturbed
  isOver : after.source.IsOver (before.answerTo s)

/-- **A breakdown of the engine before the first batch is borne**, whatever the
    statement, the format and the kind and the detail of the breakdown, by a session
    that nothing else disturbs. Of the two places of a breakdown only the stream has it
    told as a failure of the execution: then the only event is an outcome, and the
    outputs are flushed. -/
theorem breakdown_is_borne (b : Breakdown) (c : Crash) (s : Text) (shell : Shell)
    (hshell : shell.Undisturbed) (hanswer : shell.answerTo s = b.answer c) :
    Ensures (handle (.statement s)) shell (fun ended after =>
      ended = .ok () ∧ IsBorne b c s shell after) ∧
    Ensures (takeUp s >>= fun _ => nextEvent) shell fun ended _ =>
      ∃ elapsed, ended = .ok (b.reply c elapsed) := by
  refine ⟨?_, replies_to_breakdown hshell hanswer⟩
  have hshows := shows_statement s hshell fun stream h => b.unblocked (hanswer.symm.trans h)
  have hdeals : Ensures (handle (.statement s)) shell (Deals [] shell (.ok (.statement s))) :=
    deals_statement s hshell.console.givesNotices hshell.surroundings.limitFault
  refine ((hshows.and hdeals).and (tally_statement hshell hanswer)).mono ?_
  rintro _ after ⟨⟨⟨rfl, hundisturbed, elapsed, hprinted⟩, hdealt⟩, htally⟩
  obtain ⟨added, hdealt⟩ := hdealt.resolve_left fun hstalls => nomatch hstalls.1
  obtain ⟨herrors, hflushes⟩ := Prod.mk.inj htally
  have hafter : after.answer s = shell.answerTo s := by
    have hengine : after.engine = shell.engine := congrArg Lasting.engine hdealt.lasting
    rw [answer, answerTo, hdealt.session, hengine]
    rfl
  refine ⟨rfl, ?_, herrors, hflushes, hdealt.session, hdealt.buffer, hdealt.lasting, hundisturbed,
    hafter ▸ hdealt.passes.1⟩
  intro channel
  rw [hprinted, hanswer, b.shown_eq]

end Breaking

/-- A shell whose engine breaks down over every statement. -/
@[irreducible] def breakingShell (b : Breakdown) (c : Crash) : Shell where
  engine := { submit := fun _ _ => b.answer c }
  surroundings := { reading := fun _ => Binary64.zero }

theorem undisturbed_breakingShell (b : Breakdown) (c : Crash) :
    (breakingShell b c).Undisturbed := by
  unfold breakingShell
  exact ⟨⟨⟨fun _ => rfl, fun _ => rfl⟩, ⟨fun _ => rfl, fun _ => rfl⟩⟩,
    ⟨List.not_mem_nil, fun _ _ => List.not_mem_nil, rfl, rfl⟩⟩

theorem answerTo_breakingShell (b : Breakdown) (c : Crash) (s : Text) :
    (breakingShell b c).answerTo s = b.answer c := by
  unfold breakingShell
  rfl

/-- Nothing has been counted or printed yet. -/
theorem fresh_breakingShell (b : Breakdown) (c : Crash) : (breakingShell b c).errors = 0 ∧
    (breakingShell b c).console.out.flushes = 0 ∧
    (breakingShell b c).console.printed .err = [] := by
  unfold breakingShell
  exact ⟨rfl, rfl, rfl⟩

/-- A stream that lacks a key whose name has to be quoted. -/
theorem breakdown_is_borne_missingKey :
    (breakingShell (.inStream false) ⟨.missingKey, "it's".toList⟩).Undisturbed ∧
    (breakingShell (.inStream false) ⟨.missingKey, "it's".toList⟩).answerTo "select 1".toList
      = (Breakdown.inStream false).answer ⟨.missingKey, "it's".toList⟩ ∧
    Ensures (handle (.statement "select 1".toList))
      (breakingShell (.inStream false) ⟨.missingKey, "it's".toList⟩) fun ended after =>
        ended = .ok () ∧ after.errors = 1 ∧ after.console.out.flushes = 1 ∧
        after.console.printed .err
          = ["Error: Execution error: KeyError: \"it's\"\n".toList] := by
  have hshell := undisturbed_breakingShell (.inStream false) ⟨.missingKey, "it's".toList⟩
  have hanswer := answerTo_breakingShell (.inStream false) ⟨.missingKey, "it's".toList⟩
    "select 1".toList
  obtain ⟨herrors, hflushes, hprinted⟩ :=
    fresh_breakingShell (.inStream false) ⟨.missingKey, "it's".toList⟩
  refine ⟨hshell, hanswer, ?_⟩
  refine (breakdown_is_borne (.inStream false) _ "select 1".toList _ hshell hanswer).1.mono ?_
  rintro _ after ⟨rfl, hborne⟩
  refine ⟨rfl, ?_, ?_, ?_⟩
  · rw [hborne.errors, herrors]
  · rw [hborne.flushes, hflushes]
    rfl
  · rw [hborne.printed, hprinted]
    decide +kernel

/-- **The two places of a breakdown are told apart**: with the same detail another line
    is shown, and only a statement that the engine has taken ends with a flush. -/
theorem breakdown_told_apart :
    (∃ after, run false [.line "select 1;".toList]
        (breakingShell .atSubmission ⟨.general, "boom".toList⟩) = .ok exitOk after ∧
      after.console.printed .err = ["Error: RuntimeError: boom\n".toList] ∧
      after.console.out.flushes = 0) ∧
    ∃ after, run false [.line "select 1;".toList]
        (breakingShell (.inStream true) ⟨.general, "boom".toList⟩) = .ok exitOk after ∧
      after.console.printed .err = ["Error: Execution error: RuntimeError: boom\n".toList] ∧
      after.console.out.flushes = 1 := by
  have hruns (b : Breakdown) (line : Text) (flushes : Nat)
      (h : passes (run false [.line "select 1;".toList])
        (breakingShell b ⟨.general, "boom".toList⟩) (fun code after => code = exitOk &&
          decide (after.console.printed .err = [line]) &&
          after.console.out.flushes = flushes) = true) :
      ∃ after, run false [.line "select 1;".toList]
          (breakingShell b ⟨.general, "boom".toList⟩) = .ok exitOk after ∧
        after.console.printed .err = [line] ∧ after.console.out.flushes = flushes := by
    obtain ⟨code, after, hrun, htest⟩ := exists_of_passes _ _ _ h
    simp only [Bool.and_eq_true, decide_eq_true_eq] at htest
    obtain ⟨⟨rfl, hprinted⟩, hflushes⟩ := htest
    exact ⟨after, hrun, hprinted, hflushes⟩
  exact ⟨hruns .atSubmission _ 0 (by decide +kernel), hruns (.inStream true) _ 1 (by decide +kernel)⟩

end Shell

end SqlShell
