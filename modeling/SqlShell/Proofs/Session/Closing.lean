import SqlShell.Proofs.Session.Looping

/-! # The End of a Session

    However the main loop ends, the session is closed: its statements are saved,
    then the engine is closed, and at last the input.

    * **`closes_terminate`** is the end itself.
    * **`told_run`**: a whole session is its main loop and its end, and a chronicle
      tells of it.
    * **`closes_in_order`**: every session is closed in order. -/

namespace SqlShell

/-- **The history file never breaks down**: an attempt to use it may fail, but it is
    made. -/
def HistoryFile.NeverBreaks (file : HistoryFile) : Prop :=
  ∀ n f, file.fault n = some f → f.isBreakdown = false

theorem Session.saveHistory_fault {s : Session} {file : HistoryFile} {path : Text} {f : FileFault}
    (h : (s.saveHistory file).fault = some (path, f)) : ∃ n, file.fault n = some f := by
  unfold saveHistory at h
  split at h
  case h_1 =>
    dsimp only at h
    split at h
    case h_1 f' hf =>
      obtain ⟨-, rfl⟩ : _ = path ∧ f' = f := by simpa using h
      exact ⟨_, hf⟩
    case h_2 => cases h
  case h_2 => cases h

namespace Shell

variable {shell after : Shell}

/-- **A session is closed**: its statements are saved, then the engine is closed and
    at last the input, and nothing is written or offered.  Only a history file that
    breaks down leaves the engine open.  A statement that is held up stays so. -/
def Closes (shell : Shell) (ended : Except Exit Unit) (after : Shell) : Prop :=
  after.source = shell.source ∧ after.session.history = shell.session.history ∧
  ∃ text closing, after.console.entries = shell.console.entries ++ closing ∧ AreQuiet closing ∧
    (ended = .ok () ∧
        closing.filter Entry.isMilestone = [.saved text, .engineClosed, .inputClosed] ∨
      ¬ shell.historyFile.NeverBreaks ∧
        closing.filter Entry.isMilestone = [.saved text, .inputClosed])

/-- Saving the statements leaves one milestone. -/
theorem murmurs_saveHistory (hnotices : shell.console.GivesNotices) :
    Ensures saveHistory shell fun ended after =>
      (ended = .ok (shell.session.saveHistory shell.historyFile).written ∨
        ¬ shell.historyFile.NeverBreaks) ∧
      Murmurs [.saved (shell.session.saveHistory shell.historyFile).text]
        { shell with
          session := (shell.session.saveHistory shell.historyFile).session
          historyFile := (shell.session.saveHistory shell.historyFile).file } after := by
  unfold saveHistory
  rw [ensures_bind, ensures_get]
  dsimp only
  have hfault (path : Text) (f : FileFault)
      (h : (shell.session.saveHistory shell.historyFile).fault = some (path, f))
      (hbreaks : f.isBreakdown = true) : ¬ shell.historyFile.NeverBreaks := by
    obtain ⟨n, hn⟩ := Session.saveHistory_fault h
    intro hnever
    simp [hnever n f hn] at hbreaks
  generalize shell.session.saveHistory shell.historyFile = result at hfault ⊢
  rw [ensures_bind, ensures_set]
  dsimp only
  rw [ensures_bind]
  refine (murmurs_enter (e := .saved result.text) rfl rfl _).mono ?_
  rintro _ entered ⟨rfl, hentered⟩
  dsimp only
  have hgives := hentered.givesNotices (by exact hnotices)
  split
  case h_1 path f hf =>
    split
    case isTrue hbreaks => exact ⟨.inr (hfault path f hf hbreaks), hentered⟩
    case isFalse =>
      rw [ensures_bind]
      refine (murmurs_note rfl hgives).mono ?_
      rintro _ noted ⟨rfl, hnoted⟩
      exact ⟨.inl rfl, hentered.trans hnoted⟩
  case h_2 => exact ⟨.inl rfl, hentered⟩

theorem murmurs_closeEngine (hnotices : shell.console.GivesNotices) :
    Ensures closeEngine shell fun ended after =>
      ended = .ok () ∧ Murmurs [.engineClosed] shell after := by
  show Ensures closeEngine shell fun ended after =>
    ended = .ok () ∧ Murmurs ([.engineClosed] ++ []) shell after
  refine Murmurs.bind hnotices (murmurs_enter rfl rfl shell) ?_
  intro later hlater
  rw [ensures_bind, ensures_get]
  dsimp only
  split
  · exact murmurs_note rfl hlater
  · exact ⟨rfl, murmurs_refl later⟩

/-- **The end of a session.** -/
theorem closes_terminate (hnotices : shell.console.GivesNotices) :
    Ensures terminate shell (Closes shell) := by
  unfold terminate
  rw [ensures_bind]
  refine (ensures_enterPhase .terminating hnotices).mono ?_
  rintro _ left ⟨rfl, k, noted, rfl, hnature, hentries, hnoted, -⟩
  dsimp only
  have hgives : k.GivesNotices := (Console.givesNotices_congr hnature).2 hnotices
  -- What has been murmured since then is quiet, and so is the notice before.
  have hclosing {miles : List Entry} {left after : Shell} (h : Murmurs miles left after)
      (hmiles : ∀ text, .offered text ∉ miles) (hleft : left.console = k)
      (hsource : left.source = shell.source)
      (hhistory : left.session.history = shell.session.history) :
      after.source = shell.source ∧ after.session.history = shell.session.history ∧
      ∃ closing, after.console.entries = shell.console.entries ++ closing ∧ AreQuiet closing ∧
        closing.filter Entry.isMilestone = miles := by
    obtain ⟨k', more, rfl, -, hmore, hsilent, rfl⟩ := h
    refine ⟨hsource, hhistory, noted ++ more, ?_, ?_, ?_⟩
    · rw [hmore, hleft, hentries, List.append_assoc]
    · intro e he
      refine (List.mem_append.1 he).elim (hnoted.areQuiet e) ?_
      exact areQuiet_of_miles (fun e he => (hsilent e he).1) hmiles e
    · rw [List.filter_append, hnoted.filter_isMilestone, List.nil_append]
  unfold followedBy closeSession
  rw [ensures_bind, ensures_attempt, ensures_bind]
  refine (murmurs_saveHistory (by exact hgives)).mono ?_
  rintro ended saved ⟨hok, hsaved⟩
  have hhistory := Session.history_saveHistory shell.session shell.historyFile
  cases ended with
  | error e =>
    -- The history file has broken down, and the engine is passed over.
    dsimp only
    rw [ensures_bind]
    refine (murmurs_enter (e := .inputClosed) rfl rfl saved).mono ?_
    rintro _ after ⟨rfl, hafter⟩
    obtain ⟨hsource, hhistory, closing, hadded, hquiet, hmiles⟩ :=
      hclosing (hsaved.trans hafter) (by simp) rfl rfl hhistory
    exact ⟨hsource, hhistory, _, closing, hadded, hquiet, .inr ⟨hok.resolve_left nofun, hmiles⟩⟩
  | ok n =>
    dsimp only
    refine (murmurs_closeEngine (hsaved.givesNotices (by exact hgives))).mono ?_
    rintro _ closed ⟨rfl, hclosed⟩
    dsimp only
    rw [ensures_bind]
    refine (murmurs_enter (e := .inputClosed) rfl rfl closed).mono ?_
    rintro _ after ⟨rfl, hafter⟩
    obtain ⟨hsource, hhistory, closing, hadded, hquiet, hmiles⟩ :=
      hclosing ((hsaved.trans hclosed).trans hafter) (by simp) rfl rfl hhistory
    exact ⟨hsource, hhistory, _, closing, hadded, hquiet, .inl ⟨rfl, hmiles⟩⟩

/-- **How a session ends** whose main loop has ended in this way. -/
def endOf (failOnError : Bool) (stopped : Except Exit Unit) (last : Shell) : Except Exit Nat :=
  match stopped with
  | .ok () => .ok (last.codeOf failOnError)
  | .error (.outputLost _) => .ok exitOutputLost
  | .error e => .error e

/-- **The chronicle of a session.** -/
structure Chronicle where
  /-- The input, with an interruption put in where a prompt has been struck off. -/
  input : List InputLine
  /-- The requests that have been dealt with. -/
  chapters : List Chapter
  /-- What the main loop has added to the transcript. -/
  entries : List Entry
  /-- How the main loop has ended, and in which shell. -/
  stopped : Except Exit Unit
  last : Shell
  /-- What the end of the session has added to the transcript. -/
  closing : List Entry

/-- **A chronicle tells of a session** on some input. -/
structure Chronicle.Tells (c : Chronicle) (mayBreak : Prop) (shell : Shell) (failOnError : Bool)
    (input : List InputLine) (ended : Except Exit Nat) (after : Shell) : Prop where
  unfolds : Unfolds mayBreak [] shell c.chapters c.entries c.stopped c.last
  interrupted : Interrupted input c.input
  same : c.input = input ∨ shell.writesPrompts = true ∧ ∃ e ∈ c.entries, e.isStruck = true
  serves : Serves (requestsFrom shell.buffer c.input) c.chapters c.stopped c.last
  transcript : after.console.entries = shell.console.entries ++ (c.entries ++ c.closing)
  quiet : AreQuiet c.closing
  miles : ∃ text,
    c.closing.filter Entry.isMilestone = [.saved text, .engineClosed, .inputClosed] ∨
      ¬ shell.historyFile.NeverBreaks ∧
        c.closing.filter Entry.isMilestone = [.saved text, .inputClosed]
  ended : shell.historyFile.NeverBreaks → ended = endOf failOnError c.stopped c.last

section Running

variable {mayBreak : Prop} {input : List InputLine}

theorem fit_nil (hnotices : shell.console.GivesNotices)
    (hlimit : shell.surroundings.limitFault = none)
    (hbreak : shell.writesPrompts = true → ∀ c f,
      shell.console.Allows (.unwritten c (.fault f)) → mayBreak) : Fit mayBreak [] shell where
  notices := hnotices
  limit := hlimit
  poised := by
    rintro - e ⟨-, h | ⟨-, earlier, prompt, h⟩⟩
    · cases h
    · simp at h
  breaks := hbreak

/-- The loss of the output is noted. -/
theorem murmurs_runLoop {Q : Except Exit Unit → Shell → Prop} (failOnError : Bool)
    (h : Ensures (loop input) shell Q)
    (hnotices : ∀ stopped last, Q stopped last → last.console.GivesNotices) :
    Ensures (runLoop failOnError input) shell fun ended after => ∃ stopped last, Q stopped last ∧
      Murmurs [] last after ∧ ended = endOf failOnError stopped last := by
  unfold runLoop
  rw [ensures_bind, ensures_attempt]
  refine h.mono ?_
  intro stopped last hstopped
  match stopped with
  | .ok () => exact ⟨_, last, hstopped, murmurs_refl last, rfl⟩
  | .error (.outputLost f) =>
    dsimp only
    rw [ensures_bind]
    refine (murmurs_note rfl (hnotices _ last hstopped)).mono ?_
    rintro _ after ⟨rfl, hafter⟩
    exact ⟨_, last, hstopped, hafter, rfl⟩
  | .error .interrupted | .error .stalled | .error (.crashed c) =>
    exact ⟨_, last, hstopped, murmurs_refl last, rfl⟩

theorem Runs.lasting {stopped : Except Exit Unit} {last : Shell}
    (h : Runs mayBreak [] shell input stopped last) : last.lasting = shell.lasting := by
  rcases h with ⟨-, -, hlasting⟩ | ⟨-, chapters, added, hunfolds, -⟩
  · exact hlasting
  · exact hunfolds.amountsTo.lasting

/-- **A whole session is told**: by a chronicle, unless the engine holds a statement
    of it up. -/
def Told (mayBreak : Prop) (shell : Shell) (failOnError : Bool) (input : List InputLine)
    (ended : Except Exit Nat) (after : Shell) : Prop :=
  (∃ statement, shell.engine.HoldsUp statement after) ∧
    (shell.historyFile.NeverBreaks → ended = .error .stalled) ∨
  ∃ c : Chronicle, c.Tells mayBreak shell failOnError input ended after

/-- The end of a session completes what its main loop tells. -/
theorem Runs.told {failOnError : Bool} {stopped closed : Except Exit Unit}
    {last later after : Shell} {ended : Except Exit Nat}
    (hruns : Runs mayBreak [] shell input stopped last) (hmurmurs : Murmurs [] last later)
    (hclosed : Closes later closed after) (hfile : later.historyFile = shell.historyFile)
    (hended : shell.historyFile.NeverBreaks → ended = endOf failOnError stopped last) :
    Told mayBreak shell failOnError input ended after := by
  obtain ⟨hsource, hhistory, text, closing, hentries, hquiet, hmiles⟩ := hclosed
  rw [hfile] at hmiles
  obtain ⟨k, more, rfl, -, hmore, hsilent, hnone⟩ := hmurmurs
  have hadded : after.console.entries = last.console.entries ++ (more ++ closing) := by
    rw [hentries, hmore, List.append_assoc]
  rcases hruns with ⟨rfl, ⟨statement, hheld⟩, -⟩ |
    ⟨input', chapters, added, hunfolds, hinterrupted, hsame, hserves⟩
  · exact .inl ⟨⟨statement, hheld.of_append hadded hsource hhistory⟩, hended⟩
  refine .inr ⟨⟨input', chapters, added, stopped, last, more ++ closing⟩, hunfolds, hinterrupted,
    hsame, hserves, ?_, ?_, ⟨text, ?_⟩, hended⟩
  · rw [hadded, hunfolds.amountsTo.entries, List.append_assoc]
  · intro e he
    refine (List.mem_append.1 he).elim ?_ (hquiet e)
    exact areQuiet_of_miles (fun e he => (hsilent e he).1) (by simp [hnone]) e
  · rw [List.filter_append, hnone, List.nil_append]
    exact hmiles.imp_left And.right

/-- **Every session is told.** -/
theorem told_run (failOnError : Bool) (hcrash : ∀ c, .crash c ∈ input → mayBreak)
    (hfit : Fit mayBreak [] shell) :
    Ensures (run failOnError input) shell (Told mayBreak shell failOnError input) := by
  have hgives (stopped : Except Exit Unit) (last : Shell)
      (h : Runs mayBreak [] shell input stopped last) : last.console.GivesNotices :=
    (Console.givesNotices_congr (congrArg Lasting.nature h.lasting)).2 hfit.notices
  unfold run followedBy
  rw [ensures_bind, ensures_attempt]
  refine (murmurs_runLoop failOnError (runs_loop input hcrash hfit) hgives).mono ?_
  rintro stop later ⟨stopped, last, hruns, hmurmurs, hstop⟩
  dsimp only
  have hfile : later.historyFile = shell.historyFile := by
    have hsame : last.historyFile = shell.historyFile := congrArg Lasting.historyFile hruns.lasting
    obtain ⟨k, more, rfl, -⟩ := hmurmurs
    exact hsame
  rw [ensures_bind]
  refine (closes_terminate (hmurmurs.givesNotices (hgives stopped last hruns))).mono ?_
  intro closed after hclosed
  -- An end that breaks down takes the place of what the main loop has come to.
  cases closed with
  | ok => cases stop <;> exact hruns.told hmurmurs hclosed hfile fun _ => hstop
  | error e =>
    refine hruns.told hmurmurs hclosed hfile fun hnever => ?_
    obtain ⟨-, -, text, closing, -, -, ⟨hok, -⟩ | ⟨hbreaks, -⟩⟩ := hclosed
    · cases hok
    · exact absurd (hfile ▸ hnever) hbreaks

/-- So is one that is started with a format that there is. -/
theorem told_start {format : InitialFormat} {f : ResultFormat} (failOnError : Bool)
    (hformat : format.resolve = .ok f) (hcrash : ∀ c, .crash c ∈ input → mayBreak)
    (hfit : Fit mayBreak [] shell) :
    Ensures (start format failOnError input) shell
      (Told mayBreak { shell with session := { shell.session with format := f } } failOnError
        input) := by
  have hfit' : Fit mayBreak [] { shell with session := { shell.session with format := f } } :=
    ⟨hfit.notices, hfit.limit, hfit.poised, hfit.breaks⟩
  unfold start
  rw [hformat]
  dsimp only
  rw [ensures_bind, ensures_modify]
  exact told_run failOnError hcrash hfit'

end Running

/-! ## Orderly sessions -/

end Shell

/-- The milestones of a chapter. -/
def Chapter.miles (c : Chapter) : List Entry := c.entries.filter Entry.isMilestone

/-- **A chapter is orderly**: a statement has been recorded before it was offered to
    the engine, and if the engine has taken it, its execution is over. -/
def Chapter.IsOrderly (c : Chapter) : Prop :=
  match c.request with
  | .ok (.statement s) => c.after.source.IsOver (c.after.answer s) ∧
    (c.miles = [.recorded s] ∨
      c.miles = [.recorded s, .offered s] ∧ (∀ stream, c.after.answer s ≠ .accepted stream) ∨
      ∃ stream report, c.after.answer s = .accepted stream ∧ report.statement = s ∧
        report.closed = stream.closable ∧
        c.miles = [.recorded s, .offered s, .submitted s, .executed report])
  | _ => c.miles = []

namespace Shell

variable {shell : Shell}

theorem Dealt.isOrderly {c : Chapter} {past added : List Entry}
    (h : Dealt past c.before c.request added c.ended c.after) : c.IsOrderly := by
  obtain ⟨request, before, ended, after⟩ := c
  have hmiles : Chapter.miles ⟨request, before, ended, after⟩ = added.filter Entry.isMilestone := by
    simp [Chapter.miles, Chapter.entries, h.entries]
  have hpasses := h.passes
  unfold Chapter.IsOrderly
  rw [hmiles]
  cases request with
  | error e => exact hpasses.1
  | ok input =>
    cases input with
    | command c => exact hpasses.1
    | empty => exact hpasses.1
    | statement s =>
      obtain ⟨hover, miles, hadded, hreached⟩ := hpasses
      refine ⟨hover, ?_⟩
      rw [hadded]
      rcases hreached.of_isOver hover with rfl | ⟨rfl, hrefused⟩ |
        ⟨stream, report, haccepted, hnamed, hclosed, rfl⟩
      · exact .inl rfl
      · exact .inr (.inl ⟨rfl, hrefused⟩)
      · exact .inr (.inr ⟨stream, report, haccepted, hnamed, hclosed, rfl⟩)

/-- **Every session is closed in order**, whatever its input holds, however its
    engine answers, and whichever writes and flushes fail or are interrupted, as long
    as notices are given, the history file does not break down and the engine does not
    hold a statement of it up. The transcript tells of its chapters, each of which is
    over before the next one, then of the saving of the statements, and of the engine
    and the input that are closed. -/
theorem closes_in_order (failOnError : Bool) (input : List InputLine) (shell : Shell)
    (hnotices : shell.console.GivesNotices) (hlimit : shell.surroundings.limitFault = none)
    (hfile : shell.historyFile.NeverBreaks) :
    Ensures (run failOnError input) shell fun ended after =>
      (ended = .error .stalled ∧ ∃ statement, shell.engine.HoldsUp statement after) ∨
      ∃ chapters added stopped last closing text,
        Unfolds True [] shell chapters added stopped last ∧
        after.console.entries = shell.console.entries ++ (added ++ closing) ∧
        (added ++ closing).filter Entry.isMilestone
          = chapters.flatMap Chapter.miles ++ [.saved text, .engineClosed, .inputClosed] ∧
        ∀ c ∈ chapters, c.IsOrderly := by
  have hfit : Fit True [] shell := fit_nil hnotices hlimit fun _ _ _ _ => trivial
  refine (told_run failOnError (fun _ _ => trivial) hfit).mono ?_
  rintro ended after (⟨hheld, hstalled⟩ | ⟨c, htells⟩)
  · exact .inl ⟨hstalled hfile, hheld⟩
  have hamounts := htells.unfolds.amountsTo
  obtain ⟨text, hmiles⟩ := htells.miles
  have hclosing := hmiles.resolve_right fun hbreaks => hbreaks.1 hfile
  refine .inr ⟨c.chapters, c.entries, c.stopped, c.last, c.closing, text, htells.unfolds,
    htells.transcript, ?_, ?_⟩
  · rw [List.filter_append, hamounts.miles, hclosing]
    rfl
  · intro chapter hchapter
    obtain ⟨⟨past, added, hdealt⟩, -⟩ := hamounts.chapters chapter hchapter
    exact hdealt.isOrderly

/-- An action ends early and passes a test, which can be run. -/
def breaksOff {α : Type} (action : ShellM α) (shell : Shell) (test : Exit → Shell → Bool) : Bool :=
  match action shell with
  | .ok _ _ => false
  | .error e after => test e after

theorem exists_of_breaksOff {α : Type} (action : ShellM α) (shell : Shell)
    (test : Exit → Shell → Bool) (h : breaksOff action shell test = true) :
    ∃ e after, action shell = .error e after ∧ test e after = true := by
  unfold breaksOff at h
  split at h
  case h_1 => cases h
  case h_2 e after he => exact ⟨e, after, he, h⟩

/-- A shell with an engine that completes every statement without a batch. -/
def completingShell : Shell where
  engine := { submit := fun _ _ => .accepted { batches := [], ending := .complete } }
  surroundings := { reading := fun _ => Binary64.zero }

theorem not_blocks_completingShell : ¬ completingShell.engine.Blocks := by
  rintro ⟨history, statement, stream, h, hblocked⟩
  cases h
  cases hblocked

/-- A shell whose first text is interrupted, and whose output is lost with the third. -/
@[irreducible] def losingShell : Shell :=
  { completingShell with
    console.out.writeFault := fun n =>
      if n = 0 then some .interrupt else if n = 2 then some (.fault .brokenPipe) else none }

/-- A session whose output is lost is closed in order. -/
theorem closes_in_order_lost_output : losingShell.console.GivesNotices ∧
    losingShell.surroundings.limitFault = none ∧ losingShell.historyFile.NeverBreaks ∧
    Ensures (run true [.line "select 1; select 2; select 3;".toList]) losingShell fun _ after =>
      ∃ chapters added stopped last closing text,
        Unfolds True [] losingShell chapters added stopped last ∧
        after.console.entries = losingShell.console.entries ++ (added ++ closing) ∧
        (added ++ closing).filter Entry.isMilestone
          = chapters.flatMap Chapter.miles ++ [.saved text, .engineClosed, .inputClosed] ∧
        ∀ c ∈ chapters, c.IsOrderly := by
  have hnotices : losingShell.console.GivesNotices := by
    unfold losingShell
    exact nofun
  have hlimit : losingShell.surroundings.limitFault = none := by
    unfold losingShell
    rfl
  have hfile : losingShell.historyFile.NeverBreaks := by
    unfold losingShell
    exact nofun
  have hblocks : ¬ losingShell.engine.Blocks := by
    unfold losingShell
    exact not_blocks_completingShell
  refine ⟨hnotices, hlimit, hfile, ?_⟩
  refine (closes_in_order true _ losingShell hnotices hlimit hfile).mono ?_
  exact fun ended after h => h.resolve_left fun ⟨_, _, hheld⟩ => hblocks hheld.engine_blocks

/-- A shell with a history file whose path cannot even be looked for. -/
def unsavingShell : Shell :=
  { completingShell with
    session := { settings := { historyFile := some ['a', Char.ofNat 0, 'b'] } }
    historyFile := { fault := fun _ => some .noPath } }

/-- **If the history file breaks down the engine is not closed.** -/
theorem engine_left_open : ∃ after,
    run false [.line "select 1;".toList] unsavingShell
      = .error (.crashed ⟨.badValue, "embedded null byte".toList⟩) after ∧
    .submitted "select 1".toList ∈ after.console.entries ∧
    .engineClosed ∉ after.console.entries := by
  obtain ⟨e, after, hrun, htest⟩ := exists_of_breaksOff
    (run false [.line "select 1;".toList]) unsavingShell (fun e after =>
      e = .crashed ⟨.badValue, "embedded null byte".toList⟩ &&
      decide (.submitted "select 1".toList ∈ after.console.entries) &&
      decide (.engineClosed ∉ after.console.entries)) (by decide +kernel)
  simp only [Bool.and_eq_true, decide_eq_true_eq] at htest
  obtain ⟨⟨rfl, hsubmitted⟩, hclosed⟩ := htest
  exact ⟨after, hrun, hsubmitted, hclosed⟩

end Shell

end SqlShell
