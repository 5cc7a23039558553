import SqlShell.Proofs.Session.Trace

/-! # The Course of a Statement

    What becomes of a statement while its events are asked for, whichever writes
    fail in between.

    * **`Reached`** says how far a statement has got, and which milestones it has
      passed on its way.
    * **`Continues`** says that a statement has got further, and that nothing has
      been written meanwhile.
    * **`replies_nextEvent`** and **`proceeds_closeEvents`**: a request for an event
      is answered, and giving the statement up ends its execution. -/

namespace SqlShell

/-! ## How far a statement has got -/

/-- **How far a statement has got**: where its events come from, and the
    milestones that it has passed. -/
inductive Reached (statement : Text) (answer : Submission) : EventSource → List Entry → Prop where
  /-- Nobody has asked for its events yet. -/
  | fresh (c : Cancellation) : Reached statement answer (.execution (.fresh statement c)) []
  /-- It was given up before anybody did. -/
  | dropped (c : Cancellation) : Reached statement answer (.execution (.ended c)) []
  /-- The engine has not taken it. -/
  | ended (c : Cancellation) (h : ∀ stream, answer ≠ .accepted stream) :
      Reached statement answer (.execution (.ended c)) [.offered statement]
  /-- The engine has taken it. -/
  | running (stream : ResultStream) (r : Running Binary64) (h : answer = .accepted stream)
      (hr : r.Sound stream statement) : Reached statement answer (.execution (.running r))
        ([.offered statement, .submitted statement] ++ r.reports.map .executed)

/-- The control of a running statement waits for its consumer. -/
def EventSource.IsResting (source : EventSource) : Prop :=
  ∀ r, source = .execution (.running r) → r.isAtRest = true

theorem EventSource.isResting_ended (c : Cancellation) :
    (EventSource.execution (.ended c)).IsResting := by
  intro r h
  cases h

/-- A raised flag does not wake the control up. -/
theorem EventSource.IsResting.raise {source : EventSource} (h : source.IsResting) (reason : Text) :
    (source.raise reason).IsResting := by
  intro r hr
  cases source with
  | recording items flag => simp [EventSource.raise] at hr
  | execution x =>
    cases x with
    | fresh | ended => simp [EventSource.raise, Execution.raise] at hr
    | running r' =>
      obtain rfl : r'.raise reason = r := by simpa [EventSource.raise, Execution.raise] using hr
      exact h r' rfl

/-- **A statement is at work**: it is executed, its control is not at rest, and its
    query has not been told to stop. -/
def EventSource.IsAtWork (statement : Text) (source : EventSource) : Prop :=
  ∃ r, source = .execution (.running r) ∧ r.statement = statement ∧ r.isAtRest = false ∧
    r.stops = 0

/-- **Nothing of an execution goes on.** -/
def EventSource.IsOver (answer : Submission) : EventSource → Prop
  | .execution (.running r) => ∃ stream, answer = .accepted stream ∧ r.IsOver stream
  | .execution (.ended _) => True
  | _ => False

section Reaching

variable {statement : Text} {answer : Submission} {source : EventSource} {past : List Entry}

/-- A statement that is running has been taken by the engine. -/
theorem Reached.of_running {r : Running Binary64}
    (h : Reached statement answer (.execution (.running r)) past) : ∃ stream,
      answer = .accepted stream ∧ r.Sound stream statement ∧
      past = [.offered statement, .submitted statement] ++ r.reports.map .executed := by
  cases h with
  | running stream _ ha hr => exact ⟨stream, ha, hr, rfl⟩

/-- **An execution that is over** has passed all its milestones. -/
theorem Reached.of_isOver (h : Reached statement answer source past)
    (hover : source.IsOver answer) :
    past = [] ∨ (past = [.offered statement] ∧ ∀ stream, answer ≠ .accepted stream) ∨
      ∃ stream report, answer = .accepted stream ∧ report.statement = statement ∧
        report.closed = stream.closable ∧
        past = [.offered statement, .submitted statement, .executed report] := by
  cases h with
  | fresh c => exact hover.elim
  | dropped c => exact .inl rfl
  | ended c ha => exact .inr (.inl ⟨rfl, ha⟩)
  | running stream r ha hr =>
    obtain ⟨stream', ha', hover⟩ := hover
    obtain rfl : stream = stream' := by simpa [ha] using ha'
    refine .inr (.inr ⟨stream, r.report, ha, hr.named, hover.closed, ?_⟩)
    simp [Running.reports, hover.control]

theorem Reached.raise (h : Reached statement answer source past) (reason : Text) :
    Reached statement answer (source.raise reason) past := by
  cases h with
  | fresh c => exact .fresh _
  | dropped c => exact .dropped _
  | ended c ha => exact .ended _ ha
  | running stream r ha hr =>
    exact .running stream (r.raise reason) ha (hr.transition (.raise reason))

end Reaching

namespace Running

variable {τ : Type}

/-- **A control that has an event waits for its consumer.** -/
theorem isAtRest_of_event {r r' : Running τ} {signals : List (Signal τ)}
    (h : Transition r r' signals) {e : Event τ} (he : eventOf? signals = some e) :
    r'.isAtRest = true := by
  rw [eventOf?_eq] at he
  cases h with
  | yield | complete => rfl
  | take item | drained v => simp at he
  | _ => cases he

/-- A control that is on its way out ends or stays there. -/
theorem Transition.leaves {r r' : Running τ} {signals : List (Signal τ)}
    (h : Transition r r' signals) (hr : r.control = .draining ∨ r.control = .finished) :
    r'.control = .draining ∨ r'.control = .finished := by
  cases h with
  | stay | pull | exhaust | offer | giveUp | put | refuse | shut | report | swerve | raise
  | drain => exact hr
  | complete | drained => exact .inr rfl
  | abandon => exact .inl rfl
  | take item rest hc | pause hc | interrupt hc | check item hc | timeout item hc
  | observe item hc | pass item hc | again hc | discard b hc | yield b hc | resume hc =>
    simp [hc] at hr

section Advancing

variable [Timescale τ]

/-- A move of the control leaves it to the limit whether times can be compared. -/
theorem limitFault_advance (s : Surroundings τ) (r : Running τ) :
    (r.advance s).1.limitFault = s.limitFault := by
  have hwait (s' : Surroundings τ) (r' : Running τ) :
      (r'.wait s').1.limitFault = s'.limitFault := by
    unfold wait
    cases s'.waits with
    | nil => rfl
    | cons first rest => cases first <;> rfl
  unfold advance interlude
  dsimp only
  split
  case h_1 | h_2 => exact hwait _ _
  case h_3 => split <;> rfl
  all_goals rfl

theorem isAtRest_advance {s : Surroundings τ} {r r' : Running τ} {signals : List (Signal τ)}
    {e : Event τ} (hadv : (r.advance s).2 = (r', signals)) (he : eventOf? signals = some e) :
    r'.isAtRest = true := by
  obtain ⟨is, m, hm⟩ := advance_eq s r
  obtain ⟨rfl, rfl⟩ := Prod.mk.inj (hadv.symm.trans hm)
  exact isAtRest_of_event (step_transition _ m) he

theorem leaves_advance (s : Surroundings τ) {r : Running τ}
    (hr : r.control = .draining ∨ r.control = .finished) :
    (r.advance s).2.1.control = .draining ∨ (r.advance s).2.1.control = .finished := by
  obtain ⟨is, m, hadv⟩ := advance_eq s r
  rw [hadv]
  refine (step_transition _ m).leaves ?_
  rwa [(steps_interludes is r).2]

end Advancing

end Running

/-! ## Getting on -/

/-- **What stands while a statement is executed.** -/
structure Standing where
  nature : (Channel → (Nat → Option SinkFault) × (Nat → Option SinkFault)) × Bool
  session : Session
  historyFile : HistoryFile
  engine : Engine
  buffer : StatementBuffer
  phase : Phase
  errors : Nat
  interactive : Bool
  writesPrompts : Bool

namespace Shell

/-- What stands in a shell. -/
def standing (shell : Shell) : Standing where
  nature := shell.console.nature
  session := shell.session
  historyFile := shell.historyFile
  engine := shell.engine
  buffer := shell.buffer
  phase := shell.phase
  errors := shell.errors
  interactive := shell.interactive
  writesPrompts := shell.writesPrompts

/-- What is written makes no difference to it. -/
theorem standing_console {shell : Shell} {k : Console} (h : k.nature = shell.console.nature) :
    standing { shell with console := k } = shell.standing := by
  simp only [standing, h]

/-- The answer of the engine to a statement that has been recorded. -/
def answer (shell : Shell) (statement : Text) : Submission :=
  shell.engine.submit shell.session.history statement

theorem answer_congr {shell after : Shell} (h : after.standing = shell.standing) :
    after.answer = shell.answer := by
  have hengine : after.engine = shell.engine := congrArg Standing.engine h
  have hsession : after.session = shell.session := congrArg Standing.session h
  funext statement
  rw [answer, answer, hengine, hsession]

/-- **A shell pursues a statement** that has passed these milestones. -/
structure Pursues (statement : Text) (past : List Entry) (shell : Shell) : Prop where
  stage : Reached statement (shell.answer statement) shell.source past
  limit : shell.surroundings.limitFault = none
  notices : shell.console.GivesNotices

/-- **The statement has got further** from one shell to the next, and nothing has
    been written meanwhile. -/
def Continues (statement : Text) (past past' : List Entry) (shell after : Shell) : Prop :=
  after.standing = shell.standing ∧ after.Pursues statement past' ∧ ∃ more,
    after.console.entries = shell.console.entries ++ more ∧
    (∀ e ∈ more, e.isSilent = true ∧ e.presents? = none) ∧
    past' = past ++ more.filter Entry.isMilestone

section Continuing

variable {shell after last : Shell} {statement : Text} {past past' past'' : List Entry}

theorem Pursues.continues (h : shell.Pursues statement past) :
    Continues statement past past shell shell :=
  ⟨rfl, h, [], (List.append_nil _).symm, nofun, (List.append_nil _).symm⟩

theorem Continues.trans (h : Continues statement past past' shell after)
    (h' : Continues statement past' past'' after last) :
    Continues statement past past'' shell last := by
  obtain ⟨hstanding, -, more, hentries, hsilent, rfl⟩ := h
  obtain ⟨hstanding', hpursues, more', hentries', hsilent', rfl⟩ := h'
  refine ⟨hstanding'.trans hstanding, hpursues, more ++ more', ?_, ?_, ?_⟩
  · rw [hentries', hentries, List.append_assoc]
  · intro e he
    exact (List.mem_append.1 he).elim (hsilent e) (hsilent' e)
  · rw [List.filter_append, List.append_assoc]

/-- **The statement has got further by some reports** on its execution. -/
def Proceeds (statement : Text) (past : List Entry) (shell after : Shell) : Prop :=
  ∃ reports : List QueryReport,
    Continues statement past (past ++ reports.map .executed) shell after

theorem Pursues.proceeds (h : shell.Pursues statement past) :
    Proceeds statement past shell shell := ⟨[], by simpa using h.continues⟩

/-- **A statement gets on** by what shows of it, with its source in another state. -/
theorem Murmurs.continues {miles : List Entry} {around : Surroundings Binary64}
    {source : EventSource} (hpursues : shell.Pursues statement past)
    (hlimit : around.limitFault = shell.surroundings.limitFault)
    (h : Murmurs miles { shell with surroundings := around, source } after)
    (hreached : Reached statement (shell.answer statement) source (past ++ miles)) :
    Continues statement past (past ++ miles) shell after := by
  obtain ⟨k, more, rfl, hnature, hentries, hsilent, rfl⟩ := h
  refine ⟨?_, ?_, more, hentries, hsilent, rfl⟩
  · exact standing_console hnature
  · exact ⟨hreached, hlimit.trans hpursues.limit,
      (Console.givesNotices_congr hnature).2 hpursues.notices⟩

end Continuing

/-! ## The next event -/

section Attending

variable {shell : Shell} {statement : Text} {past : List Entry} {r : Running Binary64}

/-- **A request for an event ends** with a reply, and only an engine that blocks
    keeps the reply back, over a query that has not been told to stop. -/
def Replies (statement : Text) (past : List Entry) (shell : Shell)
    (ended : Except Exit (Reply Binary64)) (after : Shell) : Prop :=
  (∃ past', Continues statement past past' shell after) ∧ ∃ reply, ended = .ok reply ∧
    (reply ≠ .stalled → after.source.IsResting) ∧
    match reply with
    | .stalled => shell.ledger.BlocksOver statement ∧ after.source.IsAtWork statement
    | .crashed c => shell.answer statement = .crashed c
    | .interrupted => False
    | .event _ | .exhausted => True

theorem Replies.of_continues {past' : List Entry} {later : Shell}
    {ended : Except Exit (Reply Binary64)} {after : Shell}
    (h : Continues statement past past' shell later)
    (h' : Replies statement past' later ended after) :
    Replies statement past shell ended after := by
  obtain ⟨⟨past'', hcontinues⟩, reply, hended, hresting, hreply⟩ := h'
  refine ⟨⟨past'', h.trans hcontinues⟩, reply, hended, hresting, ?_⟩
  have hanswer := answer_congr h.1
  cases reply with
  | stalled =>
    obtain ⟨⟨stream, hs, hb⟩, hwork⟩ := hreply
    exact ⟨⟨stream, (congrFun hanswer statement).symm.trans hs, hb⟩, hwork⟩
  | crashed c => exact (congrFun hanswer statement).symm.trans hreply
  | _ => exact hreply

/-- The next move of the control. -/
theorem proceeds_advance (hr : shell.source = .execution (.running r))
    (h : shell.Pursues statement past) :
    ∀ later, Murmurs ((r.advance shell.surroundings).2.2.filterMap Signal.milestone?)
        { shell with
          surroundings := (r.advance shell.surroundings).1
          source := .execution (.running (r.advance shell.surroundings).2.1) } later →
      Proceeds statement past shell later := by
  intro later hlater
  have hreached := h.stage
  rw [hr] at hreached
  obtain ⟨stream, ha, hsound, rfl⟩ := hreached.of_running
  have hmiles : (r.advance shell.surroundings).2.2.filterMap Signal.milestone?
      = ((r.advance shell.surroundings).2.2.filterMap Signal.report?).map Entry.executed := by
    obtain ⟨is, m, hadv⟩ := Running.advance_eq shell.surroundings r
    rw [hadv]
    exact (Running.step_transition _ m).milestones
  rw [hmiles] at hlater
  refine ⟨_, hlater.continues h (Running.limitFault_advance _ _) ?_⟩
  rw [List.append_assoc, ← List.map_append, ← hsound.reports_advance]
  exact .running stream _ ha (hsound.advance _)

theorem replies_exhausted (hr : shell.source = .execution (.running r))
    (h : shell.Pursues statement past) (hrest : r.isAtRest = true) :
    Replies statement past shell (.ok .exhausted) shell := by
  refine ⟨⟨past, h.continues⟩, .exhausted, rfl, ?_, trivial⟩
  intro _ r' hr'
  obtain rfl : r = r' := by simpa [hr] using hr'
  exact hrest

/-- **Attending to a running statement** gives a reply. If its parties are live the
    fuel lasts; otherwise it is up to `last` to give the reply. -/
theorem replies_attend (last : Running Binary64 → ShellM (Reply Binary64)) (live : Prop)
    {answer : Submission} (fuel : Nat) (ha : shell.answer statement = answer)
    (hr : shell.source = .execution (.running r)) (h : shell.Pursues statement past)
    (hfuel : live → r.Live ∧ r.movesLeft shell.surroundings < fuel)
    (hlast : ¬ live → ∀ past' r' later, later.answer statement = answer →
      later.source = .execution (.running r') → r'.isAtRest = false →
      later.Pursues statement past' → Ensures (last r') later (Replies statement past' later)) :
    Ensures (attend last fuel r) shell (Replies statement past shell) := by
  -- Every move takes one of those that are left.
  induction fuel generalizing shell r past with
  | zero =>
    cases hrest : r.isAtRest with
    | true =>
      rw [attend_of_isAtRest hrest]
      exact replies_exhausted hr h hrest
    | false =>
      rw [attend_zero hrest]
      refine hlast ?_ past r shell ha hr hrest h
      exact fun hlive => Nat.not_lt_zero _ (hfuel hlive).2
  | succ fuel ih =>
    cases hrest : r.isAtRest with
    | true =>
      rw [attend_of_isAtRest hrest]
      exact replies_exhausted hr h hrest
    | false =>
      refine ensures_attend_succ hrest ?_ ?_
      · intro c hc
        rw [Running.checkFault?_eq_none h.limit r] at hc
        cases hc
      · intro around r' signals _ hadv
        have hmove := proceeds_advance hr h
        have hless (hl : live) : r'.Live ∧ r'.movesLeft around < fuel := by
          obtain ⟨hlive, hmoves⟩ := hfuel hl
          obtain ⟨hstays, hfewer⟩ := hlive.of_advance shell.surroundings hrest hadv
          exact ⟨hstays, by omega⟩
        rw [hadv] at hmove
        refine (murmurs_signalAll signals (by exact h.notices)).mono ?_
        rintro _ later ⟨rfl, hlater⟩
        obtain ⟨reports, hcontinues⟩ := hmove later hlater
        obtain ⟨hsource, hsurroundings⟩ :
            later.source = .execution (.running r') ∧ later.surroundings = around := by
          obtain ⟨k, more, rfl, -⟩ := hlater
          exact ⟨rfl, rfl⟩
        dsimp only
        split
        case h_1 e he =>
          refine ⟨⟨_, hcontinues⟩, .event e, rfl, ?_, trivial⟩
          intro _ r₁ hr₁
          obtain rfl : r' = r₁ := by simpa [hsource] using hr₁
          exact Running.isAtRest_advance (congrArg Prod.snd hadv) he
        case h_2 =>
          have hanswer : later.answer statement = answer :=
            (congrFun (answer_congr hcontinues.1) statement).trans ha
          refine (ih hanswer hsource hcontinues.2.1 (hsurroundings ▸ hless)).mono ?_
          intro ended after hafter
          exact Replies.of_continues hcontinues hafter

/-- **Behind the moves that the surroundings bear** a query that has been told to
    stop gives its reply, and any other one of an engine that blocks is at work. -/
theorem replies_insist (hblocks : shell.ledger.BlocksOver statement)
    (hr : shell.source = .execution (.running r)) (hrest : r.isAtRest = false)
    (h : shell.Pursues statement past) :
    Ensures (insist r) shell (Replies statement past shell) := by
  have hreached := h.stage
  rw [hr] at hreached
  obtain ⟨stream, -, hsound, -⟩ := hreached.of_running
  unfold insist
  split
  case isTrue hstops =>
    rw [ensures_bind, ensures_get]
    refine replies_attend _ True _ rfl hr h ?_ (absurd trivial)
    exact fun _ => ⟨hsound.live fun _ => hstops, Running.movesLeft_lt_enoughMoves _ r⟩
  case isFalse hstops =>
    refine ⟨⟨past, h.continues⟩, .stalled, rfl, absurd rfl, hblocks, r, hr, hsound.named, hrest, ?_⟩
    exact Nat.eq_zero_of_not_pos hstops

/-- A move that shows nothing does not change how far the statement has got. -/
theorem Pursues.quiet {r' : Running Binary64} (hr : shell.source = .execution (.running r))
    (h : shell.Pursues statement past) (t : Running.Transition r r' []) :
    Pursues statement past { shell with source := .execution (.running r') } := by
  have hreached := h.stage
  rw [hr] at hreached
  obtain ⟨stream, ha, hsound, rfl⟩ := hreached.of_running
  have hreports := t.reports_eq hsound.orderly
  rw [List.filterMap_nil, List.append_nil] at hreports
  refine ⟨?_, h.limit, h.notices⟩
  rw [← hreports]
  exact .running stream r' ha (hsound.transition t)

theorem replies_attendAll
    (h : Pursues statement past { shell with source := .execution (.running r) }) :
    Ensures (attendAll r) shell (Replies statement past shell) := by
  rw [attendAll, ensures_bind, setExecution, ensures_modify]
  dsimp only
  rw [ensures_bind, ensures_get]
  obtain ⟨stream, ha, hsound, -⟩ := h.stage.of_running
  refine replies_attend insist (¬ shell.ledger.BlocksOver statement) _ rfl rfl h ?_ ?_
  · intro hopen
    refine ⟨hsound.live ?_, Running.movesLeft_lt_enoughMoves _ r⟩
    exact fun hblocked => absurd ⟨stream, ha, hblocked⟩ hopen
  · intro hblocks past' r' later hanswer hr' hrest h'
    obtain ⟨stream, hs, hblocked⟩ := not_not.1 hblocks
    exact replies_insist ⟨stream, hanswer.trans hs, hblocked⟩ hr' hrest h'

/-- **Beginning a statement** offers it to the engine. -/
theorem replies_begin {c : Cancellation} (hs : shell.source = .execution (.fresh statement c))
    (h : shell.Pursues statement past) :
    Ensures (begin statement c) shell (Replies statement past shell) := by
  obtain rfl : past = [] := by
    have hreached := h.stage
    rw [hs] at hreached
    cases hreached
    rfl
  have hoffered : signal (.offered statement) shell
      = .ok () { shell with console := shell.console.enter (.offered statement) } := rfl
  rw [begin, ensures_bind, Ensures, hoffered]
  dsimp only
  rw [ensures_bind, ensures_get]
  dsimp only
  rw [ensures_bind, ensures_set]
  dsimp only
  -- What is left of the statement if the engine does not take it.
  have hleft (around : Surroundings Binary64)
      (haround : around.limitFault = shell.surroundings.limitFault)
      (ha : ∀ stream, shell.answer statement ≠ .accepted stream) :
      Continues statement [] [.offered statement] shell
        { shell with
          console := shell.console.enter (.offered statement)
          surroundings := around
          source := .execution (.ended c) } :=
    Murmurs.continues h haround
      (murmurs_enter rfl rfl
        { shell with surroundings := around, source := .execution (.ended c) }).2
      (.ended c ha)
  cases ha : shell.engine.submit shell.session.history statement with
  | refused e =>
    have hcontinues := hleft shell.surroundings.tick.tick rfl (by simp [answer, ha])
    exact ⟨⟨_, hcontinues⟩, _, rfl, fun _ => EventSource.isResting_ended c, trivial⟩
  | crashed crash =>
    have hcontinues := hleft shell.surroundings.tick rfl (by simp [answer, ha])
    exact ⟨⟨_, hcontinues⟩, _, rfl, fun _ => EventSource.isResting_ended c, ha⟩
  | accepted stream =>
    dsimp only [Execution.begin]
    rw [ensures_bind]
    refine (murmurs_signal (.submitted statement) (by exact h.notices)).mono ?_
    rintro _ later ⟨rfl, hlater⟩
    have hall := Murmurs.trans (murmurs_enter (e := .offered statement) rfl rfl
      { shell with
        surroundings := shell.surroundings.tick
        source := .execution (.ended c) }).2 hlater
    obtain ⟨k, more, rfl, hnature, hentries, hsilent, hmiles⟩ := hall
    have hmurmurs : Murmurs [.offered statement, .submitted statement]
        { shell with
          surroundings := shell.surroundings.tick
          source := .execution (.running (shell.surroundings.begun statement c stream)) }
        { shell with
          console := k
          surroundings := shell.surroundings.tick
          source := .execution (.running (shell.surroundings.begun statement c stream)) } :=
      ⟨k, more, rfl, hnature, hentries, hsilent, hmiles⟩
    have hreached : Reached statement (shell.answer statement)
        (.execution (.running (shell.surroundings.begun statement c stream)))
        ([] ++ [.offered statement, .submitted statement]) :=
      .running stream _ ha (Running.sound_begun _ _ _ _)
    have hcontinues :=
      @Murmurs.continues _ _ _ _ _ shell.surroundings.tick _ h rfl hmurmurs hreached
    refine (replies_attendAll hcontinues.2.1).mono ?_
    intro ended after hafter
    exact Replies.of_continues hcontinues hafter

/-- **Every request for an event is answered.** -/
theorem replies_nextEvent (h : shell.Pursues statement past) :
    Ensures nextEvent shell (Replies statement past shell) := by
  rw [nextEvent, ensures_bind, ensures_get]
  have hinner {x : Execution Binary64}
      (hx : Ensures (replyOf x) shell (Replies statement past shell)) :
      Ensures (nextOfExecution x) shell (Replies statement past shell) := by
    unfold nextOfExecution
    rw [ensures_bind, ensures_attempt]
    refine hx.mono ?_
    rintro ended after ⟨hcontinues, reply, rfl, hreply⟩
    exact ⟨hcontinues, reply, rfl, hreply⟩
  have hreached := h.stage
  generalize hs : shell.source = source at hreached
  cases hreached with
  | fresh c =>
    simp only [hs]
    exact hinner (replies_begin hs h)
  | dropped c | ended c =>
    have hresting : shell.source.IsResting := by
      rw [hs]
      exact EventSource.isResting_ended c
    simp only [hs]
    exact hinner ⟨⟨_, h.continues⟩, .exhausted, rfl, fun _ => hresting, trivial⟩
  | running stream r =>
    have t := Running.step_transition r .resume
    have hquiet : (r.step .resume).2 = [] := by
      cases hc : r.control <;> simp [Running.step, hc]
    rw [hquiet] at t
    simp only [hs]
    exact hinner (replies_attendAll (h.quiet hs t))

end Attending

/-! ## Giving up -/

section Closing

variable {shell : Shell} {statement : Text} {past : List Entry} {r : Running Binary64}

/-- **A control on its way out** gets there. -/
theorem proceeds_drain (fuel : Nat)
    (hr : r.isAtRest = true → shell.source = .execution (.running r))
    (h : Pursues statement past { shell with source := .execution (.running r) })
    (hleaves : r.control = .draining ∨ r.control = .finished) (hstops : 0 < r.stops)
    (hfuel : r.movesLeft shell.surroundings < fuel) :
    Ensures (drain fuel r) shell fun ended after => ended = .ok () ∧
      Proceeds statement past shell after ∧ after.source.IsOver (shell.answer statement) := by
  induction fuel generalizing shell r past with
  | zero => exact absurd hfuel (Nat.not_lt_zero _)
  | succ fuel ih =>
    obtain ⟨stream, ha, hsound, -⟩ := h.stage.of_running
    unfold drain
    split
    case isTrue hrest =>
      have hsource := hr hrest
      have hc : r.control = .finished := by
        refine hleaves.resolve_left fun hd => ?_
        simp [Running.isAtRest, hd] at hrest
      have hpursues : shell.Pursues statement past :=
        ⟨hsource ▸ h.stage, h.limit, h.notices⟩
      refine ⟨rfl, hpursues.proceeds, ?_⟩
      rw [hsource]
      exact ⟨stream, ha, hsound.isOver hc⟩
    case isFalse hrest =>
      rw [ensures_bind, advance, ensures_modifyGet]
      dsimp only
      have hmove := @proceeds_advance { shell with source := .execution (.running r) } _ _ _ rfl h
      have hless := Running.movesLeft_advance shell.surroundings (hsound.live fun _ => hstops)
        (by simpa using hrest)
      have hleaves' := Running.leaves_advance shell.surroundings hleaves
      have hstops' : 0 < (r.advance shell.surroundings).2.1.stops := by
        obtain ⟨is, m, hadv⟩ := Running.advance_eq shell.surroundings r
        rw [hadv]
        refine Nat.lt_of_lt_of_le ?_ (Running.step_transition _ m).stops_le
        exact Running.steps_invariant (P := fun r' _ => 0 < r'.stops) hstops
          (fun _ _ _ _ t h => Nat.lt_of_lt_of_le h t.stops_le) _
      dsimp only at hmove
      generalize r.advance shell.surroundings = adv at hmove hless hleaves' hstops' ⊢
      obtain ⟨around, r', signals⟩ := adv
      dsimp only at hmove hless hleaves' hstops' ⊢
      rw [ensures_bind]
      refine (murmurs_signalAll signals (by exact h.notices)).mono ?_
      rintro _ later ⟨rfl, hlater⟩
      obtain ⟨reports, hcontinues⟩ := hmove later hlater
      obtain ⟨hsource, hsurroundings⟩ : later.source = .execution (.running r') ∧
          later.surroundings = around := by
        obtain ⟨k, more, rfl, -⟩ := hlater
        exact ⟨rfl, rfl⟩
      have hpursues : Pursues statement (past ++ reports.map .executed)
          { later with source := .execution (.running r') } := by
        rw [← hsource]
        exact hcontinues.2.1
      refine (ih (fun _ => hsource) hpursues hleaves' hstops' ?_).mono ?_
      · rw [hsurroundings]
        omega
      · rintro ended after ⟨hended, ⟨reports', hcontinues'⟩, hover⟩
        refine ⟨hended, ⟨reports ++ reports', ?_⟩, ?_⟩
        · rw [List.map_append, ← List.append_assoc]
          exact hcontinues.trans hcontinues'
        rw [answer_congr hcontinues.1] at hover
        exact hover

/-- **Giving a statement up ends its execution.** -/
theorem proceeds_closeEvents (h : shell.Pursues statement past)
    (hrest : shell.source.IsResting) :
    Ensures closeEvents shell fun ended after => ended = .ok () ∧
      Proceeds statement past shell after ∧ after.source.IsOver (shell.answer statement) := by
  have hreached := h.stage
  rw [closeEvents, ensures_bind, ensures_get]
  generalize hs : shell.source = source at hreached hrest
  cases hreached with
  | fresh c =>
    simp only [hs]
    refine ⟨rfl, ⟨[], rfl, ⟨.dropped c, h.limit, h.notices⟩, [], ?_⟩, trivial⟩
    exact ⟨(List.append_nil _).symm, nofun, rfl⟩
  | dropped c | ended c =>
    have hover : shell.source.IsOver (shell.answer statement) := by
      rw [hs]
      trivial
    simp only [hs]
    exact ⟨rfl, h.proceeds, hover⟩
  | running stream r ha hsound =>
    simp only [hs]
    split
    case h_1 hc =>
      have hover : shell.source.IsOver (shell.answer statement) := by
        rw [hs]
        exact ⟨stream, ha, hsound.isOver hc⟩
      exact ⟨rfl, h.proceeds, hover⟩
    case h_2 hc =>
      -- The control rests and has not ended, so it has handed a batch over.
      have hyielded : r.control = .yielded := by
        have hatRest := hrest r rfl
        unfold Running.isAtRest at hatRest
        split at hatRest
        case h_1 h => exact h
        case h_2 h => exact absurd h hc
        case h_3 => cases hatRest
      have t := Running.Transition.abandon hyielded
      refine proceeds_drain _ ?_ (h.quiet hs t) (.inl rfl) ?_
        (Running.movesLeft_lt_enoughMoves shell.surroundings r.abandon)
      · intro hatRest
        simp [Running.isAtRest, Running.abandon] at hatRest
      · rw [(hsound.transition t).once.left rfl]
        exact Nat.one_pos

end Closing

end Shell

end SqlShell
