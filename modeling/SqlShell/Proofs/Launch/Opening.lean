import SqlShell.Launch.Start
import SqlShell.Proofs.Launch.Framing
import SqlShell.Proofs.Session.Submission

/-! # From the Command Line to the Session

    A run of the program is the run of one session, once the command line has
    been read, the log and the scripts have been opened and the database is
    there.

    * **`Opens`** says that all this goes well; no user is greeted.
    * **`ensures_runProgram`**: what holds behind the session holds behind the
      program.
    * **`RunSubmits`** is what such a run submits, **`submits_runProgram`** that
      these are the statements of its input. -/

namespace SqlShell

/-- **The program comes as far as its session.**  It runs on scripts, or on an
    input that is no terminal, and no output fails. -/
structure Opens (p : Workplace) (words : List Text) (shell : Shell) (c : Choices)
    (scripts : List Text) (d : Database) : Prop where
  parsed : CommandLine.parse words = .ok c
  log : ∀ path, c.logPath = some path → (p.logFile path).2.isOk = true
  possible : c.fault? = none
  read : (p.filesWithLog c).scripts c.files = .ok scripts
  connected : p.connect (c.connection p.processors) = .ok d
  format : (Shell.InitialFormat.resolve (.named (Given.shown c.format))).isOk = true
  unattended : c.hasScripts = true ∨ p.isTerminal = false
  console : shell.console.IsFaultless
  buffer : shell.buffer = .empty

/-- The database that a session runs on, as its engine. -/
def Workplace.engineOf (p : Workplace) (c : Choices) (d : Database) : Engine :=
  .ofDatabase (c.connection p.processors) d

namespace Shell

/-- **A session is about to begin**: nothing has been offered to the engine yet
    by the program. -/
structure Begins (begun shell : Shell) (engine : Engine) : Prop where
  ready : begun.IsReady
  offers : begun.console.offers = shell.console.offers
  history : begun.session.history = []
  engine : begun.engine = engine

section Opening

variable {p : Workplace} {words : List Text} {shell : Shell} {c : Choices} {scripts : List Text}
  {d : Database}

/-- The log is opened, and nothing is offered by that. -/
theorem ensures_openLog (hshell : shell.console.IsFaultless)
    (h : ∀ path, c.logPath = some path → (p.logFile path).2.isOk = true) :
    Ensures (openLog p c) shell fun ended after => ended = .ok () ∧
      after.console.IsFaultless ∧ after.console.offers = shell.console.offers ∧
      after.buffer = shell.buffer := by
  rw [openLog]
  split
  case h_1 path f hlog =>
    obtain ⟨given, hpath, hfile⟩ := Option.map_eq_some_iff.1 hlog
    have hok := h given hpath
    rw [hfile] at hok
    cases hok
  case h_2 => exact ⟨rfl, ⟨hshell.out, hshell.err⟩, rfl, rfl⟩

/-- The session is set up anew. -/
theorem ensures_configure (hshell : shell.console.IsFaultless) (h : c.fault? = none) :
    Ensures (configure p c) shell fun ended after => ended = .ok () ∧
      after.console.IsFaultless ∧ after.console.offers = shell.console.offers ∧
      after.buffer = shell.buffer ∧ after.session.history = [] ∧
      after.session.running = true := by
  rw [configure]
  simp only [h]
  exact ⟨rfl, hshell, rfl, rfl, rfl, rfl⟩

/-- **The session is run on the database.** -/
theorem ensures_runOnDatabase (h : Opens p words shell c scripts d) {begun : Shell}
    (hbegun : begun.Begins shell (p.engineOf c d)) {Q : Shell → Prop}
    (hrun : ∀ later : Shell, later.Begins shell (p.engineOf c d) →
      Ensures (run c.failOnError (inputOf p c scripts)) later fun _ after => Q after) :
    Ensures (runOnDatabase p c scripts) begun fun _ after => Q after := by
  have hgreet : (!c.hasScripts && p.isTerminal) = false := by
    rcases h.unattended with hscripts | hterminal
    · rw [hscripts]
      rfl
    · rw [hterminal, Bool.and_false]
  rw [runOnDatabase, hgreet]
  show Ensures (start _ _ _ >>= _) begun _
  rw [ensures_bind, start]
  have hformat := h.format
  cases hresolve : InitialFormat.resolve (.named (Given.shown c.format)) with
  | error e =>
    rw [hresolve] at hformat
    cases hformat
  | ok f =>
    dsimp only
    rw [ensures_bind, ensures_modify]
    obtain ⟨hfaultless, hbuffer, hrunning⟩ := hbegun.ready
    have hready : IsReady { begun with session := { begun.session with format := f } } :=
      ⟨hfaultless, hbuffer, hrunning⟩
    refine (hrun _ ⟨hready, hbegun.offers, hbegun.history, hbegun.engine⟩).mono ?_
    intro ended after hafter
    cases ended with
    | ok code => exact hafter
    | error e => exact hafter

/-- **The database is opened.** -/
theorem ensures_openDatabase (h : Opens p words shell c scripts d) {configured : Shell}
    (hconfigured : configured.console.IsFaultless)
    (hoffers : configured.console.offers = shell.console.offers)
    (hbuffer : configured.buffer = .empty) (hhistory : configured.session.history = [])
    (hrunning : configured.session.running = true) {Q : Shell → Prop}
    (hrun : ∀ begun : Shell, begun.Begins shell (p.engineOf c d) →
      Ensures (run c.failOnError (inputOf p c scripts)) begun fun _ after => Q after) :
    Ensures (openDatabase p c scripts) configured fun _ after => Q after := by
  rw [openDatabase]
  have henter : Calm core (enter (.connecting (c.connection p.processors))) (· = .ok ()) :=
    calm_enter (overlooks_core rfl)
  refine henter.ensures hconfigured ?_
  intro entered hentered hcore
  simp only [h.connected]
  rw [ensures_bind, ensures_attempt]
  refine (calm_notice _ entered hentered).mono ?_
  intro ended noted hnoted
  obtain ⟨hnoted, hcore', hended⟩ := hnoted
  subst hended
  have hledger : noted.ledger = configured.ledger := congrArg Prod.fst (hcore'.trans hcore)
  dsimp only
  rw [ensures_bind, ensures_modify]
  apply ensures_runOnDatabase h _ hrun
  have hsession : noted.session = configured.session := congrArg Ledger.session hledger
  have hsame : noted.console.offers = configured.console.offers := congrArg Ledger.offers hledger
  have hempty : noted.buffer = configured.buffer := congrArg Ledger.buffer hledger
  constructor
  · exact ⟨hnoted, hempty.trans hbuffer, hsession ▸ hrunning⟩
  · exact hsame.trans hoffers
  · exact hsession ▸ hhistory
  · rfl

/-- **A run of the program is the run of its session.** -/
theorem ensures_runProgram (h : Opens p words shell c scripts d) {Q : Shell → Prop}
    (hrun : ∀ begun : Shell, begun.Begins shell (p.engineOf c d) →
      Ensures (run c.failOnError (inputOf p c scripts)) begun fun _ after => Q after) :
    Ensures (runProgram p words) shell fun _ after => Q after := by
  rw [runProgram]
  simp only [h.parsed]
  rw [ensures_bind]
  refine (ensures_openLog h.console h.log).mono ?_
  intro ended logged hlogged
  obtain ⟨hended, hlogged, hoffers, hbuffer⟩ := hlogged
  subst hended
  dsimp only
  rw [ensures_bind]
  refine (ensures_configure hlogged h.possible).mono ?_
  intro ended configured hconfigured
  obtain ⟨hended, hconfigured, hoffers', hbuffer', hhistory, hrunning⟩ := hconfigured
  subst hended
  simp only [h.read]
  exact ensures_openDatabase h hconfigured (hoffers'.trans hoffers)
    (hbuffer'.trans (hbuffer.trans h.buffer)) hhistory hrunning hrun

end Opening

/-! ## What a run submits -/

/-- **What a run of the program has submitted**: all the texts, each of them once
    and in order, or those up to one over which the database blocks.  What is
    left open behind all of them has been told in one line, and nothing has
    been offered after that. -/
def RunSubmits (shell : Shell) (engine : Engine) (texts : List Text)
    (left : Except Unterminated (Option Text)) (after : Shell) : Prop :=
  ∃ xs, after.console.offers = shell.console.offers ++ xs ∧ after.session.history = xs ∧
    ((xs = texts ∧ ∀ e, left = .error e → ∃ earlier prompt,
        after.console.marks = earlier ++ [.asked prompt, .written .err (errorLine e.message)]) ∨
      (xs <+: texts ∧ ∃ earlier statement stream, xs = earlier ++ [statement] ∧
        engine.submit xs statement = .accepted stream ∧ stream.ending = .blocked))

/-- **A run of the program submits the statements of its input.** -/
theorem submits_runProgram {p : Workplace} {words : List Text} {shell : Shell} {c : Choices}
    {scripts : List Text} {d : Database} (h : Opens p words shell c scripts d)
    (hinput : ∀ item ∈ inputOf p c scripts, item.IsPlain)
    (hfree : HoldsNoCommand (inputOf p c scripts)) :
    Ensures (runProgram p words) shell fun _ after =>
      RunSubmits shell (p.engineOf c d) (statementsOfInput (inputOf p c scripts))
        (leftOver (inputOf p c scripts)) after := by
  apply ensures_runProgram h
  intro begun hbegun
  refine (submits_run c.failOnError hbegun.ready hinput hfree.lines hfree.statements).mono ?_
  intro _ after hafter
  obtain ⟨xs, hoffers, hhistory, hxs⟩ := hafter
  rw [hbegun.offers] at hoffers
  rw [hbegun.history, List.nil_append] at hhistory
  refine ⟨xs, hoffers, hhistory, ?_⟩
  rcases hxs with hall | ⟨-, hxs, hblocks⟩
  · exact .inl hall
  · obtain ⟨earlier, statement, heq, stream, hsubmit, hending⟩ := hblocks
    have hengine : (begun.ledger.submit xs).engine = p.engineOf c d := hbegun.engine
    have hrecord : (begun.ledger.submit xs).session.history = xs := by
      show begun.session.history ++ xs = xs
      rw [hbegun.history, List.nil_append]
    rw [hengine, hrecord] at hsubmit
    exact .inr ⟨hxs, earlier, statement, stream, heq, hsubmit, hending⟩

end Shell

end SqlShell
