import SqlShell.Proofs.Session.Ledger

/-! # The Statement at Work

    What a statement leaves behind when no output fails: it is recorded and
    offered once, whatever the engine makes of it.

    * **`Awaits`** is the invariant of a statement at work: what is still to be
      offered of it, and that attending to it comes to an end.
    * **`Settled`** and **`Bears`** say how a request for an event and a
      presentation end then.
    * **`submits_executeStatement`** puts them together. -/

namespace SqlShell.Shell

/-! ## The statement at work -/

/-- **What is still to be offered** of the statement at work.  Attending to it
    comes to an end unless the engine blocks over it, which is `blocked`. -/
inductive Awaits (blocked : Prop) (shell : Shell) : List Text → Prop where
  | fresh (statement : Text) (c : Cancellation)
      (hs : shell.source = .execution (.fresh statement c))
      (hb : shell.ledger.BlocksOver statement → blocked) : Awaits blocked shell [statement]
  | running (r : Running Binary64) (hs : shell.source = .execution (.running r))
      (hl : ¬ blocked → r.Live) : Awaits blocked shell []
  | ended (c : Cancellation) (hs : shell.source = .execution (.ended c)) : Awaits blocked shell []

/-- **A reply that comes when no output fails**: nobody interrupts, and only an
    engine that blocks keeps it back. -/
def Settled (blocked : Prop) (l : Ledger) (ended : Except Exit (Reply Binary64)) (after : Shell) :
    Prop :=
  after.console.IsFaultless ∧ after.ledger = l ∧
    match ended with
    | .ok (.event _) | .ok .exhausted => after.Awaits blocked []
    | .ok (.crashed _) => True
    | .ok .stalled => blocked
    | .ok .interrupted | .error _ => False

section Awaiting

variable {blocked : Prop} {shell : Shell} {due : List Text}

/-- Attending to a statement settles it, however it goes on behind the fuel, which
    lasts unless the engine blocks. -/
theorem settled_attend (last : Running Binary64 → ShellM (Reply Binary64)) (fuel : Nat)
    {r : Running Binary64} (hshell : shell.console.IsFaultless)
    (hr : shell.source = .execution (.running r))
    (hl : ¬ blocked → r.Live ∧ r.movesLeft shell.surroundings < fuel)
    (hlast : blocked → ∀ r' later, later.console.IsFaultless →
      later.source = .execution (.running r') →
      Ensures (last r') later (Settled blocked later.ledger)) :
    Ensures (attend last fuel r) shell (Settled blocked shell.ledger) := by
  induction fuel generalizing r shell with
  | zero =>
    have hblocked : blocked := by
      by_contra hb
      exact Nat.not_lt_zero _ (hl hb).2
    cases hrest : r.isAtRest with
    | true =>
      rw [attend_of_isAtRest hrest]
      exact ⟨hshell, rfl, .running r hr fun hb => (hl hb).1⟩
    | false =>
      rw [attend_zero hrest]
      exact hlast hblocked r shell hshell hr
  | succ fuel ih =>
    cases hrest : r.isAtRest with
    | true =>
      rw [attend_of_isAtRest hrest]
      exact ⟨hshell, rfl, .running r hr fun hb => (hl hb).1⟩
    | false =>
      refine ensures_attend_succ hrest ?_ ?_
      · intro c _
        refine (calm_failCheck c shell hshell).mono ?_
        rintro ended after ⟨hafter, hledger, rfl⟩
        exact ⟨hafter, hledger, trivial⟩
      · intro around r' signals _ hadv
        have hsignals := offered_not_mem_advance shell.surroundings r
        have hnext (hb : ¬ blocked) : r'.Live ∧ r'.movesLeft around < fuel := by
          obtain ⟨hlive, hmoves⟩ := hl hb
          obtain ⟨hstays, hless⟩ := hlive.of_advance shell.surroundings hrest hadv
          exact ⟨hstays, by omega⟩
        rw [hadv] at hsignals
        refine (calm_signalAll hsignals _ (by exact hshell)).mono ?_
        rintro told after ⟨hafter, hcore, rfl⟩
        obtain ⟨hledger, hsource, hsurroundings⟩ :
            after.ledger = shell.ledger ∧ after.source = .execution (.running r') ∧
              after.surroundings = around := by
          simpa [core, ledger] using hcore
        dsimp only
        split
        case h_1 e _ => exact ⟨hafter, hledger, .running r' hsource fun hb => (hnext hb).1⟩
        case h_2 =>
          rw [← hledger]
          exact ih hafter hsource (hsurroundings ▸ hnext)

/-- So does going on behind the moves that the surroundings bear. -/
theorem settled_insist {r : Running Binary64} (hblocked : blocked)
    (hshell : shell.console.IsFaultless) (hr : shell.source = .execution (.running r)) :
    Ensures (insist r) shell (Settled blocked shell.ledger) := by
  unfold insist
  split
  case isTrue =>
    rw [ensures_bind, ensures_get]
    exact settled_attend _ _ hshell hr (absurd hblocked)
      fun _ _ later hlater _ => ⟨hlater, rfl, hblocked⟩
  case isFalse => exact ⟨hshell, rfl, hblocked⟩

theorem settled_attendAll {r : Running Binary64} (hshell : shell.console.IsFaultless)
    (hl : ¬ blocked → r.Live) : Ensures (attendAll r) shell (Settled blocked shell.ledger) := by
  rw [attendAll, ensures_bind, setExecution, ensures_modify]
  dsimp only
  rw [ensures_bind, ensures_get]
  refine settled_attend insist _ ?_ rfl ?_ ?_
  · exact hshell
  · intro hb
    exact ⟨hl hb, Running.movesLeft_lt_enoughMoves _ r⟩
  · exact fun hblocked r' later => settled_insist hblocked

/-- **Beginning a statement** offers it, whatever the engine answers. -/
theorem settled_begin {statement : Text} (c : Cancellation) (hshell : shell.console.IsFaultless)
    (hb : shell.ledger.BlocksOver statement → blocked) :
    Ensures (begin statement c) shell (Settled blocked (shell.ledger.offer [statement])) := by
  have offered : signal (.offered statement) shell
      = .ok () { shell with console := shell.console.enter (.offered statement) } := rfl
  have hoffers : (shell.console.enter (.offered statement)).offers
      = shell.console.offers ++ [statement] :=
    Console.offers_of_entries (Console.entries_enter _ _)
  have hentered := hshell.enter (.offered statement)
  rw [begin, ensures_bind, Ensures, offered]
  dsimp only
  rw [ensures_bind, ensures_get]
  dsimp only
  generalize hk : shell.console.enter (.offered statement) = k at hoffers hentered ⊢
  rw [ensures_bind, ensures_set]
  cases hsubmit : shell.engine.submit shell.session.history statement with
  | refused e =>
    refine ⟨hentered, ?_, .ended c rfl⟩
    simp [ledger, Ledger.offer, hoffers]
  | crashed crash =>
    refine ⟨hentered, ?_, trivial⟩
    simp [ledger, Ledger.offer, hoffers]
  | accepted stream =>
    dsimp only [Execution.begin]
    have hsubmitted : Calm core (signal (.submitted statement)) (· = .ok ()) := by
      apply calm_signal
      rintro _ ⟨⟩
    refine hsubmitted.ensures (by exact hentered) ?_
    intro after hafter hcore
    have hledger : after.ledger = shell.ledger.offer [statement] := by
      refine (congrArg Prod.fst hcore).trans ?_
      simp [core, ledger, Ledger.offer, hoffers]
    rw [← hledger]
    apply settled_attendAll hafter
    intro hopen
    apply Running.live_begun
    intro hblocked
    exact hopen (hb ⟨stream, hsubmit, hblocked⟩)

theorem settled_nextOfExecution {x : Execution Binary64} {l : Ledger}
    (h : Ensures (replyOf x) shell (Settled blocked l)) :
    Ensures (nextOfExecution x) shell (Settled blocked l) := by
  unfold nextOfExecution
  rw [ensures_bind, ensures_attempt]
  refine h.mono ?_
  rintro ended after hafter
  cases ended with
  | ok reply => exact hafter
  | error e => exact hafter.2.2.elim

/-- **The next reply** comes after what was still to be offered has been. -/
theorem settled_nextEvent (hshell : shell.console.IsFaultless) (h : shell.Awaits blocked due) :
    Ensures nextEvent shell (Settled blocked (shell.ledger.offer due)) := by
  rw [nextEvent, ensures_bind, ensures_get]
  cases h with
  | fresh statement c hs hb =>
    simp only [hs]
    exact settled_nextOfExecution (settled_begin c hshell hb)
  | running r hs hl =>
    simp only [hs, Ledger.offer_nil]
    apply settled_nextOfExecution
    apply settled_attendAll hshell
    intro hb
    exact (hl hb).transition (Running.step_transition r .resume)
  | ended c hs =>
    simp only [hs, Ledger.offer_nil]
    exact settled_nextOfExecution ⟨hshell, rfl, .ended c hs⟩

theorem Awaits.of_core {after : Shell} (h : shell.Awaits blocked due)
    (hcore : after.core = shell.core) : after.Awaits blocked due := by
  obtain ⟨hledger, hsource⟩ : after.ledger = shell.ledger ∧ after.source = shell.source :=
    ⟨congrArg Prod.fst hcore, congrArg (·.2.1) hcore⟩
  cases h with
  | fresh statement c hs hb => exact .fresh statement c (hsource.trans hs) (hledger ▸ hb)
  | running r hs hl => exact .running r (hsource.trans hs) hl
  | ended c hs => exact .ended c (hsource.trans hs)

/-! ## Presenting -/

/-- **How a presentation ends when no output fails**: it is interrupted by a
    breakdown at the most, or kept by an engine that blocks. -/
def Bears {α : Type} (blocked : Prop) : Except Exit α → Prop
  | .ok _ | .error (.crashed _) => True
  | .error .stalled => blocked
  | .error .interrupted | .error (.outputLost _) => False

/-- What the other parties do while the shell is busy offers nothing. -/
theorem awaits_interlude (hshell : shell.console.IsFaultless) (h : shell.Awaits blocked []) :
    Ensures interlude shell fun ended after => after.console.IsFaultless ∧
      after.ledger = shell.ledger ∧ ended = .ok () ∧ after.Awaits blocked [] := by
  rw [interlude, ensures_modify]
  cases h with
  | running r hs hl =>
    simp only [hs]
    exact ⟨hshell, rfl, trivial, .running _ rfl fun hb => (hl hb).steps _⟩
  | ended c hs =>
    simp only [hs]
    exact ⟨hshell, trivial, trivial, .ended c hs⟩

/-- **Taking the events** offers what was still to be offered, and nothing else. -/
theorem bears_takeEvents (fuel : Nat) (w : Writer) (hshell : shell.console.IsFaultless)
    (h : shell.Awaits blocked due) (hfuel : due = [] ∨ 0 < fuel) :
    Ensures (takeEvents fuel w) shell fun ended after => after.console.IsFaultless ∧
      after.ledger = shell.ledger.offer due ∧ Bears blocked ended := by
  induction fuel generalizing shell w due with
  | zero =>
    obtain rfl : due = [] := hfuel.resolve_right (Nat.lt_irrefl 0)
    exact ⟨hshell, (Ledger.offer_nil _).symm, trivial⟩
  | succ fuel ih =>
    rw [takeEvents, ensures_bind]
    refine (settled_nextEvent hshell h).mono ?_
    rintro ended next ⟨hnext, hledger, hended⟩
    -- Nothing more is offered once the statement has been begun.
    have rest (w : Writer) {later : Shell} (hlater : later.console.IsFaultless)
        (hl : later.ledger = shell.ledger.offer due) (ha : later.Awaits blocked []) :
        Ensures (takeEvents fuel w) later fun ended after => after.console.IsFaultless ∧
          after.ledger = shell.ledger.offer due ∧ Bears blocked ended := by
      refine (ih w hlater ha (.inl rfl)).mono ?_
      rintro ended last ⟨hlast, hlast', hbears⟩
      rw [Ledger.offer_nil, hl] at hlast'
      exact ⟨hlast, hlast', hbears⟩
    cases ended with
    | error e => exact hended.elim
    | ok reply =>
      cases reply with
      | exhausted => exact ⟨hnext, hledger, trivial⟩
      | interrupted => exact hended.elim
      | crashed c => exact ⟨hnext, hledger, trivial⟩
      | stalled => exact ⟨hnext, hledger, hended⟩
      | event e =>
        cases e with
        | completed outcome => exact ⟨hnext, hledger, trivial⟩
        | batch b =>
          dsimp only
          rw [ensures_bind]
          refine (awaits_interlude hnext hended).mono ?_
          rintro _ busy ⟨hbusy, hbusy', rfl, hawaits⟩
          have hbusy' := hbusy'.trans hledger
          dsimp only
          rw [ensures_bind, ensures_get]
          dsimp only
          split
          case isTrue => exact rest w hbusy hbusy' hawaits
          case isFalse =>
            rw [ensures_bind]
            refine (calm_writeSteps _ _ _ busy hbusy).mono ?_
            rintro _ written ⟨hwritten, hcore, rfl⟩
            have hwritten' := (congrArg Prod.fst hcore).trans hbusy'
            cases (w.batch b).crash with
            | none => exact rest _ hwritten hwritten' (hawaits.of_core hcore)
            | some c => exact ⟨hwritten, hwritten', trivial⟩

/-- **Presenting a statement** offers what was still to be offered of it. -/
theorem bears_present (w : Writer) (hshell : shell.console.IsFaultless)
    (h : shell.Awaits blocked due) :
    Ensures (present w) shell fun ended after => after.console.IsFaultless ∧
      after.ledger = shell.ledger.offer due ∧ Bears blocked ended := by
  have hbound : 0 < shell.replyBound := by
    unfold replyBound
    split <;> exact Nat.succ_pos _
  rw [present, ensures_bind, ensures_get]
  dsimp only
  rw [ensures_bind]
  refine (bears_takeEvents _ w hshell h (.inr hbound)).mono ?_
  rintro ended taken ⟨htaken, hledger, hended⟩
  cases ended with
  | error e => cases e <;> exact ⟨htaken, hledger, hended⟩
  | ok result =>
    obtain ⟨w', came⟩ := result
    dsimp only
    rw [ensures_bind, ensures_get]
    dsimp only
    have hlast : Calm ledger (do
        produceAll (if (came.getD (missingOutcome taken.source.flag?)).isSuccess then w'.finish
          else w'.abort)
        tellOutcome (came.getD (missingOutcome taken.source.flag?))
        pure (came.getD (missingOutcome taken.source.flag?))) (Bears blocked) := by
      refine (calm_produceAll _).ledger.bind ?_ ?_
      · intro _ _
        refine (calm_tellOutcome _).ledger.then ((calm_pure _).mono ?_)
        rintro _ rfl
        trivial
      · rintro e (he | ⟨c, ⟨⟩⟩)
        · cases he
        · trivial
    refine (hlast taken htaken).mono ?_
    rintro ended after ⟨hafter, hledger', hended⟩
    exact ⟨hafter, hledger'.trans hledger, hended⟩

theorem bears_showResult (hshell : shell.console.IsFaultless) (h : shell.Awaits blocked due) :
    Ensures showResult shell fun ended after => after.console.IsFaultless ∧
      after.ledger = shell.ledger.offer due ∧ Bears blocked ended := by
  rw [showResult]
  refine (calm_phase .rendering).ensures hshell ?_
  intro next hnext hcore
  have hledger : next.ledger = shell.ledger := congrArg Prod.fst hcore
  rw [createWriter, ensures_bind, ensures_bind, ensures_get, ← hledger]
  exact bears_present _ hnext (h.of_core hcore)

end Awaiting

/-! ## One statement -/

/-- **How an action ends that submits some statements** when no output fails:
    all of them are submitted, or those up to one that the engine blocks over. -/
def Submits (texts : List Text) (l : Ledger) (ended : Except Exit Unit) (after : Shell) : Prop :=
  ∃ xs, after.console.IsFaultless ∧ after.ledger = l.submit xs ∧
    (ended = .ok () ∧ xs = texts ∨ ended = .error .stalled ∧ l.BlocksAfter xs ∧ xs <+: texts)

/-- **A statement is submitted once**, whatever becomes of it. -/
theorem submits_executeStatement (statement : Text) {shell : Shell}
    (hshell : shell.console.IsFaultless) :
    Ensures (executeStatement statement) shell (Submits [statement] shell.ledger) := by
  rw [executeStatement, ensures_bind, ensures_modify]
  dsimp only
  refine (calm_enter (overlooks_core rfl)).ensures (by exact hshell) ?_
  intro entered hentered hcore
  have hentered' := congrArg Prod.fst hcore
  refine (calm_phase .executing).ensures hentered ?_
  intro begun hbegun hcore
  have hbegun' := (congrArg Prod.fst hcore).trans hentered'
  rw [ensures_bind, ensures_modify]
  dsimp only
  rw [ensures_bind, ensures_attempt]
  have hawaits : Awaits (shell.ledger.BlocksAfter [statement])
      { begun with source := .execution (.fresh statement {}) } [statement] := by
    refine .fresh statement {} rfl ?_
    intro h
    have h : begun.core.1.BlocksOver statement := h
    rw [hbegun'] at h
    exact ⟨[], statement, rfl, h⟩
  refine (bears_showResult (by exact hbegun) hawaits).mono ?_
  rintro ended shown ⟨hshown, hshown', hended⟩
  have hledger : shown.ledger = shell.ledger.submit [statement] :=
    hshown'.trans (congrArg (Ledger.offer [statement]) hbegun')
  -- What follows the presentation leaves nothing in the ledger.
  have ending {action : ShellM Unit} (h : Calm Shell.ledger action (· = .ok ())) :
      Ensures action shown (Submits [statement] shell.ledger) := by
    refine (h shown hshown).mono ?_
    rintro ended after ⟨hafter, hafter', hended⟩
    exact ⟨[statement], hafter, hafter'.trans hledger, .inl ⟨hended, rfl⟩⟩
  cases ended with
  | ok outcome => exact ending (calm_conclude outcome)
  | error e =>
    cases e with
    | stalled => exact ⟨[statement], hshown, hledger, .inr ⟨rfl, hended, List.prefix_rfl⟩⟩
    | crashed c => exact ending ((calm_reportCrash c).ledger.followedBy calm_closeEvents)
    | interrupted => exact hended.elim
    | outputLost f => exact hended.elim

end SqlShell.Shell
