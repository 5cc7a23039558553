import SqlShell.Proofs.Execution.Termination
import SqlShell.Proofs.Session.Action
import SqlShell.Session.Run

/-! # The Ledger of a Session

    What is carried on from one statement to the next, and the actions that
    leave it as it is when no output fails.

    * **`Ledger`** holds the statements that have been offered, the session and
      the buffer; `Ledger.submit` enters statements into it.
    * **`Calm`** says that an action keeps a view of the shell and how it ends,
      as long as no output fails.
    * **`Overlooks`** says that a view does not see an entry of the transcript. -/

namespace SqlShell

/-! ## Outputs that do not fail -/

/-- The statement that an entry offers, if it offers one. -/
def Entry.offered? : Entry → Option Text
  | .offered statement => some statement
  | _ => none

/-- Its writes and its flushes never fail. -/
structure Sink.IsFaultless (s : Sink) : Prop where
  write (n : Nat) : s.writeFault n = none
  flush (n : Nat) : s.flushFault n = none

namespace Console

/-- **The statements that have been offered** to the engine, in order. -/
def offers (k : Console) : List Text := k.entries.filterMap Entry.offered?

/-- **No output fails.** -/
structure IsFaultless (k : Console) : Prop where
  out : k.out.IsFaultless
  err : k.err.IsFaultless

theorem entries_enter (e : Entry) (k : Console) : (k.enter e).entries = k.entries ++ [e] := by
  simp [entries, enter]

theorem offers_of_entries {k k' : Console} {more : List Entry}
    (h : k'.entries = k.entries ++ more) :
    k'.offers = k.offers ++ more.filterMap Entry.offered? := by
  rw [offers, h, List.filterMap_append, offers]

namespace IsFaultless

variable {k : Console} (h : k.IsFaultless)

include h

theorem enter (e : Entry) : (k.enter e).IsFaultless := ⟨h.out, h.err⟩

theorem put (c : Channel) (text : Text) :
    (k.put c text).1 = none ∧ (k.put c text).2.IsFaultless ∧
      (k.put c text).2.entries = k.entries ++ [.written c text] := by
  have hentries := entries_enter (.written c text) k
  cases c with
  | out =>
    simp only [Console.put, sink, h.out.write]
    exact ⟨trivial, ⟨⟨h.out.write, h.out.flush⟩, h.err⟩, hentries⟩
  | err =>
    simp only [Console.put, sink, h.err.write]
    exact ⟨trivial, ⟨h.out, ⟨h.err.write, h.err.flush⟩⟩, hentries⟩

theorem flush (c : Channel) :
    (k.flush c).1 = none ∧ (k.flush c).2.IsFaultless ∧ (k.flush c).2.entries = k.entries := by
  cases c with
  | out =>
    simp only [Console.flush, sink, h.out.flush]
    exact ⟨trivial, ⟨⟨h.out.write, h.out.flush⟩, h.err⟩, rfl⟩
  | err =>
    simp only [Console.flush, sink, h.err.flush]
    exact ⟨trivial, ⟨h.out, ⟨h.err.write, h.err.flush⟩⟩, rfl⟩

/-- A notice is given, whether it shows or not. -/
theorem note (n : Notice) :
    (k.note n).1 = none ∧ (k.note n).2.IsFaultless ∧
      ∃ echoed, (k.note n).2.entries = k.entries ++ [.noted n echoed] := by
  unfold Console.note
  split
  case isFalse => exact ⟨rfl, h.enter _, false, entries_enter _ k⟩
  case isTrue =>
    simp only [h.err.write]
    have hnoted : IsFaultless (Console.enter (.noted n true)
        { k with err := { k.err with writes := k.err.writes + 1 } }) :=
      ⟨h.out, ⟨h.err.write, h.err.flush⟩⟩
    obtain ⟨hnone, hflushed, hentries⟩ := hnoted.flush .err
    split
    case h_1 f k' hk =>
      rw [hk] at hnone
      cases hnone
    case h_2 k' hk =>
      rw [hk] at hflushed hentries
      exact ⟨rfl, hflushed, true, hentries.trans (entries_enter _ _)⟩

end IsFaultless

end Console

/-! ## The ledger -/

/-- **What is carried on** from one statement to the next. -/
structure Ledger where
  /-- The statements that have been offered. -/
  offers : List Text
  session : Session
  buffer : StatementBuffer
  engine : Engine

/-- Statements are offered. -/
def Ledger.offer (texts : List Text) (l : Ledger) : Ledger := { l with offers := l.offers ++ texts }

@[simp] theorem Ledger.offer_nil (l : Ledger) : l.offer [] = l := by
  simp [offer]

/-- **Statements are submitted**: each of them is recorded and offered. -/
def Ledger.submit (texts : List Text) (l : Ledger) : Ledger :=
  { l with
    offers := l.offers ++ texts
    session := { l.session with history := l.session.history ++ texts } }

@[simp] theorem Ledger.submit_nil (l : Ledger) : l.submit [] = l := by
  simp [submit]

theorem Ledger.submit_submit (texts texts' : List Text) (l : Ledger) :
    (l.submit texts).submit texts' = l.submit (texts ++ texts') := by
  simp [submit]

/-- **The engine blocks over a statement** that is the last of the history, until
    the statement is cancelled. -/
def Ledger.BlocksOver (l : Ledger) (statement : Text) : Prop :=
  ∃ stream, l.engine.submit l.session.history statement = .accepted stream ∧
    stream.ending = .blocked

/-- The engine blocks over the last of some statements that are submitted. -/
def Ledger.BlocksAfter (l : Ledger) (texts : List Text) : Prop :=
  ∃ earlier statement, texts = earlier ++ [statement] ∧ (l.submit texts).BlocksOver statement

theorem Ledger.BlocksAfter.append {l : Ledger} {texts texts' : List Text}
    (h : (l.submit texts).BlocksAfter texts') : l.BlocksAfter (texts ++ texts') := by
  obtain ⟨earlier, statement, rfl, h⟩ := h
  rw [submit_submit] at h
  exact ⟨texts ++ earlier, statement, (List.append_assoc _ _ _).symm, h⟩

/-- Saving the statements leaves them recorded. -/
theorem Session.history_saveHistory (s : Session) (file : HistoryFile) :
    (s.saveHistory file).session.history = s.history := by
  unfold Session.saveHistory
  split
  · dsimp only
    split <;> rfl
  · rfl

namespace Shell

/-- The ledger of a shell. -/
def ledger (shell : Shell) : Ledger :=
  ⟨shell.console.offers, shell.session, shell.buffer, shell.engine⟩

/-- The ledger, and what the statement at work depends on. -/
def core (shell : Shell) : Ledger × EventSource × Surroundings Binary64 :=
  (shell.ledger, shell.source, shell.surroundings)

/-! ## Calm actions -/

variable {α β γ : Type} {view : Shell → γ}

/-- **An action is calm**: when no output fails it keeps a view of the shell and
    ends as `Q` says, and still no output fails. -/
def Calm (view : Shell → γ) (action : ShellM α) (Q : Except Exit α → Prop) : Prop :=
  ∀ shell : Shell, shell.console.IsFaultless → Ensures action shell fun ended after =>
    after.console.IsFaultless ∧ view after = view shell ∧ Q ended

section Calm

variable {action : ShellM α} {P : Except Exit α → Prop} {Q : Except Exit β → Prop}

theorem Calm.mono {Q : Except Exit α → Prop} (h : Calm view action P)
    (hQ : ∀ ended, P ended → Q ended) : Calm view action Q := by
  intro shell hshell
  refine (h shell hshell).mono ?_
  rintro ended after ⟨hafter, hview, hended⟩
  exact ⟨hafter, hview, hQ ended hended⟩

theorem Calm.ledger (h : Calm core action P) : Calm Shell.ledger action P := by
  intro shell hshell
  refine (h shell hshell).mono ?_
  rintro ended after ⟨hafter, hcore, hended⟩
  exact ⟨hafter, congrArg Prod.fst hcore, hended⟩

theorem Calm.bind {next : α → ShellM β} (h : Calm view action P)
    (hnext : ∀ a, P (.ok a) → Calm view (next a) Q)
    (hearly : ∀ e, P (.error e) → Q (.error e)) : Calm view (action >>= next) Q := by
  intro shell hshell
  rw [ensures_bind]
  refine (h shell hshell).mono ?_
  rintro ended after ⟨hafter, hview, hended⟩
  cases ended with
  | ok a =>
    refine (hnext a hended after hafter).mono ?_
    rintro ended last ⟨hlast, hview', hended⟩
    exact ⟨hlast, hview'.trans hview, hended⟩
  | error e => exact ⟨hafter, hview, hearly e hended⟩

/-- Behind an action that returns one value the next one is done. -/
theorem Calm.then {a : α} {next : α → ShellM β} (h : Calm view action (· = .ok a))
    (hnext : Calm view (next a) Q) : Calm view (action >>= next) Q := by
  refine h.bind ?_ nofun
  rintro _ ⟨⟩
  exact hnext

/-- What is done behind a calm action that returns one value. -/
theorem Calm.ensures {a : α} {next : α → ShellM β} {shell : Shell}
    {Q : Except Exit β → Shell → Prop} (h : Calm view action (· = .ok a))
    (hshell : shell.console.IsFaultless) (hnext : ∀ later : Shell, later.console.IsFaultless →
      view later = view shell → Ensures (next a) later Q) : Ensures (action >>= next) shell Q := by
  rw [ensures_bind]
  refine (h shell hshell).mono ?_
  rintro _ later ⟨hlater, hview, rfl⟩
  exact hnext later hlater hview

/-- So it is if the calm action is done in some cases only. -/
theorem Calm.ensures_ite {action : ShellM Unit} {p : Prop} [Decidable p]
    {next : Unit → ShellM β} {shell : Shell} {Q : Except Exit β → Shell → Prop}
    (h : Calm view action (· = .ok ())) (hshell : shell.console.IsFaultless)
    (hnext : ∀ later : Shell, later.console.IsFaultless → view later = view shell →
      Ensures (next ()) later Q) :
    Ensures (if p then action >>= next else next ()) shell Q := by
  split
  · exact h.ensures hshell hnext
  · exact hnext shell hshell rfl

theorem calm_pure (a : α) : Calm view (pure a : ShellM α) (· = .ok a) :=
  fun _ hshell => ⟨hshell, rfl, rfl⟩

theorem calm_throw (e : Exit) : Calm view (throw e : ShellM α) (· = .error e) :=
  fun _ hshell => ⟨hshell, rfl, rfl⟩

theorem calm_get {next : Shell → ShellM β} (h : ∀ shell, Calm view (next shell) Q) :
    Calm view (get >>= next) Q :=
  fun shell hshell => h shell shell hshell

theorem calm_modify {f : Shell → Shell} (hconsole : ∀ shell, (f shell).console = shell.console)
    (h : ∀ shell, view (f shell) = view shell) : Calm view (modify f : ShellM PUnit) (· = .ok ⟨⟩) :=
  fun shell hshell => ⟨hconsole shell ▸ hshell, h shell, rfl⟩

theorem Calm.attempt (h : Calm view action P) :
    Calm view (attempt action) fun ended => ∃ e, ended = .ok e ∧ P e := by
  intro shell hshell
  rw [ensures_attempt]
  refine (h shell hshell).mono ?_
  rintro ended after ⟨hafter, hview, hended⟩
  exact ⟨hafter, hview, ended, rfl, hended⟩

theorem Calm.followedBy {last : ShellM Unit} (h : Calm view action P)
    (hlast : Calm view last (· = .ok ())) : Calm view (followedBy action last) P := by
  refine h.attempt.bind ?_ ?_
  · rintro ended ⟨_, ⟨⟩, hended⟩
    refine hlast.then ?_
    cases ended with
    | ok a => exact (calm_pure a).mono fun _ he => he ▸ hended
    | error e => exact (calm_throw e).mono fun _ he => he ▸ hended
  · rintro e ⟨_, he, -⟩
    cases he

end Calm

/-! ## Small actions -/

/-- **A view overlooks an entry** of the transcript. -/
def Overlooks (view : Shell → γ) (e : Entry) : Prop :=
  ∀ (shell : Shell) (k : Console), k.entries = shell.console.entries ++ [e] →
    view { shell with console := k } = view shell

/-- The ledger holds what is offered, and nothing else of the transcript. -/
theorem overlooks_core {e : Entry} (he : e.offered? = none) : Overlooks core e := by
  intro shell k hentries
  have hoffers : k.offers = shell.console.offers := by
    rw [Console.offers_of_entries hentries]
    simp [he]
  simp only [core, ledger, hoffers]

theorem calm_enter {e : Entry} (h : Overlooks view e) : Calm view (enter e) (· = .ok ()) :=
  fun shell hshell => ⟨hshell.enter e, h shell _ (Console.entries_enter e shell.console), rfl⟩

theorem calm_put {c : Channel} {text : Text} (h : Overlooks view (.written c text)) :
    Calm view (put c text) (· = .ok none) := by
  intro shell hshell
  obtain ⟨hnone, hk, hentries⟩ := hshell.put c text
  exact ⟨hk, h shell _ hentries, congrArg Except.ok hnone⟩

theorem calm_note {n : Notice} (h : ∀ echoed, Overlooks view (.noted n echoed)) :
    Calm view (note n) (· = .ok ()) := by
  have hnote : Calm view (modifyGet fun shell : Shell =>
      ((shell.console.note n).1, { shell with console := (shell.console.note n).2 }))
      (· = .ok none) := by
    intro shell hshell
    obtain ⟨hnone, hk, echoed, hentries⟩ := hshell.note n
    exact ⟨hk, h echoed shell _ hentries, congrArg Except.ok hnone⟩
  exact hnote.then (calm_pure ())

theorem calm_enterPhase {phase : Phase} (h : ∀ n echoed, Overlooks view (.noted n echoed))
    (hphase : ∀ shell : Shell, view { shell with phase } = view shell) :
    Calm view (enterPhase phase) (· = .ok ()) := by
  refine calm_get ?_
  intro shell
  dsimp only
  split
  · exact (calm_note fun _ => h _ _).then (calm_modify (fun _ => rfl) hphase)
  · exact calm_pure ()

theorem calm_notice (n : Notice) : Calm core (note n) (· = .ok ()) :=
  calm_note fun _ => overlooks_core rfl

theorem calm_phase (phase : Phase) : Calm core (enterPhase phase) (· = .ok ()) :=
  calm_enterPhase (fun _ _ => overlooks_core rfl) fun _ => rfl

theorem calm_write (c : Channel) (text : Text) : Calm core (write c text) (· = .ok ()) :=
  (calm_put (overlooks_core rfl)).then (calm_pure ())

/-- A text is written, and that is all. -/
theorem ensures_write {shell : Shell} (c : Channel) (text : Text)
    (hshell : shell.console.IsFaultless) :
    Ensures (write c text) shell fun ended after => ended = .ok () ∧
      after.console.IsFaultless ∧ after = { shell with console := after.console } ∧
      after.console.entries = shell.console.entries ++ [.written c text] := by
  obtain ⟨hnone, hfaultless, hentries⟩ := hshell.put c text
  rw [write, ensures_bind, put, ensures_modifyGet]
  dsimp only
  rw [hnone]
  exact ⟨rfl, hfaultless, rfl, hentries⟩

theorem calm_flushSink (c : Channel) : Calm core (flushSink c) (· = .ok ()) := by
  have hflush : Calm core (modifyGet fun shell : Shell =>
      ((shell.console.flush c).1, { shell with console := (shell.console.flush c).2 }))
      (· = .ok none) := by
    intro shell hshell
    obtain ⟨hnone, hk, hentries⟩ := hshell.flush c
    have hoffers : (shell.console.flush c).2.offers = shell.console.offers := by
      rw [Console.offers, hentries, Console.offers]
    refine ⟨hk, ?_, congrArg Except.ok hnone⟩
    simp only [core, ledger, hoffers]
  exact hflush.then (calm_pure ())

theorem calm_flush : Calm core flush (· = .ok ()) :=
  (calm_flushSink .out).then (calm_flushSink .err)

theorem calm_countError : Calm core countError (· = .ok ()) :=
  calm_modify (fun _ => rfl) fun _ => rfl

theorem calm_tellOutcome (outcome : Outcome Binary64) :
    Calm core (tellOutcome outcome) (· = .ok ()) := by
  refine calm_get ?_
  intro shell
  split
  · exact calm_pure ()
  · exact calm_write _ _

theorem calm_reportCrash (c : Crash) : Calm core (reportCrash c) (· = .ok ()) :=
  (calm_notice _).then (calm_countError.then (calm_write _ _))

/-- A production is written as a whole, unless the writer itself breaks down. -/
theorem calm_writeSteps {σ : Type} (final : σ) (crash : Option Crash) (steps : List (σ × Text)) :
    Calm core (writeSteps final crash steps) (· = .ok (final, crash.map .crash)) := by
  induction steps with
  | nil => exact calm_pure _
  | cons step rest ih => exact (calm_put (overlooks_core rfl)).then ih

theorem calm_produceAll {σ : Type} (p : Production σ) :
    Calm core (produceAll p) fun ended => ended = .ok () ∨ ∃ c, ended = .error (.crashed c) := by
  refine (calm_writeSteps p.last p.crash p.steps).then ?_
  cases p.crash with
  | none => exact (calm_pure ()).mono fun _ => .inl
  | some c => exact (calm_throw _).mono fun _ h => .inr ⟨c, h⟩

/-! ## Closing -/

/-- No statement is offered by a move. -/
theorem offered_not_mem {r r' : Running Binary64} {signals : List (Signal Binary64)}
    (h : Running.Transition r r' signals) (statement : Text) : .offered statement ∉ signals := by
  have hitem (item : Item) :
      Signal.offered statement ∉ (Running.Item.signals item : List (Signal Binary64)) := by
    unfold Running.Item.signals
    split <;> simp
  cases h with
  | take item => exact hitem item
  | complete v elapsed =>
    cases r.outcome v elapsed <;> simp [Running.Outcome.signals]
  | drained v => simp [hitem]
  | _ => simp

theorem calm_signal {s : Signal Binary64} (hs : ∀ statement, s ≠ .offered statement) :
    Calm core (signal s) (· = .ok ()) := by
  cases s with
  | event => exact calm_pure ()
  | offered statement => exact absurd rfl (hs statement)
  | closed => exact (calm_enter (overlooks_core rfl)).then (calm_pure ())
  | submitted => exact (calm_enter (overlooks_core rfl)).then (calm_notice _)
  | broken | cancelling | failed | succeeded => exact calm_notice _

theorem calm_signalAll {signals : List (Signal Binary64)}
    (h : ∀ statement, .offered statement ∉ signals) :
    Calm core (signalAll signals) (· = .ok ()) := by
  induction signals with
  | nil => exact calm_pure ()
  | cons s rest ih =>
    have hs (statement : Text) : s ≠ .offered statement := by
      rintro rfl
      exact h statement (by simp)
    have hrest (statement : Text) : .offered statement ∉ rest :=
      fun hmem => h statement (List.mem_cons_of_mem _ hmem)
    exact (calm_signal hs).then (ih hrest)

theorem offered_not_mem_advance (s : Surroundings Binary64) (r : Running Binary64)
    (statement : Text) : .offered statement ∉ (r.advance s).2.2 := by
  obtain ⟨is, m, hadv⟩ := Running.advance_eq s r
  rw [hadv]
  exact offered_not_mem (Running.step_transition _ m) statement

theorem calm_advance (r : Running Binary64) :
    Calm ledger (advance r) fun ended => ∃ r' signals, ended = .ok (r', signals) ∧
      ∀ statement, .offered statement ∉ signals :=
  fun shell hshell => ⟨hshell, rfl, _, _, rfl, offered_not_mem_advance shell.surroundings r⟩

theorem calm_drain (fuel : Nat) (r : Running Binary64) :
    Calm ledger (drain fuel r) (· = .ok ()) := by
  induction fuel generalizing r with
  | zero => exact calm_pure ()
  | succ fuel ih =>
    unfold drain
    split
    case isTrue => exact calm_pure ()
    case isFalse =>
      refine (calm_advance r).bind ?_ ?_
      · rintro _ ⟨r', signals, ⟨⟩, hsignals⟩
        exact (calm_signalAll hsignals).ledger.then (ih r')
      · rintro e ⟨r', signals, he, -⟩
        cases he

/-- **A statement that is given up** goes on to its end, and nothing is offered
    on the way. -/
theorem calm_closeEvents : Calm ledger closeEvents (· = .ok ()) := by
  refine calm_get ?_
  intro shell
  split
  · exact fun _ hshell => ⟨hshell, rfl, rfl⟩
  · split
    · exact calm_pure ()
    · exact calm_drain _ _
  · exact calm_pure ()

theorem calm_failCheck (c : Crash) : Calm ledger (failCheck c) (· = .ok (.crashed c)) := by
  have htick : Calm ledger
      (modify fun shell : Shell => { shell with surroundings := shell.surroundings.tick })
      (· = .ok ⟨⟩) := fun _ hshell => ⟨hshell, rfl, rfl⟩
  exact htick.then (calm_closeEvents.then (calm_pure _))

theorem calm_conclude (outcome : Outcome Binary64) :
    Calm ledger (conclude outcome) (· = .ok ()) := by
  refine calm_closeEvents.then ?_
  dsimp only
  split
  · exact calm_countError.ledger.then calm_flush.ledger
  · exact calm_flush.ledger

/-! ## A shell to begin with -/

/-- A shell with an engine whose statements have no result. -/
def freshShell : Shell where
  engine := { submit := fun _ _ => .accepted { batches := [], ending := .complete } }
  surroundings := { reading := fun _ => Binary64.zero }

/-- No output of it fails. -/
theorem isFaultless_freshShell : freshShell.console.IsFaultless :=
  ⟨⟨fun _ => rfl, fun _ => rfl⟩, ⟨fun _ => rfl, fun _ => rfl⟩⟩

end Shell

end SqlShell
