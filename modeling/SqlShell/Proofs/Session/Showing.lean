import Mathlib.Data.List.Forall2
import SqlShell.Proofs.Execution.Undisturbed
import SqlShell.Proofs.Session.Presenting
import SqlShell.Proofs.Session.Requests

/-! # What a Statement Shows

    What is written for a statement when nothing disturbs the shell depends on the
    answer of the engine, the format and the settings, and on nothing else but the
    time that the statement takes.

    * **`Submission.shown`** is what is written, as a function of all this.
    * **`Shell.Undisturbed`** says that no output fails and that the surroundings
      are undisturbed; **`Shows`** what such a shell has printed since.
    * **`Draws`** is the invariant while the events of a statement are taken.
    * **`shows_statement`**: a statement that is handled shows just that. -/

namespace SqlShell

/-! ## What is to be shown -/

/-- Some texts on one of the outputs. -/
def textsOn (c : Channel) (texts : List Text) (c' : Channel) : List Text :=
  if c' = c then texts else []

/-- How an action ends whose writer does what it is asked, or breaks down. -/
def Production.ends {σ α : Type} (p : Production σ) (a : α) : Except Exit α :=
  match p.crash with
  | none => .ok a
  | some c => .error (.crashed c)

namespace Production

variable {σ α : Type} {p : Production σ} {next : σ → Production σ}

theorem ends_of_crash {c : Crash} (h : p.crash = some c) (a : α) :
    p.ends a = .error (.crashed c) := by
  simp only [ends, h]

theorem ends_of_whole (h : p.crash = none) (a : α) : p.ends a = .ok a := by
  simp only [ends, h]

theorem ends_andThen (h : p.crash = none) (a : α) :
    (p.andThen next).ends a = (next p.last).ends a := by
  simp only [ends, crash_andThen h]

end Production

/-- Ends a result; a statement that has not succeeded is broken off. -/
def Writer.close (outcome : Outcome Binary64) (w : Writer) : Production Writer :=
  if outcome.isSuccess then w.finish else w.abort

namespace Submission

/-- What a writer makes of the batches of an answer. -/
def taken (w : Writer) : Submission → Production Writer
  | .refused _ => .done w
  | .crashed c => .fail w c
  | .accepted stream => w.takeAll stream.batches

/-- The outcome that an answer calls for when nobody cancels. -/
def outcome (elapsed : Binary64) : Submission → Outcome Binary64
  | .refused e => .failure e elapsed
  | .crashed c => .failure c.failure elapsed
  | .accepted stream => stream.outcome elapsed

/-- The reply on a statement that the engine does not take. -/
def refusal (elapsed : Binary64) (a : Submission) : Reply Binary64 :=
  match a with
  | .crashed c => .crashed c
  | _ => .event (.completed (a.outcome elapsed))

/-- What the writer of a format makes of an answer. -/
def written (settings : Settings) (format : ResultFormat) (elapsed : Binary64) (a : Submission) :
    Production Writer :=
  (a.taken (.create settings format)).andThen (Writer.close (a.outcome elapsed))

/-- **What is shown of a statement** with this answer on each output: the result,
    and the report on its outcome or on a breakdown. -/
def shown (settings : Settings) (format : ResultFormat) (elapsed : Binary64) (a : Submission)
    (c : Channel) : List Text :=
  textsOn .out (a.written settings format elapsed).texts c ++
    match (a.written settings format elapsed).crash with
    | none => Shell.reportOn settings (a.outcome elapsed) c
    | some crash => textsOn .err [Shell.errorLine crash.describe] c

end Submission

/-! ## Up to the time -/

/-- **Two texts are the same up to the time** that a summary line tells. -/
inductive SameUpToTime : Text → Text → Prop where
  | same (text : Text) : SameUpToTime text text
  | time (rows : Int) (elapsed elapsed' : Binary64) (timing : Bool) :
    SameUpToTime (successLine rows elapsed timing) (successLine rows elapsed' timing)

theorem sameUpToTime_refl (texts : List Text) : List.Forall₂ SameUpToTime texts texts :=
  List.forall₂_same.2 fun _ _ => .same _

/-- The report on an outcome is the same up to the time. -/
theorem ResultStream.sameUpToTime_report (stream : ResultStream) (settings : Settings)
    (elapsed elapsed' : Binary64) (c : Channel) : List.Forall₂ SameUpToTime
      (Shell.reportOn settings (stream.outcome elapsed) c)
      (Shell.reportOn settings (stream.outcome elapsed') c) := by
  have hcancelled (elapsed : Binary64) :
      (Outcome.cancelled interruptReason elapsed).closingLine settings
        = some (.err, "Query cancelled.\n".toList) := by
    rw [Outcome.closingLine, if_neg (by decide)]
  unfold ResultStream.outcome Shell.reportOn
  split
  case h_1 =>
    by_cases hquiet : settings.quiet <;> by_cases hc : Channel.out = c <;>
      simp [Outcome.closingLine, hquiet, hc, SameUpToTime.time]
  case h_2 | h_3 => exact sameUpToTime_refl _
  case h_4 | h_5 =>
    rw [hcancelled, hcancelled]
    exact sameUpToTime_refl _

/-- **What is shown does not depend on anything else** but the time. -/
theorem Submission.sameUpToTime_shown (a : Submission) (settings : Settings)
    (format : ResultFormat) (elapsed elapsed' : Binary64) (c : Channel) :
    List.Forall₂ SameUpToTime (a.shown settings format elapsed c)
      (a.shown settings format elapsed' c) := by
  have hsuccess : (a.outcome elapsed).isSuccess = (a.outcome elapsed').isSuccess := by
    cases a with
    | refused | crashed => rfl
    | accepted stream =>
      simp only [outcome, ResultStream.outcome]
      cases stream.ending <;> rfl
  have hwritten : a.written settings format elapsed = a.written settings format elapsed' := by
    unfold written Writer.close
    rw [hsuccess]
  unfold shown
  rw [hwritten]
  refine List.rel_append (sameUpToTime_refl _) ?_
  split
  case h_1 =>
    cases a with
    | refused | crashed => exact sameUpToTime_refl _
    | accepted stream => exact stream.sameUpToTime_report settings elapsed elapsed' c
  case h_2 => exact sameUpToTime_refl _

/-! ## What entries show -/

/-- What some entries print on an output. -/
def printedIn (entries : List Entry) (c : Channel) : List Text :=
  entries.filterMap (Entry.printed? c)

theorem Console.printed_of_entries {k k' : Console} {more : List Entry}
    (h : k'.entries = k.entries ++ more) (c : Channel) :
    k'.printed c = k.printed c ++ printedIn more c := by
  rw [Console.printed, h, List.filterMap_append]
  rfl

theorem Entry.printed?_of_isSilent {e : Entry} (h : e.isSilent = true) (c : Channel) :
    e.printed? c = none := by
  cases e <;> first | rfl | cases h

/-- Quiet entries print nothing. -/
theorem printedIn_of_silent {entries : List Entry} (h : ∀ e ∈ entries, e.isSilent = true)
    (c : Channel) : printedIn entries c = [] :=
  List.filterMap_eq_nil_iff.2 fun e he => e.printed?_of_isSilent (h e he) c

namespace Shell

/-! ## Undisturbed shells -/

/-- **Nothing disturbs a shell**: no output fails, nobody interrupts or cancels,
    and there is no time limit. -/
structure Undisturbed (shell : Shell) : Prop where
  console : shell.console.IsFaultless
  surroundings : shell.surroundings.Undisturbed

/-- **An undisturbed shell has printed these texts** on its outputs since it was
    like `shell`, and the session is the same. -/
structure Shows (texts : Channel → List Text) (shell after : Shell) : Prop where
  undisturbed : after.Undisturbed
  session : after.session = shell.session
  printed (c : Channel) : after.console.printed c = shell.console.printed c ++ texts c

section Showing

variable {α : Type} {action : ShellM α} {shell after last : Shell}
  {texts texts' : Channel → List Text} {P : Except Exit α → Prop}

theorem Shows.trans (h : Shows texts shell after) (h' : Shows texts' after last) :
    Shows (fun c => texts c ++ texts' c) shell last where
  undisturbed := h'.undisturbed
  session := h'.session.trans h.session
  printed c := by rw [h'.printed, h.printed, List.append_assoc]

/-- Nothing has been printed. -/
theorem shows_of_face (hafter : after.Undisturbed) (hface : after.face = shell.face) :
    Shows (fun _ => []) shell after := by
  obtain ⟨hprinted, hsession⟩ := Prod.mk.inj hface
  exact ⟨hafter, hsession, fun c => by rw [hprinted, List.append_nil]⟩

/-- What is still to be seen after nothing has been printed. -/
theorem Shows.of_face (hafter : after.Undisturbed) (hface : after.face = shell.face)
    (h : Shows texts after last) : Shows texts shell last :=
  (shows_of_face hafter hface).trans h

/-- A calm action that prints nothing. -/
theorem Calm.shows (h : Calm core action P) (hface : Keeps face action)
    (hshell : shell.Undisturbed) : Ensures action shell fun ended after =>
      P ended ∧ after.source = shell.source ∧ Shows (fun _ => []) shell after := by
  refine ((h shell hshell.console).and (hface shell)).mono ?_
  rintro ended after ⟨⟨hafter, hcore, hended⟩, hsame⟩
  have hsource : after.source = shell.source := congrArg (·.2.1) hcore
  have hsurroundings : after.surroundings = shell.surroundings := congrArg (·.2.2) hcore
  exact ⟨hended, hsource, shows_of_face ⟨hafter, hsurroundings ▸ hshell.surroundings⟩ hsame⟩

/-- **A write** prints its text. -/
theorem shows_put (c : Channel) (text : Text) (hshell : shell.Undisturbed) :
    Ensures (put c text) shell fun ended after => ended = .ok none ∧
      after.source = shell.source ∧ Shows (textsOn c [text]) shell after := by
  have hcalm : Calm core (put c text) (· = .ok none) := calm_put (overlooks_core rfl)
  refine ((hcalm shell hshell.console).and (ensures_put c text shell)).mono ?_
  rintro _ after ⟨⟨hafter, hcore, rfl⟩, fault, hfault, hsource, hsession, hprinted⟩
  obtain rfl : none = fault := Except.ok.inj hfault
  have hsurroundings : after.surroundings = shell.surroundings := congrArg (·.2.2) hcore
  refine ⟨rfl, hsource, ⟨hafter, hsurroundings ▸ hshell.surroundings⟩, hsession, ?_⟩
  intro c'
  rw [hprinted, textsOn]
  simp [eq_comm]

theorem shows_write (c : Channel) (text : Text) (hshell : shell.Undisturbed) :
    Ensures (write c text) shell fun ended after => ended = .ok () ∧
      after.source = shell.source ∧ Shows (textsOn c [text]) shell after := by
  rw [write, ensures_bind]
  refine (shows_put c text hshell).mono ?_
  rintro _ after ⟨rfl, hafter⟩
  exact ⟨rfl, hafter⟩

theorem textsOn_append (c : Channel) (l l' : List Text) :
    (fun c' => textsOn c l c' ++ textsOn c l' c') = textsOn c (l ++ l') := by
  funext c'
  unfold textsOn
  split <;> rfl

theorem shows_writeSteps {σ : Type} (final : σ) (crash : Option Crash) (steps : List (σ × Text))
    (hshell : shell.Undisturbed) :
    Ensures (writeSteps final crash steps) shell fun ended after =>
      ended = .ok (final, crash.map .crash) ∧ after.source = shell.source ∧
        Shows (textsOn .out (steps.map Prod.snd)) shell after := by
  induction steps generalizing shell with
  | nil =>
    refine ⟨rfl, rfl, hshell, rfl, ?_⟩
    intro c
    simp [textsOn]
  | cons step rest ih =>
    obtain ⟨s, text⟩ := step
    rw [writeSteps, ensures_bind]
    refine (shows_put .out text hshell).mono ?_
    rintro _ later ⟨rfl, hsource, hlater⟩
    refine (ih hlater.undisturbed).mono ?_
    rintro ended after ⟨hended, hsource', hafter⟩
    have hboth := hlater.trans hafter
    rw [textsOn_append] at hboth
    exact ⟨hended, hsource'.trans hsource, hboth⟩

/-- **A production is printed as a whole**, up to where the writer gives up. -/
theorem shows_produce {σ : Type} (p : Production σ) (hshell : shell.Undisturbed) :
    Ensures (produce p) shell fun ended after => ended = .ok (p.last, p.crash.map .crash) ∧
      after.source = shell.source ∧ Shows (textsOn .out p.texts) shell after :=
  shows_writeSteps p.last p.crash p.steps hshell

theorem shows_produceAll {σ : Type} (p : Production σ) (hshell : shell.Undisturbed) :
    Ensures (produceAll p) shell fun ended after => ended = p.ends () ∧
      Shows (textsOn .out p.texts) shell after := by
  rw [produceAll, ensures_bind]
  refine (shows_produce p hshell).mono ?_
  rintro _ after ⟨rfl, -, hafter⟩
  cases hc : p.crash with
  | none => exact ⟨(Production.ends_of_whole hc ()).symm, hafter⟩
  | some c => exact ⟨(Production.ends_of_crash hc ()).symm, hafter⟩

/-- The report on an outcome. -/
theorem shows_tellOutcome (outcome : Outcome Binary64) (hshell : shell.Undisturbed) :
    Ensures (tellOutcome outcome) shell fun ended after => ended = .ok () ∧
      Shows (reportOn shell.session.settings outcome) shell after := by
  rw [tellOutcome, ensures_bind, ensures_get]
  dsimp only
  split
  case h_1 hline =>
    refine ⟨rfl, hshell, rfl, ?_⟩
    intro c
    simp [reportOn, hline]
  case h_2 channel line hline =>
    have htexts : textsOn channel [line] = reportOn shell.session.settings outcome := by
      funext c
      by_cases hc : channel = c <;> simp [textsOn, reportOn, hline, hc, eq_comm]
    refine (shows_write channel line hshell).mono ?_
    rintro ended after ⟨hended, -, hafter⟩
    exact ⟨hended, htexts ▸ hafter⟩

end Showing

/-! ## Drawing on a stream -/

/-- **The shell draws on a stream** of which it has got these batches. -/
inductive Draws (stream : ResultStream) (yielded : List Batch) (shell : Shell) : Prop where
  | fresh (s : Text) (hs : shell.source = .execution (.fresh s {}))
      (ha : shell.answer s = .accepted stream) (hopen : stream.ending ≠ .blocked)
      (hy : yielded = [])
  | running (r : Running Binary64) (hs : shell.source = .execution (.running r))
      (h : r.Undisturbed stream yielded) (hl : r.Live)

/-- **What the shell gets next** of a stream of which it has got these batches. -/
def Gets (stream : ResultStream) (yielded : List Batch) (ended : Except Exit (Reply Binary64))
    (after : Shell) : Prop :=
  after.Undisturbed ∧ match ended with
    | .ok (.event (.batch b)) => yielded ++ [b] <+: stream.batches ∧
        ∃ r, after.source = .execution (.running r) ∧ r.Undisturbed stream (yielded ++ [b]) ∧ r.Live
    | .ok (.event (.completed outcome)) =>
      yielded = stream.batches ∧ ∃ elapsed, outcome = stream.outcome elapsed
    | _ => False

/-- **It is a batch or the outcome** that has been got. -/
theorem Gets.batch_or_outcome {stream : ResultStream} {yielded : List Batch}
    {ended : Except Exit (Reply Binary64)} {after : Shell} (h : Gets stream yielded ended after) :
    (∃ b r, ended = .ok (.event (.batch b)) ∧ yielded ++ [b] <+: stream.batches ∧
      after.source = .execution (.running r) ∧ r.Undisturbed stream (yielded ++ [b]) ∧ r.Live) ∨
    ∃ elapsed, ended = .ok (.event (.completed (stream.outcome elapsed))) ∧
      yielded = stream.batches := by
  obtain ⟨-, h⟩ := h
  cases ended with
  | error e => exact h.elim
  | ok reply =>
    cases reply with
    | event event =>
      cases event with
      | batch b =>
        obtain ⟨hahead, r, hr, hrunning, hl⟩ := h
        exact .inl ⟨b, r, rfl, hahead, hr, hrunning, hl⟩
      | completed outcome =>
        obtain ⟨hall, elapsed, rfl⟩ := h
        exact .inr ⟨elapsed, rfl, hall⟩
    | exhausted | interrupted | crashed _ | stalled => exact h.elim

section Drawing

variable {shell : Shell} {stream : ResultStream} {yielded : List Batch} {r : Running Binary64}

/-- **Attending to a running statement** brings the next event. -/
theorem gets_attend (last : Running Binary64 → ShellM (Reply Binary64)) (fuel : Nat)
    (hshell : shell.Undisturbed) (h : r.Undisturbed stream yielded) (hl : r.Live)
    (hc : r.control ≠ .yielded) (hfuel : r.movesLeft shell.surroundings < fuel) :
    Ensures (attend last fuel r) shell (Gets stream yielded) := by
  induction fuel generalizing r shell with
  | zero => exact absurd hfuel (Nat.not_lt_zero _)
  | succ fuel ih =>
    have hrest : r.isAtRest = false := by
      -- The control has neither yielded nor ended.
      have hfinished := h.has.control_ne h.low
      unfold Running.isAtRest
      split <;> simp_all
    refine ensures_attend_succ hrest ?_ ?_
    · intro c hcheck
      rw [Running.checkFault?_eq_none hshell.surroundings.limitFault r] at hcheck
      cases hcheck
    · intro around r' signals _ hadv
      have hbrings := h.advance hshell.surroundings rfl
      have hundisturbed := Running.undisturbed_surroundings hshell.surroundings r
      obtain ⟨hlive, hless⟩ := hl.of_advance shell.surroundings hrest hadv
      have hsignals := offered_not_mem_advance shell.surroundings r
      rw [hadv] at hbrings hundisturbed hsignals
      refine (calm_signalAll hsignals _ (by exact hshell.console)).mono ?_
      rintro _ after ⟨hafter, hcore, rfl⟩
      have hsource : after.source = .execution (.running r') := congrArg (·.2.1) hcore
      have hsurroundings : after.surroundings = around := congrArg (·.2.2) hcore
      have hlater : after.Undisturbed := ⟨hafter, hsurroundings ▸ hundisturbed⟩
      dsimp only
      split
      case h_1 e he =>
        rw [he] at hbrings
        cases e with
        | batch b => exact ⟨hlater, hbrings.1, r', hsource, hbrings.2, hlive⟩
        | completed outcome => exact ⟨hlater, hbrings⟩
      case h_2 he =>
        rw [he] at hbrings
        refine ih hlater hbrings.1 hlive (hbrings.2 hc) ?_
        rw [hsurroundings]
        omega

theorem gets_attendAll (hshell : shell.Undisturbed) (h : r.Undisturbed stream yielded)
    (hl : r.Live) (hc : r.control ≠ .yielded) :
    Ensures (attendAll r) shell (Gets stream yielded) := by
  rw [attendAll, ensures_bind, setExecution, ensures_modify]
  dsimp only
  rw [ensures_bind, ensures_get]
  exact gets_attend _ _ ⟨hshell.console, hshell.surroundings⟩ h hl hc
    (Running.movesLeft_lt_enoughMoves _ r)

/-- **Beginning a statement** that the engine takes. -/
theorem gets_begin {s : Text} (hshell : shell.Undisturbed)
    (ha : shell.answer s = .accepted stream) (hopen : stream.ending ≠ .blocked) :
    Ensures (begin s {}) shell (Gets stream []) := by
  have hoffered : signal (.offered s) shell
      = .ok () { shell with console := shell.console.enter (.offered s) } := rfl
  have hsubmit : shell.engine.submit shell.session.history s = .accepted stream := ha
  rw [begin, ensures_bind, Ensures, hoffered]
  dsimp only
  rw [ensures_bind, ensures_get]
  dsimp only
  rw [hsubmit, ensures_bind, ensures_set]
  dsimp only [Execution.begin]
  have hsubmitted : Calm core (signal (.submitted s)) (· = .ok ()) := by
    apply calm_signal
    rintro _ ⟨⟩
  refine hsubmitted.ensures (by exact hshell.console.enter _) ?_
  intro after hafter hcore
  have hsurroundings : after.surroundings = shell.surroundings.tick := congrArg (·.2.2) hcore
  have hlater : after.Undisturbed := ⟨hafter, hsurroundings ▸ hshell.surroundings.tick⟩
  refine gets_attendAll hlater (Running.undisturbed_begun hshell.surroundings s stream) ?_ ?_
  · exact Running.live_begun _ _ _ hopen
  · intro hyielded
    cases hyielded

/-- An answer that is not an interruption is passed on. -/
theorem gets_nextOfExecution {x : Execution Binary64}
    (h : Ensures (replyOf x) shell (Gets stream yielded)) :
    Ensures (nextOfExecution x) shell (Gets stream yielded) := by
  unfold nextOfExecution
  rw [ensures_bind, ensures_attempt]
  refine h.mono ?_
  intro ended after hafter
  cases ended with
  | ok reply => exact hafter
  | error e => exact hafter.2.elim

/-- **The next event** of a stream. -/
theorem gets_nextEvent (hshell : shell.Undisturbed) (h : shell.Draws stream yielded) :
    Ensures nextEvent shell (Gets stream yielded) := by
  rw [nextEvent, ensures_bind, ensures_get]
  cases h with
  | fresh s hs ha hopen hy =>
    simp only [hs]
    exact gets_nextOfExecution (hy ▸ gets_begin hshell ha hopen)
  | running r hs h hl =>
    simp only [hs]
    exact gets_nextOfExecution (gets_attendAll hshell h.resume.1
      (hl.transition (Running.step_transition r .resume)) h.resume.2)

end Drawing

/-! ## Taking the events -/

section Taking

variable {shell : Shell} {stream : ResultStream} {yielded : List Batch} {w : Writer}

/-- **How taking the events ends** whose batches a writer makes `p` of. -/
def Takes (p : Production Writer) (outcome : Binary64 → Outcome Binary64) (shell : Shell)
    (ended : Except Exit (Writer × Option (Outcome Binary64))) (after : Shell) : Prop :=
  Shows (textsOn .out p.texts) shell after ∧
    ∃ elapsed, ended = p.ends (p.last, some (outcome elapsed))

/-- What the other parties do while the shell is busy does not disturb it. -/
theorem draws_interlude (hshell : shell.Undisturbed) {r : Running Binary64}
    (hr : shell.source = .execution (.running r)) (h : r.Undisturbed stream yielded)
    (hl : r.Live) : Ensures interlude shell fun ended after => ended = .ok () ∧
      Shows (fun _ => []) shell after ∧ after.Draws stream yielded ∧
      after.source.isRaised = false := by
  rw [interlude, ensures_modify]
  simp only [hr]
  have hmoved : Surroundings.Undisturbed (r.interlude shell.surroundings).1 :=
    ⟨hshell.surroundings.waits, hshell.surroundings.interludes, hshell.surroundings.limit,
      hshell.surroundings.limitFault⟩
  have hnext := h.interlude hshell.surroundings
  exact ⟨trivial, shows_of_face ⟨hshell.console, hmoved⟩ rfl, .running _ rfl hnext (hl.steps _),
    hnext.low⟩

/-- **Taking the events** of a stream hands its batches to the writer. -/
theorem takes_takeEvents (fuel : Nat) (hshell : shell.Undisturbed)
    (h : shell.Draws stream yielded) {rest : List Batch} (hrest : yielded ++ rest = stream.batches)
    (hfuel : rest.length < fuel) :
    Ensures (takeEvents fuel w) shell (Takes (w.takeAll rest) stream.outcome shell) := by
  -- What the shell has got and what is left make up the stream; every batch takes one
  -- unit of the fuel.
  induction fuel generalizing shell w yielded rest with
  | zero => exact absurd hfuel (Nat.not_lt_zero _)
  | succ fuel ih =>
    rw [takeEvents, ensures_bind]
    refine ((gets_nextEvent hshell h).and (keeps_nextEvent shell)).mono ?_
    rintro ended next ⟨hgets, hface⟩
    have hnext := hgets.1
    rcases hgets.batch_or_outcome with ⟨b, r, rfl, hahead, hr, hrunning, hl⟩ | ⟨elapsed, rfl, hall⟩
    · obtain ⟨rest', rfl⟩ : ∃ rest', rest = b :: rest' := by
        rw [← hrest, List.prefix_append_right_inj] at hahead
        obtain ⟨rest', rfl⟩ := hahead
        exact ⟨rest', rfl⟩
      have hcons : w.takeAll (b :: rest') = (w.batch b).andThen fun w => w.takeAll rest' := rfl
      dsimp only
      rw [ensures_bind]
      refine (draws_interlude hnext hr hrunning hl).mono ?_
      rintro _ busy ⟨rfl, hbusy, hdraws, hlow⟩
      dsimp only
      rw [ensures_bind, ensures_get]
      dsimp only
      rw [if_neg (by simp [hlow]), ensures_bind]
      refine (shows_produce (w.batch b) hbusy.undisturbed).mono ?_
      rintro _ written ⟨rfl, hsource, hwritten⟩
      have hshown : Shows (textsOn .out (w.batch b).texts) shell written :=
        Shows.of_face hnext hface (hbusy.trans hwritten)
      rw [hcons]
      dsimp only
      cases hcrash : (w.batch b).crash with
      | some c =>
        rw [Production.andThen_of_crash hcrash]
        exact ⟨hshown, .zero, (Production.ends_of_crash hcrash _).symm⟩
      | none =>
        have hdraws' : written.Draws stream (yielded ++ [b]) := by
          cases hdraws with
          | fresh s hs ha hopen hy => simp at hy
          | running r hs h hl => exact .running r (hsource.trans hs) h hl
        refine (ih hwritten.undisturbed hdraws' (by simpa using hrest)
          (by simpa using hfuel)).mono ?_
        rintro ended after ⟨hafter, elapsed, hended⟩
        refine ⟨?_, elapsed, ?_⟩
        · rw [(Production.gives hcrash).texts_andThen, ← textsOn_append]
          exact hshown.trans hafter
        · rw [hended, Production.ends_andThen hcrash, Production.last_andThen hcrash]
    · -- The outcome comes behind the last batch.
      obtain rfl : rest = [] := by simpa [hall] using hrest
      refine ⟨?_, elapsed, rfl⟩
      refine Shows.of_face hnext hface ⟨hnext, rfl, ?_⟩
      intro c
      simp [textsOn, Writer.takeAll, Production.forEach, Production.done, Production.texts]

/-- **A statement that the engine does not take** gets one reply. -/
theorem gets_refusal {s : Text} (hshell : shell.Undisturbed)
    (hsource : shell.source = .execution (.fresh s {}))
    (ha : ∀ stream, shell.answer s ≠ .accepted stream) :
    Ensures nextEvent shell fun ended after => after.Undisturbed ∧
      ∃ elapsed, ended = .ok ((shell.answer s).refusal elapsed) := by
  have hoffered : signal (.offered s) shell
      = .ok () { shell with console := shell.console.enter (.offered s) } := rfl
  have hentered : (shell.console.enter (.offered s)).IsFaultless := hshell.console.enter _
  have hsubmit : shell.engine.submit shell.session.history s = shell.answer s := rfl
  rw [nextEvent, ensures_bind, ensures_get]
  simp only [hsource]
  have hbegin : replyOf (.fresh s {}) = begin s {} := rfl
  rw [nextOfExecution, ensures_bind, ensures_attempt, hbegin, begin, ensures_bind, Ensures,
    hoffered]
  dsimp only
  rw [ensures_bind, ensures_get]
  dsimp only
  rw [hsubmit, ensures_bind, ensures_set]
  cases hanswer : shell.answer s with
  | accepted stream => exact absurd hanswer (ha stream)
  | refused e => exact ⟨⟨hentered, hshell.surroundings.tick.tick⟩, _, rfl⟩
  | crashed c => exact ⟨⟨hentered, hshell.surroundings.tick⟩, .zero, rfl⟩

/-- **Taking the events of a statement** that has not been begun. -/
theorem takes_fresh {s : Text} (hshell : shell.Undisturbed)
    (hsource : shell.source = .execution (.fresh s {}))
    (hopen : ∀ stream, shell.answer s = .accepted stream → stream.ending ≠ .blocked) :
    Ensures (takeEvents shell.replyBound w) shell
      (Takes ((shell.answer s).taken w) (shell.answer s).outcome shell) := by
  have hbound : shell.replyBound
      = (Execution.fresh (τ := Binary64) s {}).eventBound shell.answer + 1 := by
    simp only [replyBound, hsource]
    rfl
  have hnothing {next : Shell} (hnext : next.Undisturbed) (hface : next.face = shell.face) :
      Shows (textsOn .out []) shell next := by
    refine Shows.of_face hnext hface ⟨hnext, rfl, ?_⟩
    intro c
    simp [textsOn]
  cases ha : shell.answer s with
  | accepted stream =>
    refine takes_takeEvents _ hshell (.fresh s hsource ha (hopen stream ha) rfl) rfl ?_
    rw [hbound]
    simp only [Execution.eventBound, ha]
    omega
  | refused e | crashed c =>
    rw [hbound, takeEvents, ensures_bind]
    refine ((gets_refusal hshell hsource (by simp [ha])).and (keeps_nextEvent shell)).mono ?_
    rintro _ next ⟨⟨hnext, elapsed, rfl⟩, hface⟩
    rw [ha]
    exact ⟨hnothing hnext hface, elapsed, rfl⟩

end Taking

/-! ## The whole statement -/

/-- The answer that the engine will give to a statement. -/
def answerTo (shell : Shell) (s : Text) : Submission :=
  shell.engine.submit (shell.session.record s).history s

section Handling

variable {shell : Shell} {s : Text}

/-- **How a presentation ends**, and what it shows. -/
def Displays (p : Production Writer) (outcome : Outcome Binary64) (shell : Shell)
    (ended : Except Exit (Outcome Binary64)) (after : Shell) : Prop :=
  ended = p.ends outcome ∧ Shows (fun c => textsOn .out p.texts c ++
    if p.crash = none then reportOn shell.session.settings outcome c else []) shell after

/-- **Ending a result** whose rows have been shown. -/
theorem displays_close {p : Production Writer} {outcome : Outcome Binary64} {taken : Shell}
    (htaken : Shows (textsOn .out p.texts) shell taken) (hp : p.crash = none) :
    Ensures (do
      produceAll (p.last.close outcome)
      tellOutcome outcome
      pure outcome) taken (Displays (p.andThen (Writer.close outcome)) outcome shell) := by
  rw [ensures_bind]
  refine (shows_produceAll (p.last.close outcome) htaken.undisturbed).mono ?_
  rintro _ closed ⟨rfl, hclosed⟩
  have hboth := htaken.trans hclosed
  rw [textsOn_append, ← (Production.gives hp).texts_andThen] at hboth
  cases hlast : (p.last.close outcome).crash with
  | some c =>
    rw [Production.ends_of_crash hlast]
    refine ⟨?_, by simpa [Production.crash_andThen hp, hlast] using hboth⟩
    rw [Production.ends_andThen hp, Production.ends_of_crash hlast]
  | none =>
    rw [Production.ends_of_whole hlast]
    dsimp only
    rw [ensures_bind]
    refine (shows_tellOutcome outcome hclosed.undisturbed).mono ?_
    rintro _ after ⟨rfl, hafter⟩
    rw [hboth.session] at hafter
    refine ⟨?_, by simpa [Production.crash_andThen hp, hlast] using hboth.trans hafter⟩
    rw [Production.ends_andThen hp, Production.ends_of_whole hlast]

/-- **Presenting a statement** shows what its writer makes of it, and the report. -/
theorem displays_present (w : Writer) (hshell : shell.Undisturbed)
    (hsource : shell.source = .execution (.fresh s {}))
    (hopen : ∀ stream, shell.answer s = .accepted stream → stream.ending ≠ .blocked) :
    Ensures (present w) shell fun ended after => ∃ elapsed, Displays
      (((shell.answer s).taken w).andThen (Writer.close ((shell.answer s).outcome elapsed)))
      ((shell.answer s).outcome elapsed) shell ended after := by
  rw [present, ensures_bind, ensures_get]
  dsimp only
  rw [ensures_bind]
  refine (takes_fresh hshell hsource hopen).mono ?_
  rintro _ taken ⟨htaken, elapsed, rfl⟩
  cases hp : ((shell.answer s).taken w).crash with
  | some c =>
    rw [Production.ends_of_crash hp]
    refine ⟨elapsed, ?_⟩
    rw [Production.andThen_of_crash hp]
    exact ⟨(Production.ends_of_crash hp _).symm, by simpa [hp] using htaken⟩
  | none =>
    rw [Production.ends_of_whole hp]
    dsimp only
    rw [ensures_bind, ensures_get]
    exact (displays_close htaken hp).mono fun ended after hafter => ⟨elapsed, hafter⟩

/-! ### What follows a presentation -/

theorem unaware_surroundings : Unaware Shell.surroundings := ⟨fun _ _ _ => rfl, fun _ _ => rfl⟩

/-- A control on its way out leaves the surroundings undisturbed. -/
theorem undisturbed_drain (fuel : Nat) (r : Running Binary64)
    (h : shell.surroundings.Undisturbed) :
    Ensures (drain fuel r) shell fun _ after => after.surroundings.Undisturbed := by
  induction fuel generalizing shell r with
  | zero => exact h
  | succ fuel ih =>
    unfold drain
    split
    case isTrue => exact h
    case isFalse =>
      rw [ensures_bind, advance, ensures_modifyGet]
      dsimp only
      rw [ensures_bind]
      have hnext := Running.undisturbed_surroundings h r
      refine (keeps_signalAll unaware_surroundings _ _).mono ?_
      intro ended later hlater
      have hlater : later.surroundings = (r.advance shell.surroundings).1 := hlater
      rw [← hlater] at hnext
      cases ended with
      | ok => exact ih _ hnext
      | error e => exact hnext

/-- **Giving a statement up** shows nothing. -/
theorem shows_closeEvents (hshell : shell.Undisturbed) :
    Ensures closeEvents shell fun ended after => ended = .ok () ∧
      Shows (fun _ => []) shell after := by
  have hsurroundings : Ensures closeEvents shell fun _ after =>
      after.surroundings.Undisturbed := by
    rw [closeEvents, ensures_bind, ensures_get]
    dsimp only
    split
    · exact hshell.surroundings
    · split
      · exact hshell.surroundings
      · exact undisturbed_drain _ _ hshell.surroundings
    · exact hshell.surroundings
  refine (((calm_closeEvents shell hshell.console).and (keeps_closeEvents shell)).and
    hsurroundings).mono ?_
  rintro ended after ⟨⟨⟨hafter, -, hended⟩, hface⟩, hsurroundings⟩
  exact ⟨hended, shows_of_face ⟨hafter, hsurroundings⟩ hface⟩

/-- What follows a statement that has been presented. -/
theorem shows_conclude (outcome : Outcome Binary64) (hshell : shell.Undisturbed) :
    Ensures (conclude outcome) shell fun ended after => ended = .ok () ∧
      Shows (fun _ => []) shell after := by
  have hflush (middle : Shell) (hmiddle : Shows (fun _ => []) shell middle) :
      Ensures flush middle fun ended after => ended = .ok () ∧
        Shows (fun _ => []) shell after := by
    have hkeeps : Keeps face flush := keeps_flush fun c shell =>
      congrArg (·, shell.session) (Console.printed_flush c shell.console)
    refine (calm_flush.shows hkeeps hmiddle.undisturbed).mono ?_
    rintro ended after ⟨hended, -, hafter⟩
    exact ⟨hended, hmiddle.trans hafter⟩
  rw [conclude, ensures_bind]
  refine (shows_closeEvents hshell).mono ?_
  rintro _ closed ⟨rfl, hclosed⟩
  dsimp only
  split
  case isTrue =>
    rw [ensures_bind]
    refine (calm_countError.shows (fun _ => rfl) hclosed.undisturbed).mono ?_
    rintro _ counted ⟨rfl, -, hcounted⟩
    exact hflush counted (hclosed.trans hcounted)
  case isFalse => exact hflush closed hclosed

/-- **A breakdown** shows in one line. -/
theorem shows_reportCrash (c : Crash) (hshell : shell.Undisturbed) :
    Ensures (followedBy (reportCrash c) closeEvents) shell fun ended after => ended = .ok () ∧
      Shows (textsOn .err [errorLine c.describe]) shell after := by
  have hnote : Keeps face (note .unexpected) := keeps_note _ fun shell => unaware_face.note shell _
  rw [followedBy, ensures_bind, ensures_attempt, reportCrash, ensures_bind]
  refine ((calm_notice .unexpected).shows hnote hshell).mono ?_
  rintro _ noted ⟨rfl, -, hnoted⟩
  dsimp only
  rw [ensures_bind]
  refine (calm_countError.shows (fun _ => rfl) hnoted.undisturbed).mono ?_
  rintro _ counted ⟨rfl, -, hcounted⟩
  refine (shows_write .err _ hcounted.undisturbed).mono ?_
  rintro _ told ⟨rfl, -, htold⟩
  dsimp only
  rw [ensures_bind]
  refine (shows_closeEvents htold.undisturbed).mono ?_
  rintro _ after ⟨rfl, hafter⟩
  refine ⟨rfl, ?_⟩
  simpa using ((hnoted.trans hcounted).trans htold).trans hafter

/-- **A presentation is settled**, and a breakdown of its writer shows. -/
theorem shows_settle {p : Production Writer} {outcome : Outcome Binary64}
    {ended : Except Exit (Outcome Binary64)} {shown : Shell}
    (h : Displays p outcome shell ended shown) :
    Ensures (settle ended) shown fun ended after => ended = .ok () ∧
      Shows (fun c => textsOn .out p.texts c ++
        match p.crash with
        | none => reportOn shell.session.settings outcome c
        | some crash => textsOn .err [errorLine crash.describe] c) shell after := by
  obtain ⟨rfl, hshown⟩ := h
  cases hp : p.crash with
  | none =>
    rw [Production.ends_of_whole hp]
    refine (shows_conclude outcome hshown.undisturbed).mono ?_
    rintro ended after ⟨hended, hafter⟩
    refine ⟨hended, ?_⟩
    simpa [hp] using hshown.trans hafter
  | some c =>
    rw [Production.ends_of_crash hp]
    refine (shows_reportCrash c hshown.undisturbed).mono ?_
    rintro ended after ⟨hended, hafter⟩
    refine ⟨hended, ?_⟩
    simpa [hp] using hshown.trans hafter

/-! ### Handling -/

/-- **A result is shown** in the format and with the settings of the session. -/
theorem displays_showResult (hshell : shell.Undisturbed)
    (hsource : shell.source = .execution (.fresh s {}))
    (hopen : ∀ stream, shell.answer s = .accepted stream → stream.ending ≠ .blocked) :
    Ensures showResult shell fun ended after => ∃ elapsed, Displays
      ((shell.answer s).written shell.session.settings shell.session.format elapsed)
      ((shell.answer s).outcome elapsed) shell ended after := by
  rw [showResult, ensures_bind]
  have hkeeps := keeps_enterPhase unaware_face (fun _ _ => rfl) .rendering shell
  refine ((calm_phase .rendering shell hshell.console).and hkeeps).mono ?_
  rintro _ next ⟨⟨hnext, hcore, rfl⟩, hface⟩
  have hledger : next.ledger = shell.ledger := congrArg Prod.fst hcore
  have hsurroundings : next.surroundings = shell.surroundings := congrArg (·.2.2) hcore
  have hsession : next.session = shell.session := congrArg Ledger.session hledger
  have hengine : next.engine = shell.engine := congrArg Ledger.engine hledger
  have hanswer : next.answer = shell.answer := by
    funext s
    rw [answer, answer, hengine, hsession]
  have hlater : next.Undisturbed := ⟨hnext, hsurroundings ▸ hshell.surroundings⟩
  rw [createWriter, ensures_bind, ensures_bind, ensures_get]
  have hpresent := displays_present (Writer.create shell.session.settings shell.session.format)
    hlater ((congrArg (·.2.1) hcore).trans hsource) (hanswer ▸ hopen)
  dsimp only
  rw [ensures_pure, hsession]
  refine hpresent.mono ?_
  rintro ended after ⟨elapsed, hended, hafter⟩
  rw [hanswer, hsession] at hafter
  rw [hanswer] at hended
  exact ⟨elapsed, hended, Shows.of_face hlater hface hafter⟩

/-- **What is shown of a statement** that is handled by an undisturbed shell. -/
theorem shows_statement (s : Text) (hshell : shell.Undisturbed)
    (hopen : ∀ stream, shell.answerTo s = .accepted stream → stream.ending ≠ .blocked) :
    Ensures (handle (.statement s)) shell fun ended after => ended = .ok () ∧
      after.Undisturbed ∧ ∃ elapsed, ∀ c, after.console.printed c = shell.console.printed c ++
        (shell.answerTo s).shown shell.session.settings shell.session.format elapsed c := by
  rw [handle_statement, ensures_bind]
  refine (ensures_takeUp s hshell.console.givesNotices).mono ?_
  rintro _ begun ⟨rfl, k, taken, rfl, hnature, hentries, hquiet, -, -⟩
  have hprinted (c : Channel) : k.printed c = shell.console.printed c := by
    rw [Console.printed_of_entries hentries, printedIn_of_silent fun e he => (hquiet e he).1,
      List.append_nil]
  have hbegun : Undisturbed
      { shell with
        console := k
        session := shell.session.record s
        source := .execution (.fresh s {})
        phase := .executing } :=
    ⟨(Console.isFaultless_congr hnature).2 hshell.console, hshell.surroundings⟩
  dsimp only
  rw [ensures_bind, ensures_attempt]
  refine (displays_showResult hbegun rfl hopen).mono ?_
  rintro ended shown ⟨elapsed, hdisplays⟩
  refine (shows_settle hdisplays).mono ?_
  rintro ended after ⟨hended, hafter⟩
  refine ⟨hended, hafter.undisturbed, elapsed, ?_⟩
  intro c
  rw [hafter.printed, hprinted]
  rfl

end Handling

end Shell

end SqlShell
