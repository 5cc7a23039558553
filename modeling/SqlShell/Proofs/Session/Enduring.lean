import SqlShell.Proofs.Session.Course

/-! # What a Presentation Endures

    A result is presented while any write may fail. An interruption strikes off a
    text and is endured; the first fault of another kind is the last thing that
    the presentation has to tell.

    * **`Endures`** is the invariant: the statement is pursued, and up to the last
      entries the only faults are texts that have been struck off.
    * **`Enduring`** says of an action that it keeps the invariant, or how it
      ends otherwise.
    * **`enduring_present`** puts the actions of a presentation together. -/

namespace SqlShell

/-- **An entry of an undisturbed course**: a fault of the output is a text that
    has been struck off. -/
structure Entry.IsSmooth (k : Console) (e : Entry) : Prop where
  presents : e.presents? = none
  fault : e.fault? = none ∨ e.isStruck = true
  allowed : k.Allows e

theorem Entry.isSmooth_of_isSilent {e : Entry} (k : Console) (hsilent : e.isSilent = true)
    (hpresents : e.presents? = none) : e.IsSmooth k :=
  ⟨hpresents, .inl (e.fault?_of_isSilent hsilent),
    Console.allows_of_fault? (e.fault?_of_isSilent hsilent)⟩

namespace Shell

/-! ## The invariant -/

/-- **A presentation endures** since it was begun in `origin`: its statement is
    pursued, and up to the `last` entries every text that has not been written has
    been struck off. -/
structure Endures (origin : Shell) (statement : Text) (past last : List Entry) (shell : Shell) :
    Prop where
  standing : shell.standing = origin.standing
  pursues : shell.Pursues statement past
  resting : shell.source.IsResting
  allowed : ∀ e ∈ last, origin.console.Allows e
  course : ∃ more, shell.console.entries = origin.console.entries ++ more ++ last ∧
    (∀ e ∈ more, e.IsSmooth origin.console) ∧ past = more.filter Entry.isMilestone

/-- **The engine holds a presentation up** that was begun in `origin`: it has taken
    the statement and blocks over it, and the query has not been told to stop. -/
structure HeldUp (origin : Shell) (statement : Text) (after : Shell) : Prop where
  blocks : origin.ledger.BlocksOver statement
  standing : after.standing = origin.standing
  submitted : .submitted statement ∈ after.console.entries
  working : after.source.IsAtWork statement

/-- **How a presentation ends that endures**: it goes on, or breaks down by
    itself; or a text that is not written ends it, and nothing follows that; or
    the engine holds it up. -/
def Endured {α : Type} (origin : Shell) (statement : Text) : Except Exit α → Shell → Prop
  | .ok _, after | .error (.crashed _), after => ∃ past, Endures origin statement past [] after
  | .error (.outputLost f), after =>
    ∃ past c, Endures origin statement past [.unwritten c (.fault f)] after
  | .error .interrupted, after =>
    ∃ past c, Endures origin statement past [.unwritten c .interrupt] after
  | .error .stalled, after => HeldUp origin statement after

/-- **An action endures** whatever comes. -/
def Enduring {α : Type} (origin : Shell) (statement : Text) (action : ShellM α) : Prop :=
  ∀ past shell, Endures origin statement past [] shell →
    Ensures action shell (Endured origin statement)

section Rules

variable {α β : Type} {origin shell after : Shell} {statement : Text} {past past' : List Entry}

theorem Enduring.bind {action : ShellM α} {next : α → ShellM β}
    (h : Enduring origin statement action) (hnext : ∀ a, Enduring origin statement (next a)) :
    Enduring origin statement (action >>= next) := by
  intro past shell hshell
  rw [ensures_bind]
  refine (h past shell hshell).mono ?_
  intro ended after hafter
  cases ended with
  | ok a =>
    obtain ⟨past', hafter⟩ := hafter
    exact hnext a past' after hafter
  | error e => cases e <;> exact hafter

theorem enduring_pure (a : α) : Enduring origin statement (pure a : ShellM α) :=
  fun past _ hshell => ⟨past, hshell⟩

theorem enduring_get {next : Shell → ShellM β}
    (h : ∀ shell, Enduring origin statement (next shell)) :
    Enduring origin statement (get >>= next) :=
  fun past shell hshell => h shell past shell hshell

/-- **An interruption strikes a text off**, and the presentation goes on. -/
theorem Endures.absorb {c : Channel}
    (h : Endures origin statement past [.unwritten c .interrupt] shell) :
    Endures origin statement past [] shell := by
  obtain ⟨more, hentries, hsmooth, rfl⟩ := h.course
  refine ⟨h.standing, h.pursues, h.resting, nofun, more ++ [.unwritten c .interrupt], ?_, ?_, ?_⟩
  · rw [hentries]
    simp
  · intro e he
    rcases List.mem_append.1 he with he | he
    · exact hsmooth e he
    · obtain rfl := List.mem_singleton.1 he
      exact ⟨rfl, .inr rfl, h.allowed _ List.mem_cons_self⟩
  · rw [List.filter_append]
    exact (List.append_nil _).symm

/-- A presentation goes on with its statement. -/
theorem Endures.continues (h : Endures origin statement past [] shell)
    (hcontinues : Continues statement past past' shell after) (hresting : after.source.IsResting) :
    Endures origin statement past' [] after := by
  obtain ⟨more, hentries, hsmooth, rfl⟩ := h.course
  obtain ⟨hstanding, hpursues, more', hentries', hsilent, rfl⟩ := hcontinues
  refine ⟨hstanding.trans h.standing, hpursues, hresting, nofun, more ++ more', ?_, ?_, ?_⟩
  · rw [hentries', hentries]
    simp
  · intro e he
    rcases List.mem_append.1 he with he | he
    · exact hsmooth e he
    · exact Entry.isSmooth_of_isSilent _ (hsilent e he).1 (hsilent e he).2
  · rw [List.filter_append]

end Rules

/-! ## The actions of a presentation -/

section Actions

variable {origin shell : Shell} {statement : Text} {past : List Entry}

/-- A statement at work has been submitted. -/
theorem Endures.submitted {past' : List Entry} {after : Shell}
    (h : Endures origin statement past [] shell)
    (hcontinues : Continues statement past past' shell after)
    (hworking : after.source.IsAtWork statement) :
    .submitted statement ∈ after.console.entries := by
  obtain ⟨more, hentries, -, rfl⟩ := h.course
  obtain ⟨-, hpursues, more', hentries', -, rfl⟩ := hcontinues
  obtain ⟨r, hr, -⟩ := hworking
  have hreached := hpursues.stage
  rw [hr] at hreached
  obtain ⟨stream, -, -, hpast⟩ := hreached.of_running
  have hmem : .submitted statement ∈ (more ++ more').filter Entry.isMilestone := by
    rw [List.filter_append, hpast]
    simp
  rw [hentries', hentries, List.append_nil, List.append_assoc]
  exact List.mem_append_right _ (List.mem_filter.1 hmem).1

/-- **The next reply** is waited for. -/
theorem endures_nextEvent (h : Endures origin statement past [] shell) :
    Ensures nextEvent shell fun ended after => ∃ reply, ended = .ok reply ∧
      (reply ≠ .stalled → ∃ past', Endures origin statement past' [] after) ∧
      match reply with
      | .stalled => HeldUp origin statement after
      | .interrupted => False
      | _ => True := by
  refine (replies_nextEvent h.pursues).mono ?_
  rintro ended after ⟨⟨past', hcontinues⟩, reply, rfl, hresting, hreply⟩
  refine ⟨reply, rfl, fun hne => ⟨past', h.continues hcontinues (hresting hne)⟩, ?_⟩
  cases reply with
  | stalled =>
    obtain ⟨⟨stream, ha, hb⟩, hworking⟩ := hreply
    exact ⟨⟨stream, (congrFun (answer_congr h.standing) statement).symm.trans ha, hb⟩,
      hcontinues.1.trans h.standing, h.submitted hcontinues hworking, hworking⟩
  | interrupted => exact hreply
  | _ => trivial

/-- A statement that is pursued has a flag, which an interruption raises. -/
theorem enduring_interrupted : Enduring origin statement interrupted := by
  intro past shell h
  rw [interrupted, ensures_bind, ensures_get]
  have hreached := h.pursues.stage
  have hflag : ∃ c, shell.source.flag? = some c := by
    generalize shell.source = source at hreached
    cases hreached <;> exact ⟨_, rfl⟩
  obtain ⟨c, hc⟩ := hflag
  simp only [hc]
  have hcontinues : Continues statement past past shell
      { shell with source := shell.source.raise interruptReason } :=
    ⟨rfl, ⟨hreached.raise interruptReason, h.pursues.limit, h.pursues.notices⟩, [],
      (List.append_nil _).symm, nofun, (List.append_nil _).symm⟩
  exact ⟨past, h.continues hcontinues (h.resting.raise interruptReason)⟩

theorem enduring_interlude : Enduring origin statement interlude := by
  intro past shell h
  have hreached := h.pursues.stage
  have hresting := h.resting
  rw [interlude, ensures_modify]
  generalize hs : shell.source = source at hreached hresting ⊢
  cases hreached with
  | running stream r ha hsound =>
    -- The other parties neither give a report nor touch the control.
    have hcontrol : (r.interlude shell.surroundings).2.control = r.control :=
      (Running.steps_interludes _ r).2
    have hreports : (r.interlude shell.surroundings).2.reports = r.reports :=
      hsound.reports_interludes _
    have hreached : Reached statement (shell.answer statement)
        (.execution (.running (r.interlude shell.surroundings).2))
        ([.offered statement, .submitted statement] ++ r.reports.map .executed) := by
      rw [← hreports]
      exact .running stream _ ha (hsound.steps _)
    refine ⟨_, h.continues ⟨rfl, ⟨hreached, h.pursues.limit, h.pursues.notices⟩, [],
      (List.append_nil _).symm, nofun, (List.append_nil _).symm⟩ ?_⟩
    intro r' hr'
    obtain rfl : (r.interlude shell.surroundings).2 = r' := by simpa using hr'
    have hatRest := hresting r rfl
    unfold Running.isAtRest at hatRest ⊢
    rwa [hcontrol]
  | _ => exact ⟨_, h⟩

/-- **A write** is done, or it is the last that is to be told. -/
theorem endures_put (c : Channel) (text : Text) (h : Endures origin statement past [] shell) :
    Ensures (put c text) shell fun ended after => ∃ fault, ended = .ok fault ∧
      Endures origin statement past (fault.toList.map (Entry.unwritten c)) after := by
  obtain ⟨more, hentries, hsmooth, rfl⟩ := h.course
  refine (traces_put c text shell).mono ?_
  rintro ended after ⟨fault, k, rfl, rfl, hnature, hput⟩
  have hstanding := (standing_console hnature).trans h.standing
  have hpursues : Pursues statement (more.filter Entry.isMilestone) { shell with console := k } :=
    ⟨h.pursues.stage, h.pursues.limit, (Console.givesNotices_congr hnature).2 h.pursues.notices⟩
  have hsame : shell.console.nature = origin.console.nature := congrArg Standing.nature h.standing
  refine ⟨fault, rfl, ?_⟩
  cases fault with
  | none =>
    refine ⟨hstanding, hpursues, h.resting, nofun, more ++ [.written c text], ?_, ?_, ?_⟩
    · rw [hput, hentries]
      simp
    · intro e he
      rcases List.mem_append.1 he with he | he
      · exact hsmooth e he
      · obtain rfl := List.mem_singleton.1 he
        exact ⟨rfl, .inl rfl, trivial⟩
    · rw [List.filter_append]
      exact (List.append_nil _).symm
  | some f =>
    refine ⟨hstanding, hpursues, h.resting, ?_, more, ?_, hsmooth, rfl⟩
    · intro e he
      obtain rfl := List.mem_singleton.1 he
      exact (Console.allows_congr hsame _).1 hput.2
    · rw [hput.1, hentries]
      simp

theorem enduring_write (c : Channel) (text : Text) :
    Enduring origin statement (write c text) := by
  intro past shell h
  rw [write, ensures_bind]
  refine (endures_put c text h).mono ?_
  rintro ended after ⟨fault, rfl, hafter⟩
  cases fault with
  | none => exact ⟨past, hafter⟩
  | some fault => cases fault <;> exact ⟨past, c, hafter⟩

theorem enduring_tellOutcome (outcome : Outcome Binary64) :
    Enduring origin statement (tellOutcome outcome) := by
  refine enduring_get ?_
  intro shell
  split
  · exact enduring_pure ()
  · exact enduring_write _ _

/-- **A production** is written as far as it goes. -/
theorem endures_writeSteps {σ : Type} (final : σ) (crash : Option Crash) (steps : List (σ × Text))
    (h : Endures origin statement past [] shell) :
    Ensures (writeSteps final crash steps) shell fun ended after => ∃ s lapse,
      ended = .ok (s, lapse) ∧ Endures origin statement past
        (match lapse with
          | some (.sink f) => [.unwritten .out f]
          | _ => []) after := by
  induction steps generalizing shell past with
  | nil =>
    refine ⟨final, crash.map .crash, rfl, ?_⟩
    cases crash <;> exact h
  | cons step rest ih =>
    obtain ⟨s, text⟩ := step
    rw [writeSteps, ensures_bind]
    refine (endures_put .out text h).mono ?_
    rintro ended after ⟨fault, rfl, hafter⟩
    cases fault with
    | none => exact ih hafter
    | some f => exact ⟨s, some (.sink f), rfl, hafter⟩

theorem enduring_produceAll {σ : Type} (p : Production σ) :
    Enduring origin statement (produceAll p) := by
  intro past shell h
  rw [produceAll, ensures_bind]
  refine (endures_writeSteps p.last p.crash p.steps h).mono ?_
  rintro ended after ⟨s, lapse, rfl, hafter⟩
  match lapse with
  | none | some (.crash c) => exact ⟨past, hafter⟩
  | some (.sink .interrupt) | some (.sink (.fault f)) => exact ⟨past, .out, hafter⟩

/-- **The events are taken**, and only a text that cannot be written ends that. -/
theorem enduring_takeEvents (fuel : Nat) (w : Writer) :
    Enduring origin statement (takeEvents fuel w) := by
  induction fuel generalizing w with
  | zero => exact enduring_pure _
  | succ fuel ih =>
    intro past shell h
    rw [takeEvents, ensures_bind]
    refine (endures_nextEvent h).mono ?_
    rintro ended next ⟨reply, rfl, hnext, hreply⟩
    cases reply with
    | stalled => exact hreply
    | interrupted => exact hreply.elim
    | exhausted => exact hnext nofun
    | crashed c => exact hnext nofun
    | event e =>
      obtain ⟨past', hevent⟩ := hnext nofun
      cases e with
      | completed outcome => exact ⟨past', hevent⟩
      | batch b =>
        refine enduring_interlude.bind ?_ past' next hevent
        intro _
        refine enduring_get ?_
        intro busy
        split
        case isTrue => exact ih w
        case isFalse =>
          intro past shell h
          rw [ensures_bind]
          refine (endures_writeSteps _ _ _ h).mono ?_
          rintro ended written ⟨w', lapse, rfl, hwritten⟩
          match lapse with
          | none => exact ih w' past written hwritten
          | some (.sink .interrupt) =>
            exact (enduring_interrupted.bind fun _ => ih w') past written hwritten.absorb
          | some (.sink (.fault f)) => exact ⟨past, .out, hwritten⟩
          | some (.crash c) => exact ⟨past, hwritten⟩

/-- **A presentation endures.** -/
theorem enduring_present (w : Writer) : Enduring origin statement (present w) := by
  refine enduring_get fun shell => (enduring_takeEvents _ w).bind ?_
  rintro ⟨w', came⟩
  refine enduring_get fun shell => (enduring_produceAll _).bind ?_
  intro _
  exact (enduring_tellOutcome _).bind fun _ => enduring_pure _

end Actions

end Shell

end SqlShell
