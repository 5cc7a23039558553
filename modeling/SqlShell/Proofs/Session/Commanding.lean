import SqlShell.Proofs.Session.Ledger

/-! # Commands and the Session

    A command changes **what it is about**, and nothing else; a command that is
    refused changes nothing at all.

    * **`Verb.Changes`** says, command by command, what may be changed, and
      **`changes_perform`** that it is so.
    * **`Settles`** is what the shell makes of one command: `settles_perform`.
    * **`Deed`** is one of the things that are done with a session between two
      statements, and **`deeds_keep_session`** says what any number of them, one
      after the other, leaves of it. -/

namespace SqlShell

/-! ## What a command may change -/

/-- **What a command may change**: its own part of the session. -/
inductive Verb.Changes (s : Session) : Verb → Session → Prop where
  | nothing (verb : Verb) (h : verb ≠ .quit) : Changes s verb s
  | running : Changes s .quit { s with running := false }
  | format (f : ResultFormat) : Changes s .format { s with format := f }
  | namedFormat (f : ResultFormat) : Changes s .pset { s with format := f }
  | quiet (b : Bool) : Changes s .quiet { s with settings := { s.settings with quiet := b } }
  | timing (b : Bool) : Changes s .timing { s with settings := { s.settings with timing := b } }
  | maxWidth (n : Int) (h : 4 ≤ n) :
    Changes s .maxWidth { s with settings := { s.settings with maxWidth := n } }
  | nullMarker (marker : Text) :
    Changes s .null { s with settings := { s.settings with nullMarker := some marker } }

/-- The format is changed to one that exists, or it is told. -/
theorem chooseFormat_cases {s after : Session} {name : Text} {answer : List Text}
    (h : chooseFormat s name = .ok (after, answer)) :
    after = s ∨ ∃ f, after = { s with format := f } := by
  unfold chooseFormat at h
  by_cases hname : name.isEmpty = true
  · rw [if_pos hname] at h
    cases h
    exact .inl rfl
  · rw [if_neg hname] at h
    cases hparse : ResultFormat.parse (some name) with
    | error e =>
      rw [hparse] at h
      cases h
    | ok f =>
      rw [hparse] at h
      cases h
      exact .inr ⟨f, rfl⟩

/-- A switch is in one of its two positions afterwards. -/
theorem exists_of_map_switchTo {form : String} {args : Text} {current : Bool}
    {change : Bool → Session × List Text} {after : Session} {answer : List Text}
    (h : (switchTo form args current).map change = .ok (after, answer)) :
    ∃ b, after = (change b).1 := by
  cases hswitch : switchTo form args current with
  | error e =>
    rw [hswitch] at h
    cases h
  | ok b =>
    rw [hswitch] at h
    have hafter : change b = (after, answer) := Except.ok.inj h
    exact ⟨b, by rw [hafter]⟩

/-- **A command that is obeyed** changes what it is about, at the most. -/
theorem ShellCommand.changes_perform {c : ShellCommand} {s after : Session} {answer : List Text}
    (h : c.perform s = .ok (after, answer)) :
    ∃ verb, Verb.ofName? c.name = some verb ∧ verb.Changes s after := by
  unfold perform at h
  cases hverb : Verb.ofName? c.name with
  | none =>
    rw [hverb] at h
    cases h
  | some verb =>
    refine ⟨verb, rfl, ?_⟩
    rw [hverb] at h
    cases verb with
    | help =>
      cases h
      exact .nothing .help (by decide)
    | quit =>
      cases h
      exact .running
    | format =>
      rcases chooseFormat_cases h with hsame | ⟨f, hchanged⟩
      · rw [hsame]
        exact .nothing .format (by decide)
      · rw [hchanged]
        exact .format f
    | pset =>
      dsimp only at h
      split at h
      case h_1 word name _ =>
        by_cases hword : Text.lower word = "format".toList
        · rw [if_pos hword] at h
          rcases chooseFormat_cases h with hsame | ⟨f, hchanged⟩
          · rw [hsame]
            exact .nothing .pset (by decide)
          · rw [hchanged]
            exact .namedFormat f
        · rw [if_neg hword] at h
          cases h
      case h_2 => cases h
    | quiet =>
      obtain ⟨b, hafter⟩ := exists_of_map_switchTo h
      rw [hafter]
      exact .quiet b
    | timing =>
      obtain ⟨b, hafter⟩ := exists_of_map_switchTo h
      rw [hafter]
      exact .timing b
    | maxWidth =>
      dsimp only at h
      split at h
      case h_1 => cases h
      case h_2 n _ =>
        by_cases hnarrow : n < 4
        · rw [if_pos hnarrow] at h
          cases h
        · rw [if_neg hnarrow] at h
          cases h
          exact .maxWidth n (by omega)
    | null =>
      cases h
      exact .nullMarker c.args
    | history =>
      dsimp only at h
      split at h
      case h_1 => cases h
      case h_2 n _ =>
        cases h
        exact .nothing .history (by decide)

namespace Verb.Changes

variable {s after : Session} {verb : Verb} (h : verb.Changes s after)

include h

/-- No command touches the statements of the session. -/
theorem history_eq : after.history = s.history ∧ after.saved = s.saved := by
  cases h <;> exact ⟨rfl, rfl⟩

theorem four_le_maxWidth (hwidth : 4 ≤ s.settings.maxWidth) : 4 ≤ after.settings.maxWidth := by
  cases h with
  | maxWidth n hn => exact hn
  | _ => exact hwidth

/-- **One command only** leaves the session. -/
theorem running_eq : after.running = (s.running && verb ≠ .quit) := by
  cases h with
  | nothing verb hverb => simp [hverb]
  | running => simp
  | _ => simp

end Verb.Changes

theorem mem_verbNames {name : Text} {verb : Verb} (h : Verb.ofName? name = some verb) :
    (name, verb) ∈ verbNames := by
  obtain ⟨before, behind, hnames, -⟩ := List.lookup_eq_some_iff.1 h
  rw [hnames]
  exact List.mem_append_right _ List.mem_cons_self

/-- The names under which the session is left. -/
def leavingNames : List Text := ["quit".toList, "exit".toList, "\\q".toList]

/-- **The command that leaves the session** has these names and no others. -/
theorem ofName?_eq_quit (name : Text) :
    Verb.ofName? name = some .quit ↔ name ∈ leavingNames := by
  constructor
  · intro h
    have hall : ∀ entry ∈ verbNames, entry.2 = .quit → entry.1 ∈ leavingNames := by
      decide
    exact hall _ (mem_verbNames h) rfl
  · intro h
    have hall : ∀ name ∈ leavingNames, Verb.ofName? name = some .quit := by
      decide
    exact hall name h

namespace Shell

/-! ## One command -/

/-- The shell apart from its console, its session and the count of its failures. -/
def apart (shell : Shell) : Shell := { shell with console := {}, session := {}, errors := 0 }

/-- **What the shell makes of a command.** -/
inductive Settles (c : ShellCommand) (before after : Shell) : Prop where
  /-- It is refused: one line tells why, and the session is what it was. -/
  | refused (e : CommandError) (h : c.perform before.session = .error e)
    (session : after.session = before.session)
    (entries : after.console.entries
      = before.console.entries ++ [.written .err (errorLine e.message)])
  /-- It is obeyed: its answer is written, and it changes what it is about. -/
  | obeyed (verb : Verb) (answer : List Text) (hverb : Verb.ofName? c.name = some verb)
    (h : c.perform before.session = .ok (after.session, answer))
    (changes : verb.Changes before.session after.session)
    (entries : after.console.entries = before.console.entries ++ answer.map (.written .out))

section Answering

variable {shell : Shell}

theorem ensures_writeAll (c : Channel) (texts : List Text) (hshell : shell.console.IsFaultless) :
    Ensures (writeAll c texts) shell fun ended after => ended = .ok () ∧
      after.console.IsFaultless ∧ after = { shell with console := after.console } ∧
      after.console.entries = shell.console.entries ++ texts.map (.written c) := by
  induction texts generalizing shell with
  | nil => exact ⟨rfl, hshell, rfl, (List.append_nil _).symm⟩
  | cons text texts ih =>
    rw [writeAll, ensures_bind]
    refine (ensures_write c text hshell).mono ?_
    intro ended written hwritten
    obtain ⟨hended, hfaultless, hsame, hentries⟩ := hwritten
    subst hended
    refine (ih hfaultless).mono ?_
    intro ended after hafter
    obtain ⟨hended, hafter, hrest, hmore⟩ := hafter
    refine ⟨hended, hafter, ?_, ?_⟩
    · rw [hrest, hsame]
    · rw [hmore, hentries, List.append_assoc]
      rfl

/-- **One command** is refused or obeyed; everything but the session stays as it is. -/
theorem settles_perform (c : ShellCommand) (hshell : shell.console.IsFaultless) :
    Ensures (perform c) shell fun ended after => ended = .ok () ∧ after.console.IsFaultless ∧
      after.apart = shell.apart ∧ Settles c shell after := by
  rw [perform, ensures_bind, ensures_get]
  cases hperform : c.perform shell.session with
  | error e =>
    simp only [hperform]
    rw [ensures_bind, countError, ensures_modify]
    refine (ensures_write .err (errorLine e.message) (by exact hshell)).mono ?_
    intro ended after hafter
    obtain ⟨hended, hfaultless, hsame, hentries⟩ := hafter
    refine ⟨hended, hfaultless, ?_, ?_⟩
    · rw [hsame]
      rfl
    · apply Settles.refused e hperform _ hentries
      rw [hsame]
  | ok result =>
    obtain ⟨session, answer⟩ := result
    simp only [hperform]
    rw [ensures_bind, ensures_modify]
    refine (ensures_writeAll .out answer (by exact hshell)).mono ?_
    intro ended after hafter
    obtain ⟨hended, hfaultless, hsame, hentries⟩ := hafter
    obtain ⟨verb, hverb, hchanges⟩ := ShellCommand.changes_perform hperform
    have hsession : after.session = session := by rw [hsame]
    refine ⟨hended, hfaultless, ?_, ?_⟩
    · rw [hsame]
      rfl
    · rw [← hsession] at hperform hchanges
      exact .obeyed verb answer hverb hperform hchanges hentries

end Answering

/-! ## Many commands -/

/-- **What is done with a session** between two statements. -/
inductive Deed where
  /-- A text comes in, which may be a command. -/
  | enter (text : Text)
  /-- A command is to be carried out, whatever its name and its arguments. -/
  | command (c : ShellCommand)
  /-- A statement is recorded. -/
  | record (statement : Text)

namespace Deed

/-- The command that is carried out. -/
def command? : Deed → Option ShellCommand
  | enter text =>
    match Input.ofText text with
    | .command c => some c
    | .statement _ | .empty => none
  | command c => some c
  | record _ => none

/-- The statement that is recorded. -/
def recorded? : Deed → Option Text
  | enter _ | command _ => none
  | record statement => some statement

/-- It leaves the session: it is a command of one of the three names. -/
def leaves (deed : Deed) : Bool := deed.command?.any fun c => leavingNames.contains c.name

end Deed

/-- Does one of these things. -/
def act : Deed → ShellM Unit
  | .enter text =>
    match Input.ofText text with
    | .command c => perform c
    | .statement _ | .empty => pure ()
  | .command c => perform c
  | .record statement =>
    modify fun shell => { shell with session := shell.session.record statement }

/-- Does them one after the other. -/
def actAll : List Deed → ShellM Unit
  | [] => pure ()
  | deed :: r => do
    act deed
    actAll r

/-- **What is kept** while things are done with a session: `recorded` has been
    recorded, and `left` tells whether the session has been left. -/
structure Kept (before : Shell) (recorded : List Text) (left : Bool) (after : Shell) : Prop where
  faultless : after.console.IsFaultless
  apart : after.apart = before.apart
  offers : after.console.offers = before.console.offers
  maxWidth : 4 ≤ after.session.settings.maxWidth
  running : after.session.running = (before.session.running && !left)
  history : after.session.history = before.session.history ++ recorded
  saved : after.session.saved = before.session.saved

section Deeds

variable {shell before : Shell} {recorded : List Text} {left : Bool}

/-- Nothing is offered by the answer to a command. -/
theorem Settles.offers_eq {c : ShellCommand} {after : Shell} (h : Settles c shell after) :
    after.console.offers = shell.console.offers := by
  cases h with
  | refused e _ _ entries =>
    rw [Console.offers_of_entries entries]
    exact List.append_nil _
  | obeyed verb answer _ _ _ entries =>
    rw [Console.offers_of_entries entries, List.filterMap_map]
    have hnone : answer.filterMap (Entry.offered? ∘ Entry.written .out) = [] :=
      List.filterMap_eq_nil_iff.2 fun _ _ => rfl
    rw [hnone, List.append_nil]

/-- **What one command leaves** of the session. -/
theorem Settles.session_kept {c : ShellCommand} {after : Shell} (h : Settles c shell after)
    (hwidth : 4 ≤ shell.session.settings.maxWidth) :
    4 ≤ after.session.settings.maxWidth ∧
      after.session.running = (shell.session.running && !leavingNames.contains c.name) ∧
      after.session.history = shell.session.history ∧
      after.session.saved = shell.session.saved := by
  cases h with
  | refused e hrefused hsession _ =>
    -- The command that leaves the session is never refused.
    have hname : c.name ∉ leavingNames := by
      intro hname
      rw [ShellCommand.perform, (ofName?_eq_quit c.name).2 hname] at hrefused
      cases hrefused
    rw [hsession]
    exact ⟨hwidth, by simp [hname], rfl, rfl⟩
  | obeyed verb answer hverb _ changes _ =>
    have hquit : decide (verb ≠ .quit) = !leavingNames.contains c.name := by
      have hname := ofName?_eq_quit c.name
      rw [hverb, Option.some.injEq] at hname
      simp [hname]
    refine ⟨changes.four_le_maxWidth hwidth, ?_, changes.history_eq⟩
    rw [changes.running_eq, hquit]

/-- **A command keeps to that.** -/
theorem Kept.perform (h : Kept before recorded left shell) (c : ShellCommand) :
    Ensures (perform c) shell fun ended after => ended = .ok () ∧
      Kept before recorded (left || leavingNames.contains c.name) after := by
  refine (settles_perform c h.faultless).mono ?_
  intro ended after hafter
  obtain ⟨hended, hfaultless, hapart, hsettles⟩ := hafter
  obtain ⟨hwidth, hrunning, hhistory, hsaved⟩ := hsettles.session_kept h.maxWidth
  refine ⟨hended, ?_⟩
  constructor
  · exact hfaultless
  · exact hapart.trans h.apart
  · exact hsettles.offers_eq.trans h.offers
  · exact hwidth
  · rw [hrunning, h.running, Bool.not_or, Bool.and_assoc]
  · exact hhistory.trans h.history
  · exact hsaved.trans h.saved

/-- **One deed** keeps to it. -/
theorem Kept.act (h : Kept before recorded left shell) (deed : Deed) :
    Ensures (act deed) shell fun ended after => ended = .ok () ∧
      Kept before (recorded ++ deed.recorded?.toList) (left || deed.leaves) after := by
  cases deed with
  | record statement =>
    refine ⟨rfl, ?_⟩
    constructor
    · exact h.faultless
    · exact h.apart
    · exact h.offers
    · exact h.maxWidth
    · rw [Deed.leaves, Deed.command?, Option.any_none, Bool.or_false]
      exact h.running
    · show shell.session.history ++ [statement] = _
      rw [h.history, List.append_assoc]
      rfl
    · exact h.saved
  | command c =>
    show Ensures (Shell.perform c) shell fun ended after => ended = .ok () ∧
      Kept before (recorded ++ []) (left || leavingNames.contains c.name) after
    rw [List.append_nil]
    exact h.perform c
  | enter text =>
    rw [Deed.recorded?, Option.toList_none, List.append_nil, Deed.leaves, Deed.command?, Shell.act]
    cases Input.ofText text with
    | command c => exact h.perform c
    | statement _ | empty =>
      dsimp only
      rw [Option.any_none, Bool.or_false]
      exact ⟨rfl, h⟩

/-- **Any number of deeds** keeps to it. -/
theorem Kept.actAll (h : Kept before recorded left shell) (deeds : List Deed) :
    Ensures (actAll deeds) shell fun ended after => ended = .ok () ∧
      Kept before (recorded ++ deeds.filterMap Deed.recorded?) (left || deeds.any Deed.leaves)
        after := by
  induction deeds generalizing shell recorded left with
  | nil =>
    rw [List.filterMap_nil, List.append_nil, List.any_nil, Bool.or_false]
    exact ⟨rfl, h⟩
  | cons deed deeds ih =>
    rw [Shell.actAll, ensures_bind]
    refine (h.act deed).mono ?_
    intro ended later hlater
    obtain ⟨hended, hkept⟩ := hlater
    subst hended
    have hrest := ih hkept
    have hrecorded : recorded ++ (deed :: deeds).filterMap Deed.recorded?
        = recorded ++ deed.recorded?.toList ++ deeds.filterMap Deed.recorded? := by
      rw [List.append_assoc]
      cases hdeed : deed.recorded? <;> simp [hdeed]
    rw [hrecorded, List.any_cons, ← Bool.or_assoc]
    exact hrest

end Deeds

/-- **Commands keep the session in order.**  Whatever is entered, commanded and
    recorded, one after the other, in a shell of which no output fails: all of it
    is done; tables stay at least four characters wide; the session has been left
    if and only if one of the three commands for it has come, for good; the
    history grows by what is recorded, none of it counts as saved, and the engine
    is not called.  A command that comes then is refused, and changes nothing and
    writes nothing but the line that says why, or it is obeyed, and changes no
    more than what it is about. -/
theorem deeds_keep_session (shell : Shell) (hshell : shell.console.IsFaultless)
    (hwidth : 4 ≤ shell.session.settings.maxWidth) (deeds : List Deed) :
    Ensures (actAll deeds) shell fun ended after => ended = .ok () ∧
      Kept shell (deeds.filterMap Deed.recorded?) (deeds.any Deed.leaves) after ∧
      ∀ c, Ensures (perform c) after fun ended later => ended = .ok () ∧
        later.apart = after.apart ∧ Settles c after later := by
  have hstart : Kept shell [] false shell := by
    constructor
    · exact hshell
    · rfl
    · rfl
    · exact hwidth
    · rw [Bool.not_false, Bool.and_true]
    · exact (List.append_nil _).symm
    · rfl
  refine (hstart.actAll deeds).mono ?_
  intro ended after hafter
  obtain ⟨hended, hkept⟩ := hafter
  rw [List.nil_append, Bool.false_or] at hkept
  refine ⟨hended, hkept, ?_⟩
  intro c
  refine (settles_perform c hkept.faultless).mono ?_
  intro ended later hlater
  obtain ⟨hended, -, hapart, hsettles⟩ := hlater
  exact ⟨hended, hapart, hsettles⟩

/-- A width that is too small is refused, and the session is not entered again
    once it has been left. -/
theorem deeds_keep_session_left :
    freshShell.console.IsFaultless ∧ 4 ≤ freshShell.session.settings.maxWidth ∧
      Ensures (actAll [.enter "\\maxwidth 3".toList, .record "select 1".toList,
          .enter "\\Q;".toList, .command ⟨"format".toList, "csv".toList⟩]) freshShell
        fun ended after => ended = .ok () ∧ 4 ≤ after.session.settings.maxWidth ∧
          after.session.running = false ∧ after.session.history = ["select 1".toList] := by
  have hwidth : 4 ≤ freshShell.session.settings.maxWidth := by decide
  refine ⟨isFaultless_freshShell, hwidth, ?_⟩
  refine (deeds_keep_session freshShell isFaultless_freshShell hwidth _).mono ?_
  intro ended after hafter
  obtain ⟨hended, hkept, -⟩ := hafter
  have hleft : [Deed.enter "\\maxwidth 3".toList, .record "select 1".toList,
      .enter "\\Q;".toList, .command ⟨"format".toList, "csv".toList⟩].any Deed.leaves = true := by
    decide +kernel
  have hrunning := hkept.running
  rw [hleft] at hrunning
  exact ⟨hended, hkept.maxWidth, hrunning, hkept.history⟩

end Shell

end SqlShell
