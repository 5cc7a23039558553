import SqlShell.Proofs.Session.Awaiting
import SqlShell.Proofs.Session.Input

/-! # What a Session Submits

    When no output fails a session submits **the statements of its input**, each
    of them once, in order and as it is.

    * **`Submits`** goes from one statement to some, to a line, and to the turns
      of the main loop.
    * **`Carries`** is what the main loop makes of the rest of the input:
      `carries_bind` is its step, `carries_loop` the run.
    * **`submits_statementsOfInput`** is the result for a whole session. -/

namespace SqlShell

/-! ## Marks in the transcript -/

/-- What is asked of the user, what is offered to the engine, and what is written
    to the error output. -/
def Entry.isMark : Entry → Bool
  | .asked _ | .offered _ | .written .err _ => true
  | _ => false

namespace Console

/-- **The marks** in the transcript, in order. -/
def marks (k : Console) : List Entry := k.entries.filter Entry.isMark

theorem marks_of_entries {k k' : Console} {more : List Entry}
    (h : k'.entries = k.entries ++ more) : k'.marks = k.marks ++ more.filter Entry.isMark := by
  rw [marks, h, List.filter_append, marks]

/-- What is offered leaves a mark. -/
theorem offers_eq_marks (k : Console) : k.offers = k.marks.filterMap Entry.offered? := by
  rw [offers, marks, List.filterMap_filter]
  apply List.filterMap_congr
  intro e _
  cases e with
  | written c text => cases c <;> rfl
  | _ => rfl

end Console

namespace Shell

/-- The core of a shell, and the marks in its transcript. -/
def account (shell : Shell) : (Ledger × EventSource × Surroundings Binary64) × List Entry :=
  (shell.core, shell.console.marks)

theorem overlooks_account {e : Entry} (he : e.isMark = false) : Overlooks account e := by
  intro shell k hentries
  have hmarks : k.marks = shell.console.marks := by
    rw [Console.marks_of_entries hentries]
    simp [he]
  have hoffered : e.offered? = none := by
    cases e <;> first | rfl | cases he
  simp only [account, hmarks, overlooks_core hoffered shell k hentries]

/-! ## The turns of the main loop -/

section Turns

variable {shell : Shell} {texts : List Text}

/-- **A line is asked for**, once. -/
theorem ensures_ask (fuel : Nat) (hshell : shell.console.IsFaultless) :
    Ensures (ask (fuel + 1)) shell fun ended after => after.console.IsFaultless ∧
      after.core = shell.core ∧ ended = .ok () ∧
      ∃ prompt, after.console.marks = shell.console.marks ++ [.asked prompt] := by
  have hphase : Calm account (enterPhase .awaitingInput) (· = .ok ()) :=
    calm_enterPhase (fun _ _ => overlooks_account rfl) fun _ => rfl
  unfold ask
  rw [ensures_bind, ensures_get]
  dsimp only
  refine hphase.ensures_ite hshell ?_
  intro idle hidle hidle'
  obtain ⟨hcore, hmarks⟩ := Prod.mk.inj hidle'
  rw [ensures_bind, ensures_get]
  dsimp only
  have hcore' := overlooks_core (e := .asked idle.currentPrompt) rfl idle _
    (Console.entries_enter _ _)
  have hmarks' := Console.marks_of_entries
    (Console.entries_enter (.asked idle.currentPrompt) idle.console)
  rw [ensures_bind, enter, onConsole, ensures_modify]
  have hasked := hidle.enter (.asked idle.currentPrompt)
  rw [hmarks] at hmarks'
  dsimp only
  split
  · have hput : Calm account (put .out idle.currentPrompt) (· = .ok none) :=
      calm_put (overlooks_account rfl)
    refine hput.ensures (by exact hasked) ?_
    intro asked hasked haccount
    obtain ⟨hsame, hsame'⟩ := Prod.mk.inj haccount
    exact ⟨hasked, hsame.trans (hcore'.trans hcore), rfl, _, hsame'.trans hmarks'⟩
  · exact ⟨hasked, hcore'.trans hcore, rfl, _, hmarks'⟩

/-- A turn of the main loop deals with what comes once it has been asked for. -/
theorem ensures_turn {answer : ShellM Unit} {Q : Except Exit Unit → Shell → Prop}
    (hshell : shell.console.IsFaultless) (hrun : shell.session.running = true)
    (h : ∀ asked : Shell, asked.console.IsFaultless → asked.ledger = shell.ledger →
      (∃ prompt, asked.console.marks = shell.console.marks ++ [.asked prompt]) →
      Ensures answer asked Q) : Ensures (turn answer) shell Q := by
  rw [turn, ensures_bind, ensures_get]
  dsimp only
  rw [if_pos hrun, ensures_bind]
  refine (ensures_ask _ hshell).mono ?_
  rintro _ asked ⟨hasked, hcore, rfl, hmarks⟩
  exact h asked hasked (congrArg Prod.fst hcore) hmarks

/-- What is submitted by one action and then by another. -/
theorem Submits.bind {first : ShellM Unit} {next : Unit → ShellM Unit} {texts' : List Text}
    {l : Ledger} (h : Ensures first shell (Submits texts l))
    (hnext : ∀ later : Shell, later.console.IsFaultless → later.ledger = l.submit texts →
      Ensures (next ()) later (Submits texts' later.ledger)) :
    Ensures (first >>= next) shell (Submits (texts ++ texts') l) := by
  rw [ensures_bind]
  refine h.mono ?_
  rintro ended later ⟨xs, hlater, hledger, ⟨rfl, rfl⟩ | ⟨rfl, hblocks, hxs⟩⟩
  · refine (hnext later hlater hledger).mono ?_
    rintro ended last ⟨ys, hlast, hledger', hys⟩
    rw [hledger, Ledger.submit_submit] at hledger'
    refine ⟨xs ++ ys, hlast, hledger', ?_⟩
    rcases hys with ⟨rfl, rfl⟩ | ⟨rfl, hblocks, hys⟩
    · exact .inl ⟨rfl, rfl⟩
    · rw [hledger] at hblocks
      exact .inr ⟨rfl, hblocks.append, (List.prefix_append_right_inj xs).2 hys⟩
  · exact ⟨xs, hlater, hledger, .inr ⟨rfl, hblocks, hxs.trans (List.prefix_append _ _)⟩⟩

theorem submits_statement (text : Text) (hshell : shell.console.IsFaultless) :
    Ensures (handle (.statement text)) shell (Submits [text] shell.ledger) := by
  rw [handle]
  refine (calm_phase .dispatching).ensures hshell ?_
  intro later hlater hcore
  have hledger : later.ledger = shell.ledger := congrArg Prod.fst hcore
  rw [← hledger]
  exact submits_executeStatement text hlater

/-- A statement is submitted as it is. -/
theorem submits_handle {text : Text} (ht : Input.ofText text = .statement text)
    (hshell : shell.console.IsFaultless) :
    Ensures (handle (Input.ofText text)) shell (Submits [text] shell.ledger) := by
  rw [ht]
  exact submits_statement text hshell

/-- **Statements are submitted one after the other.** -/
theorem submits_handleAll (ht : ∀ text ∈ texts, Input.ofText text = .statement text)
    (hshell : shell.console.IsFaultless) (hrun : shell.session.running = true) :
    Ensures (handleAll texts) shell (Submits texts shell.ledger) := by
  induction texts generalizing shell with
  | nil => exact ⟨[], hshell, (Ledger.submit_nil _).symm, .inl ⟨rfl, rfl⟩⟩
  | cons text rest ih =>
    obtain ⟨htext, hrest⟩ := List.forall_mem_cons.1 ht
    rw [handleAll, ensures_bind, ensures_get]
    dsimp only
    rw [if_pos hrun]
    refine Submits.bind (submits_handle htext hshell) ?_
    intro later hlater hledger
    have hsession : later.session = (shell.ledger.submit [text]).session :=
      congrArg Ledger.session hledger
    exact ih hrest hlater (by rw [hsession]; exact hrun)

/-- **A line that is read** submits the statements that it completes. -/
theorem submits_readLine {line : Text} (hshell : shell.console.IsFaultless)
    (hrun : shell.session.running = true)
    (hline : shell.buffer.inProgress = false → (Input.ofText line).isCommand = false)
    (ht : ∀ text ∈ (shell.buffer.takeLine line).1, Input.ofText text = .statement text) :
    Ensures (readLine line) shell (Submits (shell.buffer.takeLine line).1
      { shell.ledger with buffer := (shell.buffer.takeLine line).2 }) := by
  rw [readLine, ensures_bind, ensures_get]
  dsimp only
  split
  case h_1 c hc hidle =>
    rw [hc] at hline
    cases hline hidle
  case h_2 =>
    refine (calm_phase .assembling).ensures hshell ?_
    intro later hlater hcore
    have hledger : later.ledger = shell.ledger := congrArg Prod.fst hcore
    rw [ensures_bind, ensures_modify]
    dsimp only
    rw [← hledger]
    refine submits_handleAll ht (by exact hlater) ?_
    have hsession : later.session = shell.session := congrArg Ledger.session hledger
    rw [← hsession] at hrun
    exact hrun

/-- **A statement that is thrown away** submits nothing. -/
theorem submits_discard (hshell : shell.console.IsFaultless) :
    Ensures Shell.discard shell (Submits [] { shell.ledger with buffer := .empty }) := by
  rw [Shell.discard, ensures_bind, ensures_modify]
  dsimp only
  rw [ensures_bind, ensures_get]
  dsimp only
  split
  · refine (calm_write .out ['\n'] _ (by exact hshell)).mono ?_
    rintro ended after ⟨hafter, hcore, rfl⟩
    refine ⟨[], hafter, ?_, .inl ⟨rfl, rfl⟩⟩
    rw [Ledger.submit_nil]
    exact congrArg Prod.fst hcore
  · exact ⟨[], hshell, (Ledger.submit_nil _).symm, .inl ⟨rfl, rfl⟩⟩

/-- **The end of the input** submits what is left; what is not terminated brings
    an error line. -/
theorem submits_endInput (hshell : shell.console.IsFaultless)
    (ht : ∀ text ∈ tailOf shell.buffer.finish, Input.ofText text = .statement text) :
    Ensures endInput shell fun ended after =>
      Submits (tailOf shell.buffer.finish) { shell.ledger with buffer := .empty } ended after ∧
        ∀ e, shell.buffer.finish = .error e →
          after.console.marks = shell.console.marks ++ [.written .err (errorLine e.message)] := by
  rw [endInput, ensures_bind, ensures_get]
  dsimp only [StatementBuffer.close]
  rw [ensures_bind, ensures_modify]
  dsimp only
  cases hfinish : shell.buffer.finish with
  | error e =>
    have hcount : Calm account countError (· = .ok ()) :=
      calm_modify (fun _ => rfl) fun _ => rfl
    refine hcount.ensures (by exact hshell) ?_
    intro counted hcounted haccount
    obtain ⟨hcore, hmarks⟩ := Prod.mk.inj haccount
    refine ((calm_write .err _ counted hcounted).and (ensures_write .err _ hcounted)).mono ?_
    rintro ended after ⟨⟨hafter, hcore', rfl⟩, -, -, -, hentries⟩
    have hledger := congrArg Prod.fst (hcore'.trans hcore)
    refine ⟨⟨[], hafter, ?_, .inl ⟨rfl, rfl⟩⟩, ?_⟩
    · rw [Ledger.submit_nil]
      exact hledger
    · rintro _ ⟨⟩
      rw [Console.marks_of_entries hentries, hmarks]
      rfl
  | ok tail =>
    rw [hfinish] at ht
    cases tail with
    | none =>
      refine ⟨⟨[], hshell, (Ledger.submit_nil _).symm, .inl ⟨rfl, rfl⟩⟩, ?_⟩
      rintro _ ⟨⟩
    | some text =>
      refine (submits_handle (ht text (by simp [tailOf])) (by exact hshell)).mono ?_
      intro ended after hafter
      refine ⟨hafter, ?_⟩
      rintro _ ⟨⟩

end Turns

/-! ## The main loop -/

/-- **What the main loop makes of the rest of its input**: the statements are
    submitted, whatever the buffer holds then.  What is left without having been
    terminated brings one error line, and nothing else is done about it. -/
def Carries (texts : List Text) (left : Except Unterminated (Option Text)) (l : Ledger)
    (ended : Except Exit Unit) (after : Shell) : Prop :=
  (∃ buffer, Submits (texts ++ tailOf left) { l with buffer } ended after) ∧
    ∀ e, left = .error e → ended = .ok () → ∃ earlier prompt,
      after.console.marks = earlier ++ [.asked prompt, .written .err (errorLine e.message)]

section Loop

variable {shell : Shell} {texts : List Text} {left : Except Unterminated (Option Text)}

/-- **One turn**, and what the loop makes of the rest. -/
theorem carries_bind {first : ShellM Unit} {next : Unit → ShellM Unit} {rest : List Text}
    {buffer : StatementBuffer}
    (h : Ensures first shell (Submits texts { shell.ledger with buffer }))
    (hnext : ∀ later : Shell, later.console.IsFaultless → later.buffer = buffer →
      later.session.running = shell.session.running →
      Ensures (next ()) later (Carries rest left later.ledger)) :
    Ensures (first >>= next) shell (Carries (texts ++ rest) left shell.ledger) := by
  rw [ensures_bind]
  refine h.mono ?_
  rintro ended later ⟨xs, hlater, hledger, ⟨rfl, rfl⟩ | ⟨rfl, hblocks, hxs⟩⟩
  · have hbuffer : later.buffer = buffer := congrArg Ledger.buffer hledger
    have hrun : later.session.running = shell.session.running :=
      congrArg (·.session.running) hledger
    refine (hnext later hlater hbuffer hrun).mono ?_
    rintro ended last ⟨⟨buffer', ys, hlast, hledger', hys⟩, herror⟩
    refine ⟨⟨buffer', xs ++ ys, hlast, ?_, ?_⟩, herror⟩
    · rw [hledger', hledger]
      simp [Ledger.submit]
    · rw [hledger] at hys
      rcases hys with ⟨rfl, rfl⟩ | ⟨rfl, hblocks, hys⟩
      · exact .inl ⟨rfl, (List.append_assoc _ _ _).symm⟩
      · refine .inr ⟨rfl, Ledger.BlocksAfter.append hblocks, ?_⟩
        rw [List.append_assoc]
        exact (List.prefix_append_right_inj xs).2 hys
  · refine ⟨⟨buffer, xs, hlater, hledger, .inr ⟨rfl, hblocks, ?_⟩⟩, ?_⟩
    · rw [List.append_assoc]
      exact hxs.trans (List.prefix_append _ _)
    · rintro _ _ ⟨⟩

/-- The turn of a line. -/
theorem submits_lineTurn {line : Text} (hshell : shell.console.IsFaultless)
    (hrun : shell.session.running = true)
    (hline : shell.buffer.inProgress = false → (Input.ofText line).isCommand = false)
    (ht : ∀ text ∈ (shell.buffer.takeLine line).1, Input.ofText text = .statement text) :
    Ensures (turn (readLine line)) shell (Submits (shell.buffer.takeLine line).1
      { shell.ledger with buffer := (shell.buffer.takeLine line).2 }) := by
  refine ensures_turn hshell hrun ?_
  rintro asked hasked hledger -
  have hbuffer : asked.buffer = shell.buffer := congrArg Ledger.buffer hledger
  have hrun' : asked.session.running = true :=
    (congrArg (·.session.running) hledger).trans hrun
  rw [← hledger, ← hbuffer]
  exact submits_readLine hasked hrun' (hbuffer ▸ hline) (hbuffer ▸ ht)

/-- The turn of an interruption. -/
theorem submits_interruptTurn (hshell : shell.console.IsFaultless)
    (hrun : shell.session.running = true) :
    Ensures (turn Shell.discard) shell (Submits [] { shell.ledger with buffer := .empty }) := by
  refine ensures_turn hshell hrun ?_
  rintro asked hasked hledger -
  rw [← hledger]
  exact submits_discard hasked

/-- The turn at the end of the input. -/
theorem carries_endTurn (hshell : shell.console.IsFaultless)
    (hrun : shell.session.running = true)
    (ht : ∀ text ∈ tailOf shell.buffer.finish, Input.ofText text = .statement text) :
    Ensures (turn endInput) shell (Carries [] shell.buffer.finish shell.ledger) := by
  refine ensures_turn hshell hrun ?_
  rintro asked hasked hledger ⟨prompt, hmarks⟩
  have hbuffer : asked.buffer = shell.buffer := congrArg Ledger.buffer hledger
  rw [← hbuffer] at ht ⊢
  refine (submits_endInput hasked ht).mono ?_
  rintro ended after ⟨hsubmits, herror⟩
  rw [hledger] at hsubmits
  refine ⟨⟨.empty, hsubmits⟩, ?_⟩
  intro e he _
  refine ⟨shell.console.marks, prompt, ?_⟩
  rw [herror e he, hmarks, List.append_assoc]
  rfl

/-- **The main loop submits what comes of its input.** -/
theorem carries_loop {input : List InputLine} (hshell : shell.console.IsFaultless)
    (hrun : shell.session.running = true) (hinput : ∀ item ∈ input, item.IsPlain)
    (hreads : ReadsNoCommand shell.buffer input)
    (ht : ∀ text ∈ (assembled shell.buffer input).1 ++ tailOf (assembled shell.buffer input).2,
      Input.ofText text = .statement text) :
    Ensures (loop input) shell
      (Carries (assembled shell.buffer input).1 (assembled shell.buffer input).2 shell.ledger) := by
  induction input generalizing shell with
  | nil => exact carries_endTurn hshell hrun ht
  | cons item r ih =>
    obtain ⟨hitem, hr⟩ := List.forall_mem_cons.1 hinput
    cases item with
    | crash c => exact hitem.elim
    | interrupt =>
      refine carries_bind (submits_interruptTurn hshell hrun) ?_
      intro later hlater hbuffer hrun'
      have hloop := ih hlater (hrun'.trans hrun) hr (hbuffer ▸ hreads) (hbuffer ▸ ht)
      rw [hbuffer] at hloop
      exact hloop
    | line text =>
      obtain ⟨hline, hreads⟩ := hreads
      rw [assembled, List.append_assoc] at ht
      obtain ⟨hnow, hrest⟩ := List.forall_mem_append.1 ht
      refine carries_bind (submits_lineTurn hshell hrun hline hnow) ?_
      intro later hlater hbuffer hrun'
      have hloop := ih hlater (hrun'.trans hrun) hr (hbuffer ▸ hreads) (hbuffer ▸ hrest)
      rw [hbuffer] at hloop
      exact hloop

end Loop

/-! ## The whole session -/

/-- What the end of a session leaves as it is: the marks and the history. -/
def trail (shell : Shell) : List Entry × List Text :=
  (shell.console.marks, shell.session.history)

theorem overlooks_trail {e : Entry} (he : e.isMark = false) : Overlooks trail e := by
  intro shell k hentries
  have hmarks : k.marks = shell.console.marks := by
    rw [Console.marks_of_entries hentries]
    simp [he]
  simp only [trail, hmarks]

/-- **The end of a session** neither submits nor complains, however it goes. -/
theorem calm_terminate : Calm trail terminate fun _ => True := by
  have henter {e : Entry} (he : e.isMark = false) : Calm trail (enter e) (· = .ok ()) :=
    calm_enter (overlooks_trail he)
  have hnote (n : Notice) : Calm trail (note n) (· = .ok ()) :=
    calm_note fun _ => overlooks_trail rfl
  have hsave : Calm trail saveHistory fun _ => True := by
    intro shell hshell
    rw [saveHistory, ensures_bind, ensures_get]
    dsimp only
    rw [ensures_bind, ensures_set]
    dsimp only
    refine Ensures.mono ((?hrest : Calm trail _ fun _ => True) _ (by exact hshell)) ?_
    case hrest =>
      refine (henter rfl).then ?_
      split
      case h_1 path f _ =>
        split
        · exact (calm_throw _).bind nofun fun _ _ => trivial
        · exact (hnote _).then ((calm_pure _).mono fun _ _ => trivial)
      case h_2 => exact (calm_pure _).mono fun _ _ => trivial
    rintro ended after ⟨hafter, htrail, -⟩
    refine ⟨hafter, htrail.trans ?_, trivial⟩
    simp only [trail, Session.history_saveHistory]
  have hengine : Calm trail closeEngine fun _ => True := by
    refine (henter rfl).then (calm_get ?_)
    intro shell
    split
    · exact (hnote _).mono fun _ _ => trivial
    · exact (calm_pure _).mono fun _ _ => trivial
  have hclose : Calm trail closeSession fun _ => True :=
    hsave.bind (fun _ _ => hengine) fun _ _ => trivial
  have hphase : Calm trail (enterPhase .terminating) (· = .ok ()) :=
    calm_enterPhase (fun _ _ => overlooks_trail rfl) fun _ => rfl
  exact hphase.then (hclose.followedBy (henter rfl))

/-- **A whole session** is its main loop; what follows keeps to the trail. -/
theorem ensures_run {failOnError : Bool} {input : List InputLine} {shell : Shell}
    {P : Except Exit Unit → Shell → Prop} (h : Ensures (loop input) shell P)
    (hP : ∀ ended looped, P ended looped →
      looped.console.IsFaultless ∧ ∀ f, ended ≠ .error (.outputLost f)) :
    Ensures (run failOnError input) shell fun _ after =>
      ∃ ended looped, P ended looped ∧ after.trail = looped.trail := by
  rw [run, followedBy, ensures_bind, ensures_attempt, runLoop, ensures_bind, ensures_attempt]
  refine h.mono ?_
  intro ended looped hended
  obtain ⟨hlooped, hlost⟩ := hP ended looped hended
  have hlast (code : Except Exit Nat) : Ensures (terminate >>= fun _ => match code with
      | .ok a => pure a
      | .error e => throw e) looped fun _ after =>
        ∃ ended looped, P ended looped ∧ after.trail = looped.trail := by
    rw [ensures_bind]
    refine (calm_terminate looped hlooped).mono ?_
    rintro last after ⟨-, htrail, -⟩
    cases last with
    | error e => exact ⟨ended, looped, hended, htrail⟩
    | ok => cases code <;> exact ⟨ended, looped, hended, htrail⟩
  cases ended with
  | ok => exact hlast (.ok (looped.codeOf failOnError))
  | error e =>
    cases e with
    | outputLost f => exact absurd rfl (hlost f)
    | interrupted | crashed | stalled => exact hlast (.error _)

/-- An action that ends early leaves the shell as it is then. -/
theorem ensures_eq_error {α : Type} (action : ShellM α) (shell : Shell) :
    Ensures action shell fun ended after => ∀ e, ended = .error e →
      action shell = .error e after := by
  unfold Ensures
  split
  · exact nofun
  · rintro _ ⟨⟩
    assumption

/-- **A shell that begins a session**: no output fails, and nothing is in progress. -/
structure IsReady (shell : Shell) : Prop where
  faultless : shell.console.IsFaultless
  buffer : shell.buffer = .empty
  running : shell.session.running = true

/-- **The run of a session**: what comes of its input is offered to the engine
    and recorded, or an engine that blocks keeps the rest of it back. -/
theorem submits_run (failOnError : Bool) {input : List InputLine} {shell : Shell}
    (hshell : shell.IsReady) (hinput : ∀ item ∈ input, item.IsPlain)
    (hreads : ReadsNoCommand .empty input)
    (hgives : ∀ text ∈ statementsOfInput input, (Input.ofText text).isCommand = false) :
    Ensures (run failOnError input) shell fun _ after => ∃ xs,
      after.console.offers = shell.console.offers ++ xs ∧
      after.session.history = shell.session.history ++ xs ∧
      ((xs = statementsOfInput input ∧
          ∀ e, leftOver input = .error e → ∃ earlier prompt,
            after.console.marks = earlier ++ [.asked prompt, .written .err (errorLine e.message)]) ∨
        ((∃ looped, loop input shell = .error .stalled looped) ∧
          xs <+: statementsOfInput input ∧ shell.ledger.BlocksAfter xs)) := by
  obtain ⟨hfaultless, hbuffer, hrun⟩ := hshell
  obtain ⟨hall, hleft⟩ := assembled_empty input
  have hstatement : ∀ text ∈ statementsOfInput input, Input.ofText text = .statement text := by
    intro text htext
    rw [← hall] at htext
    obtain ⟨ps, hps⟩ := @exists_isStable_of_assembled [] input text nofun hinput htext
    refine (ofText_of_isStable hps).resolve_right ?_
    rw [hall] at htext
    simp [hgives text htext]
  have hloop : Ensures (loop input) shell
      (Carries (assembled .empty input).1 (assembled .empty input).2 shell.ledger) := by
    rw [← hbuffer] at hreads hall ⊢
    refine carries_loop hfaultless hrun hinput hreads ?_
    rwa [hall]
  refine (ensures_run (hloop.and (ensures_eq_error _ _)) ?_).mono ?_
  · rintro ended looped ⟨⟨⟨buffer, xs, hlooped, -, hended⟩, -⟩, -⟩
    refine ⟨hlooped, ?_⟩
    rintro f rfl
    simp at hended
  · rintro _ after ⟨ended, looped, ⟨⟨⟨buffer, xs, -, hledger, hended⟩, herror⟩, hstalled⟩, htrail⟩
    obtain ⟨hmarks, hhistory⟩ := Prod.mk.inj htrail
    refine ⟨xs, ?_, ?_, ?_⟩
    · rw [Console.offers_eq_marks, hmarks, ← Console.offers_eq_marks]
      exact congrArg Ledger.offers hledger
    · rw [hhistory]
      exact congrArg (·.session.history) hledger
    · rw [hall] at hended
      rcases hended with ⟨rfl, rfl⟩ | ⟨rfl, hblocks, hxs⟩
      · refine .inl ⟨rfl, ?_⟩
        intro e he
        rw [hmarks]
        exact herror e (hleft.trans he) rfl
      · exact .inr ⟨⟨looped, hstalled _ rfl⟩, hxs, hblocks⟩

/-- **A session submits the statements of its input**, when no output fails and
    nothing in the input is a command.  Each of them is offered to the engine and
    recorded once, in order and as it is.  What is not terminated at the end of
    the input brings one error line, and nothing is offered after it.  Only an
    engine that blocks over a statement keeps the main loop from all this: then
    the statements up to that one have been submitted.

    Without interruptions the statements of the input are those of its lines, or
    those completed before its end if that is not terminated. -/
theorem submits_statementsOfInput (failOnError : Bool) (input : List InputLine) (shell : Shell)
    (hshell : shell.IsReady) (hinput : ∀ item ∈ input, item.IsPlain)
    (hreads : ReadsNoCommand .empty input)
    (hgives : ∀ text ∈ statementsOfInput input, (Input.ofText text).isCommand = false) :
    (Ensures (run failOnError input) shell fun _ after => ∃ xs,
      after.console.offers = shell.console.offers ++ xs ∧
      after.session.history = shell.session.history ++ xs ∧
      ((xs = statementsOfInput input ∧
          ∀ e, leftOver input = .error e → ∃ earlier prompt,
            after.console.marks = earlier ++ [.asked prompt, .written .err (errorLine e.message)]) ∨
        ((∃ looped, loop input shell = .error .stalled looped) ∧
          xs <+: statementsOfInput input ∧ shell.ledger.BlocksAfter xs))) ∧
    ∀ lines, input = lines.map .line →
      (∀ texts, statementsOfLines lines = .ok texts → statementsOfInput input = texts) ∧
      (∀ e, statementsOfLines lines = .error e → leftOver input = .error e ∧
        statementsOfInput input = (StatementBuffer.empty.takeLines lines).1) := by
  refine ⟨submits_run failOnError hshell hinput hreads hgives, ?_⟩
  rintro lines rfl
  obtain ⟨hcomplete, hlines⟩ := statementsOfInput_lines lines
  rw [hlines]
  cases hleft : leftOver (lines.map .line) with
  | ok tail =>
    refine ⟨?_, nofun⟩
    rintro _ ⟨⟩
    rfl
  | error e =>
    refine ⟨nofun, ?_⟩
    rintro _ ⟨⟩
    refine ⟨rfl, ?_⟩
    rw [hcomplete, hleft]
    exact List.append_nil _

/-- An input with an interruption, a semicolon in a string, and a statement that
    is not ended. -/
@[irreducible] def interruptedInput : List InputLine :=
  [.line "select 1; select".toList, .interrupt, .line "select ';'; -- two".toList,
    .line "select 3".toList]

/-- A shell with an engine that refuses one statement and completes the others. -/
@[irreducible] def refusingShell : Shell where
  engine :=
    { submit := fun _ statement =>
        if statement = "select ';'".toList then .refused { message := "no".toList }
        else .accepted { batches := [], ending := .complete } }
  surroundings := { reading := fun _ => Binary64.zero }

/-- Its engine never blocks. -/
theorem not_blocksAfter_refusingShell (xs : List Text) :
    ¬ refusingShell.ledger.BlocksAfter xs := by
  rintro ⟨earlier, statement, -, stream, hs, hb⟩
  simp only [refusingShell, ledger, Ledger.submit] at hs
  split at hs
  · cases hs
  · cases hs
    cases hb

/-- A refusal keeps no statement back, and what was being entered at the
    interruption is not submitted. -/
theorem submits_interruptedInput :
    refusingShell.IsReady ∧ (∀ item ∈ interruptedInput, item.IsPlain) ∧
      ReadsNoCommand .empty interruptedInput ∧
      (∀ text ∈ statementsOfInput interruptedInput, (Input.ofText text).isCommand = false) ∧
      Ensures (run true interruptedInput) refusingShell fun _ after =>
        after.console.offers = ["select 1".toList, "select ';'".toList, "select 3".toList] ∧
        after.session.history = ["select 1".toList, "select ';'".toList, "select 3".toList] := by
  have hshell : refusingShell.IsReady := by
    unfold refusingShell
    exact ⟨⟨⟨fun _ => rfl, fun _ => rfl⟩, ⟨fun _ => rfl, fun _ => rfl⟩⟩, rfl, rfl⟩
  have hinput : ∀ item ∈ interruptedInput, item.IsPlain := by
    unfold interruptedInput
    decide
  have hreads : ReadsNoCommand .empty interruptedInput := by
    unfold interruptedInput
    decide +kernel
  have htexts : statementsOfInput interruptedInput
      = ["select 1".toList, "select ';'".toList, "select 3".toList] := by
    unfold interruptedInput
    decide +kernel
  have hgives : ∀ text ∈ statementsOfInput interruptedInput,
      (Input.ofText text).isCommand = false := by
    rw [htexts]
    decide +kernel
  have hbefore : refusingShell.console.offers = [] ∧ refusingShell.session.history = [] := by
    unfold refusingShell
    exact ⟨rfl, rfl⟩
  obtain ⟨hrun, -⟩ :=
    submits_statementsOfInput true interruptedInput refusingShell hshell hinput hreads hgives
  refine ⟨hshell, hinput, hreads, hgives, hrun.mono ?_⟩
  rintro _ after ⟨xs, hoffers, hhistory, ⟨rfl, -⟩ | ⟨-, -, hblocks⟩⟩
  · rw [hoffers, hhistory, hbefore.1, hbefore.2, htexts]
    exact ⟨rfl, rfl⟩
  · exact absurd hblocks (not_blocksAfter_refusingShell xs)

end Shell

end SqlShell
