import SqlShell.Proofs.Session.Winding
import SqlShell.Proofs.Session.Input

/-! # Dealing with a Request

    What one request leaves behind, be it a command, a statement or an input that
    is not terminated, and whichever writes and flushes fail.

    * **`deal`** deals with a request.
    * **`Dealt`** says what is left of it: the session, the count of failures, the
      milestones of a statement and an execution that is over.
    * **`deals_deal`**: every request is dealt with like this, unless the engine
      holds its statement up. -/

namespace SqlShell

/-! ## Requests -/

/-- **What a session is asked to do**: what a text asks for, or the end of an input
    that is not terminated. -/
abbrev Request := Except Unterminated Input

/-- The session after a request. -/
def Session.serve (s : Session) : Request → Session
  | .ok (.statement text) => s.record text
  | .ok (.command c) =>
    match c.perform s with
    | .ok (after, _) => after
    | .error _ => s
  | .ok .empty | .error _ => s

/-- **The engine blocks over some statement** until it is cancelled. -/
def Engine.Blocks (engine : Engine) : Prop :=
  ∃ history statement stream,
    engine.submit history statement = .accepted stream ∧ stream.ending = .blocked

/-- **An engine holds a shell up** over the statement that was recorded last: it has
    taken the statement and blocks over it, and the query has not been told to
    stop. -/
structure Engine.HoldsUp (engine : Engine) (statement : Text) (shell : Shell) : Prop where
  recorded : shell.session.history.getLast? = some statement
  submitted : .submitted statement ∈ shell.console.entries
  blocks : ∃ stream, engine.submit shell.session.history statement = .accepted stream ∧
    stream.ending = .blocked
  working : shell.source.IsAtWork statement

theorem Engine.HoldsUp.engine_blocks {engine : Engine} {statement : Text} {shell : Shell}
    (h : engine.HoldsUp statement shell) : engine.Blocks := by
  obtain ⟨stream, hstream⟩ := h.blocks
  exact ⟨_, statement, stream, hstream⟩

/-- It still does behind what only adds to the transcript. -/
theorem Engine.HoldsUp.of_append {engine : Engine} {statement : Text} {shell later : Shell}
    {more : List Entry} (h : engine.HoldsUp statement shell)
    (hentries : later.console.entries = shell.console.entries ++ more)
    (hsource : later.source = shell.source)
    (hhistory : later.session.history = shell.session.history) :
    engine.HoldsUp statement later where
  recorded := hhistory ▸ h.recorded
  submitted := hentries ▸ List.mem_append_left _ h.submitted
  blocks := hhistory ▸ h.blocks
  working := hsource ▸ h.working

/-- **What a session keeps** from its beginning to its end. -/
structure Lasting where
  nature : (Channel → (Nat → Option SinkFault) × (Nat → Option SinkFault)) × Bool
  historyFile : HistoryFile
  engine : Engine
  interactive : Bool
  writesPrompts : Bool

namespace Shell

/-- What a shell keeps. -/
def lasting (shell : Shell) : Lasting where
  nature := shell.console.nature
  historyFile := shell.historyFile
  engine := shell.engine
  interactive := shell.interactive
  writesPrompts := shell.writesPrompts

/-- Takes a statement up: everything that comes before its presentation. -/
def takeUp (statement : Text) : ShellM Unit := do
  enterPhase .dispatching
  modify fun shell => { shell with session := shell.session.record statement }
  enter (.recorded statement)
  enterPhase .executing
  modify fun shell => { shell with source := .execution (.fresh statement {}) }

/-- **The presentation of a statement**, from its text on. -/
def presentation (statement : Text) : ShellM (Outcome Binary64) := do
  takeUp statement
  showResult

/-- **A statement** is taken up, presented and settled. -/
theorem handle_statement (statement : Text) : handle (.statement statement) = (do
    takeUp statement
    let shown ← attempt showResult
    settle shown) := by
  simp only [handle, executeStatement, takeUp, bind_assoc]
  rfl

/-- **Deals with a request.** -/
def deal : Request → ShellM Unit
  | .ok input => handle input
  | .error e => do
    countError
    write .err (errorLine e.message)

/-- **A request fails**: the input is not terminated, a command is refused, or a
    statement does not come to a success. -/
def fails (before : Shell) : Request → Bool
  | .error _ => true
  | .ok .empty => false
  | .ok (.command c) =>
    match c.perform before.session with
    | .ok _ => false
    | .error _ => true
  | .ok (.statement s) => !passes (presentation s) before fun outcome _ => outcome.isSuccess

/-! ## What a request leaves -/

/-- Nothing is shielded where the next request will not be announced. -/
def Poised (trace : List Entry) (shell : Shell) : Prop :=
  shell.phase ≠ .rendering → IsExposed shell.writesPrompts trace

/-- **What a request passes**: a statement all its milestones, until its execution
    is over, and any other request none. -/
def Passes (before : Shell) (added : List Entry) (after : Shell) : Request → Prop
  | .ok (.statement s) => after.source.IsOver (after.answer s) ∧ ∃ miles,
      added.filter Entry.isMilestone = .recorded s :: miles ∧
      Reached s (after.answer s) after.source miles
  | _ => added.filter Entry.isMilestone = [] ∧ after.source = before.source

/-- **What is left of a request** that has been dealt with behind the entries
    `past`. -/
structure Dealt (past : List Entry) (before : Shell) (request : Request) (added : List Entry)
    (ended : Except Exit Unit) (after : Shell) : Prop where
  entries : after.console.entries = before.console.entries ++ added
  lasting : after.lasting = before.lasting
  buffer : after.buffer = before.buffer
  session : after.session = before.session.serve request
  limit : after.surroundings.limitFault = none
  count : ended = .ok () → after.errors = before.errors + if before.fails request then 1 else 0
  allowed : ∀ e ∈ added, before.console.Allows e
  unasked : ∀ prompt, .asked prompt ∉ added
  ends : Ends False before.writesPrompts past added ended
  poised : ended = .ok () → Poised (past ++ added) after
  passes : Passes before added after request
  unstalled : ended ≠ .error .stalled

/-- **The engine holds the shell up**, and what lasts is as it was. -/
def Stalls (before : Shell) (ended : Except Exit Unit) (after : Shell) : Prop :=
  ended = .error .stalled ∧ (∃ statement, before.engine.HoldsUp statement after) ∧
    after.lasting = before.lasting

theorem Stalls.of_lasting {before middle after : Shell} {ended : Except Exit Unit}
    (h : Stalls middle ended after) (hmiddle : middle.lasting = before.lasting) :
    Stalls before ended after := by
  obtain ⟨hended, hheld, hlasting⟩ := h
  have hengine : middle.engine = before.engine := congrArg Lasting.engine hmiddle
  exact ⟨hended, hengine ▸ hheld, hlasting.trans hmiddle⟩

/-- **A request is dealt with**, unless the engine holds its statement up. -/
def Deals (past : List Entry) (before : Shell) (request : Request) (ended : Except Exit Unit)
    (after : Shell) : Prop :=
  Stalls before ended after ∨ ∃ added, Dealt past before request added ended after

/-! ## Phases -/

/-- They are notices. -/
def AreNotices (entries : List Entry) : Prop := ∀ e ∈ entries, ∃ n echoed, e = .noted n echoed

section Noticing

variable {l : List Entry}

theorem AreNotices.areQuiet (h : AreNotices l) : AreQuiet l := by
  intro e he
  obtain ⟨n, echoed, rfl⟩ := h e he
  exact ⟨rfl, rfl⟩

theorem AreNotices.filter_isMilestone (h : AreNotices l) : l.filter Entry.isMilestone = [] := by
  rw [List.filter_eq_nil_iff]
  intro e he
  obtain ⟨n, echoed, rfl⟩ := h e he
  exact Bool.false_ne_true

theorem AreNotices.unasked (h : AreNotices l) (prompt : Text) : .asked prompt ∉ l := by
  intro he
  obtain ⟨n, echoed, he⟩ := h _ he
  cases he

end Noticing

/-- **The next phase** is noted, unless the shell is in it. -/
theorem ensures_enterPhase {shell : Shell} (phase : Phase) (hnotices : shell.console.GivesNotices) :
    Ensures (enterPhase phase) shell fun ended after => ended = .ok () ∧
      ∃ k noted, after = { shell with console := k, phase } ∧ k.nature = shell.console.nature ∧
        k.entries = shell.console.entries ++ noted ∧ AreNotices noted ∧
        (shell.phase = phase ∧ noted = [] ∨
          ∃ echoed, noted = [.noted (.phase shell.phase phase) echoed]) := by
  rw [enterPhase, ensures_bind, ensures_get]
  dsimp only
  split
  case isTrue hne =>
    rw [ensures_bind]
    refine (ensures_note _ hnotices).mono ?_
    rintro _ noted ⟨rfl, k, echoed, rfl, hnature, hentries⟩
    refine ⟨rfl, k, _, rfl, hnature, hentries, ?_, .inr ⟨echoed, rfl⟩⟩
    intro e he
    exact ⟨_, echoed, List.mem_singleton.1 he⟩
  case isFalse heq =>
    have hphase : shell.phase = phase := not_not.1 heq
    refine ⟨rfl, shell.console, [], ?_, rfl, (List.append_nil _).symm, nofun, .inl ⟨hphase, rfl⟩⟩
    rw [← hphase]

/-- **The shell turns to a request**, and nothing is shielded then. -/
theorem ensures_dispatching {shell : Shell} {past : List Entry}
    (hnotices : shell.console.GivesNotices) (hpoised : Poised past shell) :
    Ensures (enterPhase .dispatching) shell fun ended after => ended = .ok () ∧
      ∃ k noted, after = { shell with console := k, phase := .dispatching } ∧
        k.nature = shell.console.nature ∧ k.entries = shell.console.entries ++ noted ∧
        AreNotices noted ∧ IsExposed shell.writesPrompts (past ++ noted) := by
  refine (ensures_enterPhase .dispatching hnotices).mono ?_
  rintro _ after ⟨rfl, k, noted, rfl, hnature, hentries, hnoted, hchange⟩
  refine ⟨rfl, k, noted, rfl, hnature, hentries, hnoted, ?_⟩
  rcases hchange with ⟨hphase, rfl⟩ | ⟨echoed, rfl⟩
  · rw [List.append_nil]
    exact hpoised (by simp [hphase])
  · exact isExposed_concat rfl fun _ _ => nofun

/-! ## Requests without a statement -/

/-- **A shell is ready to answer** a request behind some notices, and nothing is
    shielded then. -/
structure Readies (past : List Entry) (before : Shell) (request : Request) (noted : List Entry)
    (ready : Shell) : Prop where
  entries : ready.console.entries = before.console.entries ++ noted
  notices : AreNotices noted
  exposed : IsExposed before.writesPrompts (past ++ noted)
  lasting : ready.lasting = before.lasting
  buffer : ready.buffer = before.buffer
  source : ready.source = before.source
  limit : ready.surroundings.limitFault = none
  session : ready.session = before.session.serve request
  count : ready.errors = before.errors + if before.fails request then 1 else 0

section Dealing

variable {past : List Entry} {before : Shell}

/-- **A request that is answered by some texts** is dealt with. -/
theorem Readies.dealt {request : Request} {noted : List Entry} {ready after : Shell}
    {P : Entry → Prop} {ended : Except Exit Unit} (h : Readies past before request noted ready)
    (hrequest : ∀ s, request ≠ .ok (.statement s)) (hafter : Utters P ready ended after) :
    Deals past before request ended after := by
  right
  obtain ⟨k, texts, fault, rfl, hnature, hadded, huttered⟩ := hafter
  have hsame : ready.console.nature = before.console.nature := congrArg Lasting.nature h.lasting
  have hwrites : ready.writesPrompts = before.writesPrompts :=
    congrArg Lasting.writesPrompts h.lasting
  have houtput (e : Entry) (he : e ∈ texts ++ fault) := e.of_not_isSilent (huttered.outputs e he).1
  have hmiles : (texts ++ fault).filter Entry.isMilestone = [] := by
    rw [List.filter_eq_nil_iff]
    intro e he
    simp [(houtput e he).1]
  refine ⟨noted ++ (texts ++ fault), ?_, ?_, h.buffer, h.session, h.limit, fun _ => h.count,
    ?_, ?_, ?_, ?_, ?_, huttered.ne_stalled⟩
  · rw [hadded, h.entries, List.append_assoc]
  · rw [← h.lasting]
    simp only [Shell.lasting, hnature]
  · intro e he
    rcases List.mem_append.1 he with he | he
    · obtain ⟨n, echoed, rfl⟩ := h.notices e he
      trivial
    · exact (Console.allows_congr hsame e).1 (huttered.outputs e he).2
  · intro prompt he
    rcases List.mem_append.1 he with he | he
    · exact h.notices.unasked prompt he
    · exact (houtput _ he).2.2.2 prompt rfl
  · exact Ends.append h.notices.areQuiet.areEndured (huttered.ends fun _ _ _ => h.exposed)
  · intro _ _
    dsimp only
    rw [hwrites, ← List.append_assoc]
    exact h.exposed.append fun e he => (houtput e he).2.1
  · have hnone : (noted ++ (texts ++ fault)).filter Entry.isMilestone = [] := by
      rw [List.filter_append, h.notices.filter_isMilestone, hmiles, List.nil_append]
    cases request with
    | error e => exact ⟨hnone, h.source⟩
    | ok input =>
      cases input with
      | statement s => exact absurd rfl (hrequest s)
      | _ => exact ⟨hnone, h.source⟩

/-- **A command** is carried out or refused, and no command is an empty text. -/
theorem deals_handle (input : Input) (hinput : ∀ s, input ≠ .statement s)
    (hnotices : before.console.GivesNotices) (hlimit : before.surroundings.limitFault = none)
    (hpoised : Poised past before) :
    Ensures (handle input) before (Deals past before (.ok input)) := by
  have hrequest (s : Text) : (.ok input : Request) ≠ .ok (.statement s) := by simp [hinput]
  unfold handle
  rw [ensures_bind]
  refine (ensures_dispatching hnotices hpoised).mono ?_
  rintro _ opened ⟨rfl, k, noted, rfl, hnature, hentries, hnoted, hexposed⟩
  have hlasting : ({ before with console := k } : Shell).lasting = before.lasting := by
    simp only [lasting, hnature]
  have hready (session : Session) (errors : Nat) (hs : session = before.session.serve (.ok input))
      (he : errors = before.errors + if before.fails (.ok input) then 1 else 0) :
      Readies past before (.ok input) noted
        { before with console := k, phase := .dispatching, session, errors } :=
    ⟨hentries, hnoted, hexposed, hlasting, rfl, rfl, hlimit, hs, he⟩
  cases input with
  | statement s => exact absurd rfl (hinput s)
  | empty =>
    refine (utters_pure (P := Entry.IsUnwritten) _).mono ?_
    exact fun ended after => (hready before.session before.errors rfl rfl).dealt hrequest
  | command c =>
    dsimp only
    rw [perform, ensures_bind, ensures_get]
    dsimp only
    cases hc : c.perform before.session with
    | error e =>
      dsimp only
      rw [ensures_bind, countError, ensures_modify]
      refine (utters_write _ _ _).mono fun ended after => (hready _ _ ?_ ?_).dealt hrequest
      · simp [Session.serve, hc]
      · simp [fails, hc]
    | ok result =>
      obtain ⟨session, answer⟩ := result
      dsimp only
      rw [ensures_bind, ensures_modify]
      refine (utters_writeAll _ _ _).mono fun ended after => (hready _ _ ?_ ?_).dealt hrequest
      · simp [Session.serve, hc]
      · simp [fails, hc]

/-- **An input that is not terminated** brings one line. -/
theorem deals_unterminated (e : Unterminated) (hlimit : before.surroundings.limitFault = none)
    (hexposed : IsExposed before.writesPrompts past) :
    Ensures (deal (.error e)) before (Deals past before (.error e)) := by
  rw [deal, ensures_bind, countError, ensures_modify]
  have hready : Readies past before (.error e) [] { before with errors := before.errors + 1 } :=
    ⟨(List.append_nil _).symm, List.forall_mem_nil _, by rwa [List.append_nil], rfl, rfl, rfl,
      hlimit, rfl, rfl⟩
  refine (utters_write _ _ _).mono ?_
  intro ended after
  apply hready.dealt
  intro s hstatement
  cases hstatement

/-! ## Statements -/

/-- An action passes a test on what it returns. -/
theorem ensures_passes {α : Type} (action : ShellM α) (shell : Shell) (test : α → Bool) :
    Ensures action shell fun ended _ => passes action shell (fun a _ => test a)
      = match ended with
        | .ok a => test a
        | .error _ => false := by
  unfold Ensures passes
  cases action shell <;> rfl

/-- An action that returns one value. -/
theorem Ensures.exists_ok {α : Type} {action : ShellM α} {shell : Shell} {a : α} {P : Shell → Prop}
    (h : Ensures action shell fun ended after => ended = .ok a ∧ P after) :
    ∃ after, action shell = .ok a after ∧ P after := by
  unfold Ensures at h
  split at h
  case h_1 a' after ha =>
    obtain ⟨⟨⟩, hafter⟩ := h
    exact ⟨after, ha, hafter⟩
  case h_2 => cases h.1

/-- **A statement that is taken up** has been recorded, and nothing has been asked
    of the engine. -/
theorem ensures_takeUp (s : Text) (hnotices : before.console.GivesNotices) :
    Ensures (takeUp s) before fun ended after => ended = .ok () ∧ ∃ k taken,
      after = { before with
        console := k
        session := before.session.record s
        source := .execution (.fresh s {})
        phase := .executing } ∧
      k.nature = before.console.nature ∧ k.entries = before.console.entries ++ taken ∧
      AreQuiet taken ∧ taken.filter Entry.isMilestone = [.recorded s] ∧
      ∀ prompt, .asked prompt ∉ taken := by
  rw [takeUp, ensures_bind]
  refine (ensures_enterPhase .dispatching hnotices).mono ?_
  rintro _ turned ⟨rfl, k, noted, rfl, hnature, hentries, hnoted, -⟩
  dsimp only
  rw [ensures_bind, ensures_modify]
  dsimp only
  rw [ensures_bind, enter, onConsole, ensures_modify]
  dsimp only
  rw [ensures_bind]
  have hnotices' : (k.enter (.recorded s)).GivesNotices :=
    (Console.givesNotices_congr (by exact hnature)).2 hnotices
  refine (ensures_enterPhase .executing hnotices').mono ?_
  rintro _ executing ⟨rfl, k', noted', rfl, hnature', hentries', hnoted', -⟩
  refine ⟨rfl, k', noted ++ [.recorded s] ++ noted', rfl, hnature'.trans hnature, ?_, ?_, ?_, ?_⟩
  · rw [hentries', Console.entries_enter, hentries]
    simp
  · intro e he
    rcases List.mem_append.1 he with he | he
    · rcases List.mem_append.1 he with he | he
      · exact hnoted.areQuiet e he
      · obtain rfl := List.mem_singleton.1 he
        exact ⟨rfl, rfl⟩
    · exact hnoted'.areQuiet e he
  · rw [List.filter_append, List.filter_append, hnoted.filter_isMilestone,
      hnoted'.filter_isMilestone]
    rfl
  · intro prompt he
    rcases List.mem_append.1 he with he | he
    · rcases List.mem_append.1 he with he | he
      · exact hnoted.unasked prompt he
      · cases List.mem_singleton.1 he
    · exact hnoted'.unasked prompt he

/-- **A statement is presented** from the phase in which its result shows. -/
theorem endured_showResult {s : Text} {shell : Shell} (hnotices : shell.console.GivesNotices)
    (hlimit : shell.surroundings.limitFault = none)
    (hsource : shell.source = .execution (.fresh s {})) :
    Ensures showResult shell fun ended after => ∃ k noted,
      k.nature = shell.console.nature ∧ k.entries = shell.console.entries ++ noted ∧
      AreNotices noted ∧
      Endured { shell with console := k, phase := .rendering } s ended after := by
  rw [showResult, ensures_bind]
  refine (ensures_enterPhase .rendering hnotices).mono ?_
  rintro _ rendering ⟨rfl, k, noted, rfl, hnature, hentries, hnoted, -⟩
  dsimp only
  rw [ensures_bind, createWriter, ensures_bind, ensures_get]
  dsimp only
  rw [ensures_pure]
  have hendures : Endures { shell with console := k, phase := .rendering } s [] []
      { shell with console := k, phase := .rendering } := by
    refine ⟨rfl, ⟨?_, hlimit, (Console.givesNotices_congr hnature).2 hnotices⟩, ?_, nofun,
      [], by simp, nofun, rfl⟩
    · dsimp only
      rw [hsource]
      exact .fresh _
    · intro r hr
      rw [hsource] at hr
      cases hr
  refine (enduring_present _ _ _ hendures).mono ?_
  intro ended after hafter
  exact ⟨k, noted, hnature, hentries, hnoted, hafter⟩

/-- A presentation that is held up holds the shell up in which its statement was
    recorded. -/
theorem HeldUp.holdsUp {origin after : Shell} {s : Text} (h : HeldUp origin s after)
    (hrecorded : origin.session = before.session.record s) : origin.engine.HoldsUp s after := by
  have hsession : after.session = origin.session := congrArg Standing.session h.standing
  refine ⟨?_, h.submitted, hsession ▸ h.blocks, h.working⟩
  rw [hsession, hrecorded]
  simp [Session.record]

/-- **A statement that has been wound up** has been dealt with. -/
theorem Concludes.deals {s : Text} {k : Console} {x : EventSource} {taken : List Entry}
    {shown : Except Exit (Outcome Binary64)} {ended : Except Exit Unit} {after : Shell}
    (h : Concludes { before with
      console := k, session := before.session.record s, source := x, phase := .rendering }
      s (past ++ taken) shown ended after)
    (hnature : k.nature = before.console.nature)
    (hentries : k.entries = before.console.entries ++ taken) (hquiet : AreQuiet taken)
    (hmiles : taken.filter Entry.isMilestone = [.recorded s])
    (hunasked : ∀ prompt, .asked prompt ∉ taken)
    (hfails : failuresOf shown = if before.fails (.ok (.statement s)) then 1 else 0) :
    Deals past before (.ok (.statement s)) ended after := by
  have hlasting (st : Standing) (hst : { st with errors := before.errors } = { standing
      { before with
        console := k, session := before.session.record s, source := x, phase := .rendering }
      with errors := before.errors }) :
      Lasting.mk st.nature st.historyFile st.engine st.interactive st.writesPrompts
        = before.lasting := by
    have h := congrArg (fun st : Standing => Lasting.mk st.nature st.historyFile st.engine
      st.interactive st.writesPrompts) hst
    refine Eq.trans h ?_
    simp only [Shell.lasting, standing, hnature]
  -- While a statement is wound up only the count of failures changes of what stands.
  rcases h with ⟨rfl, hheld⟩ |
    ⟨⟨errors, ⟨hne, herrors, added, hwinds, hends⟩, hcount⟩, hover⟩
  · refine .inl ⟨rfl, ⟨s, hheld.holdsUp rfl⟩, hlasting after.standing ?_⟩
    rw [hheld.standing]
  have hstanding := hwinds.standing
  refine .inr ⟨taken ++ added, ?_, hlasting after.standing hstanding,
    congrArg Standing.buffer hstanding, congrArg Standing.session hstanding, hwinds.pursues.limit,
    ?_, ?_, ?_, ?_, ?_, ?_, hne⟩
  · rw [hwinds.entries, hentries, List.append_assoc]
  · intro hok
    rw [herrors, hcount hok, hfails]
  · intro e he
    rcases List.mem_append.1 he with he | he
    · exact Console.allows_of_fault? (e.fault?_of_isSilent (hquiet e he).1)
    · exact (Console.allows_congr hnature e).1 (hwinds.allowed e he)
  · intro prompt he
    exact (List.mem_append.1 he).elim (hunasked prompt) (hwinds.unasked prompt)
  · exact Ends.append hquiet.areEndured hends
  · intro _ hphase
    exact absurd (congrArg Standing.phase hstanding) hphase
  · refine ⟨?_, added.filter Entry.isMilestone, ?_, hwinds.pursues.stage⟩
    · rwa [hwinds.answer]
    · rw [List.filter_append, hmiles]
      rfl

/-- **A statement** is taken up, presented and wound up. -/
theorem deals_statement (s : Text) (hnotices : before.console.GivesNotices)
    (hlimit : before.surroundings.limitFault = none) :
    Ensures (handle (.statement s)) before (Deals past before (.ok (.statement s))) := by
  -- Whether the statement fails is said of its whole presentation, so both runs are
  -- taken back to the shell in which the statement has been taken up.
  obtain ⟨begun, htake, k, taken, hbegun, hnature, hentries, hquiet, hmiles, hunasked⟩ :=
    (ensures_takeUp s hnotices).exists_ok
  have hfails : before.fails (.ok (.statement s))
      = !passes showResult begun fun outcome _ => outcome.isSuccess := by
    simp only [fails, passes, presentation, bind, EStateM.bind, htake]
  have hhandle : handle (.statement s) before = (attempt showResult >>= settle) begun := by
    rw [handle_statement]
    simp only [bind, EStateM.bind, htake]
  rw [Ensures, hhandle]
  refine ensures_bind.2 (ensures_attempt.2 ?_)
  have hbegunNotices : begun.console.GivesNotices :=
    hbegun ▸ (Console.givesNotices_congr hnature).2 hnotices
  have hbegunSource : begun.source = .execution (.fresh s {}) := hbegun ▸ rfl
  have hshown := endured_showResult hbegunNotices (hbegun ▸ hlimit) hbegunSource
  refine (hshown.and (ensures_passes showResult _ Outcome.isSuccess)).mono ?_
  rintro shown after ⟨⟨k', noted, hnature', hentries', hnoted, hendured⟩, hpasses⟩
  refine (concludes_settle (past ++ (taken ++ noted)) shown hendured).mono ?_
  subst hbegun
  intro ended last hconcludes
  refine hconcludes.deals (hnature'.trans hnature) ?_ ?_ ?_ ?_ ?_
  · rw [hentries', hentries, List.append_assoc]
  · intro e he
    exact (List.mem_append.1 he).elim (hquiet e) (hnoted.areQuiet e)
  · rw [List.filter_append, hmiles, hnoted.filter_isMilestone]
    rfl
  · intro prompt he
    exact (List.mem_append.1 he).elim (hunasked prompt) (hnoted.unasked prompt)
  · rw [hfails, hpasses]
    cases shown with
    | ok outcome => cases h : outcome.isSuccess <;> simp [failuresOf, h]
    | error e => rfl

/-- **Every request is dealt with**, unless the engine holds its statement up. -/
theorem deals_deal (request : Request) (hnotices : before.console.GivesNotices)
    (hlimit : before.surroundings.limitFault = none) (hpoised : Poised past before)
    (hexposed : ∀ e, request = .error e → IsExposed before.writesPrompts past) :
    Ensures (deal request) before (Deals past before request) := by
  cases request with
  | error e => exact deals_unterminated e hlimit (hexposed e rfl)
  | ok input =>
    cases input with
    | statement s => exact deals_statement s hnotices hlimit
    | command c => exact deals_handle (.command c) nofun hnotices hlimit hpoised
    | empty => exact deals_handle .empty nofun hnotices hlimit hpoised

end Dealing

end Shell

end SqlShell
