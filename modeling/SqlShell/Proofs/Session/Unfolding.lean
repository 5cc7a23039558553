import SqlShell.Proofs.Session.Requests

/-! # How a Session Unfolds

    A session is a sequence of requests, each of which is dealt with before the
    next one is looked at, with passages in between in which the shell asks for
    lines and reads them.

    * **`Passage`** says what a passage leaves as it is; **`asks_ask`** is the one in
      which the user is asked for a line.
    * **`Unfolds`** takes a session apart into passages and into the chapters in
      which its requests are dealt with.
    * **`Unfolds.amountsTo`** puts together what becomes of a session, from what
      becomes of it in each of them. -/

namespace SqlShell

/-! ## Chapters -/

/-- **A chapter of a session**: a request, and the shell before and after it. -/
structure Chapter where
  request : Request
  before : Shell
  ended : Except Exit Unit
  after : Shell

/-- The request has failed. -/
def Chapter.fails (c : Chapter) : Bool := c.before.fails c.request

/-- What a chapter adds to the transcript. -/
def Chapter.entries (c : Chapter) : List Entry :=
  c.after.console.entries.drop c.before.console.entries.length

namespace Shell

/-! ## Passages -/

/-- **A passage between two requests** behind the entries `past`: only prompts and
    line ends are written. -/
structure Passage (mayBreak : Prop) (past : List Entry) (before : Shell) (added : List Entry)
    (ended : Except Exit Unit) (after : Shell) : Prop where
  entries : after.console.entries = before.console.entries ++ added
  lasting : after.lasting = before.lasting
  session : after.session = before.session
  source : after.source = before.source
  errors : after.errors = before.errors
  surroundings : after.surroundings = before.surroundings
  allowed : ∀ e ∈ added, before.console.Allows e
  miles : added.filter Entry.isMilestone = []
  ends : Ends mayBreak before.writesPrompts past added ended
  prompts : (∃ e ∈ added, e.isSilent = false) →
    before.writesPrompts = true ∨ before.interactive = true

section Passing

variable {mayBreak : Prop} {past added added' : List Entry} {before middle after : Shell}
  {ended : Except Exit Unit}

theorem allows_of_lasting {e : Entry} (h : after.lasting = before.lasting) :
    after.console.Allows e ↔ before.console.Allows e :=
  Console.allows_congr (congrArg Lasting.nature h) e

theorem writesPrompts_of_lasting (h : after.lasting = before.lasting) :
    after.writesPrompts = before.writesPrompts := congrArg Lasting.writesPrompts h

theorem Passage.trans (h : Passage mayBreak past before added (.ok ()) middle)
    (h' : Passage mayBreak (past ++ added) middle added' ended after) :
    Passage mayBreak past before (added ++ added') ended after where
  entries := by rw [h'.entries, h.entries, List.append_assoc]
  lasting := h'.lasting.trans h.lasting
  session := h'.session.trans h.session
  source := h'.source.trans h.source
  errors := h'.errors.trans h.errors
  surroundings := h'.surroundings.trans h.surroundings
  allowed := fun e he => (List.mem_append.1 he).elim (h.allowed e) fun he =>
    (allows_of_lasting h.lasting).1 (h'.allowed e he)
  miles := by rw [List.filter_append, h.miles, h'.miles, List.append_nil]
  ends := by
    have hends := h'.ends
    rw [writesPrompts_of_lasting h.lasting] at hends
    exact Ends.append h.ends hends
  prompts := by
    rintro ⟨e, he, houtput⟩
    rcases List.mem_append.1 he with he | he
    · exact h.prompts ⟨e, he, houtput⟩
    · have hprompts := h'.prompts ⟨e, he, houtput⟩
      have hinteractive : middle.interactive = before.interactive :=
        congrArg Lasting.interactive h.lasting
      rw [writesPrompts_of_lasting h.lasting, hinteractive] at hprompts
      exact hprompts

/-- A passage in which nothing is written. -/
theorem passage_of_silent {k : Console} {phase : Phase} {buffer : StatementBuffer}
    (hnature : k.nature = before.console.nature)
    (hentries : k.entries = before.console.entries ++ added)
    (hadded : ∀ e ∈ added, e.isSilent = true ∧ e.isMilestone = false) :
    Passage mayBreak past before added (.ok ()) { before with console := k, phase, buffer } where
  entries := hentries
  lasting := by simp only [lasting, hnature]
  session := rfl
  source := rfl
  errors := rfl
  surroundings := rfl
  allowed := fun e he => Console.allows_of_fault? (e.fault?_of_isSilent (hadded e he).1)
  miles := by
    rw [List.filter_eq_nil_iff]
    intro e he
    simp [(hadded e he).2]
  ends := fun e he => .inl (e.fault?_of_isSilent (hadded e he).1)
  prompts := by
    rintro ⟨e, he, houtput⟩
    rw [(hadded e he).1] at houtput
    cases houtput

/-- The next phase is part of a passage. -/
theorem passage_enterPhase (mayBreak : Prop) (past : List Entry) (phase : Phase)
    (hphase : phase ≠ .dispatching) (hnotices : before.console.GivesNotices) :
    Ensures (enterPhase phase) before fun ended after => ended = .ok () ∧ ∃ noted,
      Passage mayBreak past before noted (.ok ()) after ∧ after.buffer = before.buffer ∧
      ∀ e ∈ noted, e.presents? = none := by
  refine (ensures_enterPhase phase hnotices).mono ?_
  rintro ended after ⟨hended, k, noted, rfl, hnature, hentries, hnoted, hchange⟩
  refine ⟨hended, noted, passage_of_silent hnature hentries ?_, rfl, ?_⟩
  · intro e he
    obtain ⟨n, echoed, rfl⟩ := hnoted e he
    exact ⟨rfl, rfl⟩
  · rcases hchange with ⟨-, rfl⟩ | ⟨echoed, rfl⟩
    · exact nofun
    · intro e he
      obtain rfl := List.mem_singleton.1 he
      cases phase with
      | dispatching => exact absurd rfl hphase
      | _ => rfl

/-- Some texts are a passage. -/
theorem Utters.passage {P : Entry → Prop} (h : Utters P before ended after)
    (hprompts : before.writesPrompts = true ∨ before.interactive = true)
    (hexposed : IsExposed before.writesPrompts past) :
    ∃ added, Passage mayBreak past before added ended after ∧ after.buffer = before.buffer ∧
      (∀ e ∈ added, e.presents? = none) ∧ ended ≠ .error .stalled := by
  obtain ⟨k, texts, fault, rfl, hnature, hentries, huttered⟩ := h
  have houtput (e : Entry) (he : e ∈ texts ++ fault) := e.of_not_isSilent (huttered.outputs e he).1
  refine ⟨texts ++ fault, ⟨hentries, ?_, rfl, rfl, rfl, rfl, ?_, ?_, ?_, fun _ => hprompts⟩, rfl,
    fun e he => (houtput e he).2.1, huttered.ne_stalled⟩
  · simp only [lasting, hnature]
  · exact fun e he => (huttered.outputs e he).2
  · rw [List.filter_eq_nil_iff]
    intro e he
    simp [(houtput e he).1]
  · exact huttered.ends fun _ _ _ => hexposed

/-- **What has been entered is thrown away** where nothing is shielded. -/
theorem passage_discard (mayBreak : Prop) (hexposed : IsExposed before.writesPrompts past) :
    Ensures discard before fun ended after => ∃ added,
      Passage mayBreak past before added ended after ∧ after.buffer = .empty ∧
      (∀ e ∈ added, e.presents? = none) ∧ ended ≠ .error .stalled := by
  have hempty : Passage mayBreak past before [] (.ok ()) { before with buffer := .empty } :=
    passage_of_silent rfl (List.append_nil _).symm nofun
  rw [discard, ensures_bind, ensures_modify]
  dsimp only
  rw [ensures_bind, ensures_get]
  dsimp only
  split
  case isTrue hinteractive =>
    refine (utters_write .out ['\n'] _).mono ?_
    intro ended after hafter
    obtain ⟨added, hpassage, hbuffer, hadded⟩ := hafter.passage (.inr hinteractive)
      (show IsExposed before.writesPrompts (past ++ []) by rwa [List.append_nil])
    exact ⟨added, hempty.trans hpassage, hbuffer, hadded⟩
  case isFalse => exact ⟨[], hempty, rfl, nofun, nofun⟩

/-! ## Asking -/

/-- **The user has been asked for a line**: perhaps what was entered before has been
    thrown away by an interrupted prompt. -/
structure Asked (mayBreak : Prop) (past : List Entry) (before : Shell) (added : List Entry)
    (ended : Except Exit Unit) (after : Shell) : Prop where
  passage : Passage mayBreak past before added ended after
  exposed : ended = .ok () → IsExposed before.writesPrompts (past ++ added)
  buffer : after.buffer = before.buffer ∨ after.buffer = .empty ∧ before.writesPrompts = true ∧
    ∃ e ∈ added, e.isStruck = true

/-- A prompt is not shielded once it has been written or struck off. -/
theorem isExposed_prompted {writesPrompts : Bool} {prompt : Text} {e : Entry}
    (he : e.isSilent = false) :
    IsExposed writesPrompts (past ++ [.asked prompt] ++ [e]) := by
  have hnone := (e.of_not_isSilent he).2.1
  rintro e' ⟨-, hpresenting | ⟨-, earlier, prompt', h⟩⟩
  · rw [isPresenting_append_of_none (by simpa using hnone), isPresenting_concat rfl] at hpresenting
    cases hpresenting
  · cases List.singleton_inj.1 (List.append_inj_right' h rfl)
    cases he

/-- A prompt has been written or not. -/
theorem passage_prompt {k : Console} {e : Entry} (hwrites : before.writesPrompts = true)
    (hnature : k.nature = before.console.nature)
    (hentries : k.entries = before.console.entries ++ [e]) (he : e.isSilent = false)
    (hallowed : before.console.Allows e)
    (hends : Ends mayBreak before.writesPrompts past [e] ended) :
    Passage mayBreak past before [e] ended { before with console := k } where
  entries := hentries
  lasting := by simp only [lasting, hnature]
  session := rfl
  source := rfl
  errors := rfl
  surroundings := rfl
  allowed := by simpa using hallowed
  miles := by simp [(e.of_not_isSilent he).1]
  ends := hends
  prompts := fun _ => .inl hwrites

/-- **The user is asked** with at most so many prompts. -/
def Asks (mayBreak : Prop) (past : List Entry) (before : Shell) (prompts : Nat)
    (ended : Except Exit Unit) (after : Shell) : Prop :=
  ∃ added, Asked mayBreak past before added ended after ∧ (ended = .error .stalled →
    prompts ≤ added.countP Entry.isStruck ∧ (0 < prompts → before.writesPrompts = true))

/-- The user may be asked behind a passage. -/
theorem Asks.trans {prompts : Nat} (h : Passage mayBreak past before added (.ok ()) middle)
    (hbuffer : middle.buffer = before.buffer)
    (h' : Asks mayBreak (past ++ added) middle prompts ended after) :
    Asks mayBreak past before prompts ended after := by
  obtain ⟨added', hasked, hstalled⟩ := h'
  have hwrites := writesPrompts_of_lasting h.lasting
  refine ⟨added ++ added', ⟨h.trans hasked.passage, ?_, ?_⟩, ?_⟩
  · intro hok
    rw [← hwrites, ← List.append_assoc]
    exact hasked.exposed hok
  · rcases hasked.buffer with hb | ⟨hb, hw, e, he, hstruck⟩
    · exact .inl (hb.trans hbuffer)
    · exact .inr ⟨hb, hwrites ▸ hw, e, List.mem_append_right _ he, hstruck⟩
  · intro hs
    rw [← hwrites, List.countP_append]
    exact ⟨Nat.le_trans (hstalled hs).1 (Nat.le_add_left _ _), (hstalled hs).2⟩

/-- What follows the question for a line, if the shell writes its prompts. -/
def prompted (fuel : Nat) (prompt : Text) : ShellM Unit := do
  match ← put .out prompt with
  | none => pure ()
  | some (.fault f) => throw (.crashed f.crash)
  | some .interrupt => do
    discard
    ask fuel

/-- **A prompt** is written; if it is interrupted the user is asked again. -/
theorem asks_prompted {fuel : Nat} {prompt : Text} (hwrites : before.writesPrompts = true)
    (hbreak : ∀ c f, before.console.Allows (.unwritten c (.fault f)) → mayBreak)
    (hagain : ∀ past' again, again.lasting = before.lasting →
      Ensures (ask fuel) again (Asks mayBreak past' again fuel)) :
    Ensures (prompted fuel prompt) before
      (Asks mayBreak (past ++ [.asked prompt]) before (fuel + 1)) := by
  rw [prompted, ensures_bind]
  refine (traces_put .out prompt before).mono ?_
  rintro ended told ⟨fault, k, rfl, rfl, hnature, hput⟩
  match fault with
  | none =>
    have hpassage : Passage mayBreak (past ++ [.asked prompt]) before [.written .out prompt]
        (.ok ()) { before with console := k } :=
      passage_prompt hwrites hnature hput rfl trivial (by simp [Ends, AreEndured, Entry.fault?])
    exact ⟨_, ⟨hpassage, fun _ => isExposed_prompted rfl, .inl rfl⟩, nofun⟩
  | some (.fault f) =>
    have hpassage : Passage mayBreak (past ++ [.asked prompt]) before [.unwritten .out (.fault f)]
        (.error (.crashed f.crash)) { before with console := k } :=
      passage_prompt hwrites hnature hput.1 rfl hput.2 (hbreak _ _ hput.2)
    exact ⟨_, ⟨hpassage, nofun, .inl rfl⟩, nofun⟩
  | some .interrupt =>
    -- What was entered is thrown away with the prompt, and the user is asked again.
    have hpassage : Passage mayBreak (past ++ [.asked prompt]) before [.unwritten .out .interrupt]
        (.ok ()) { before with console := k } :=
      passage_prompt hwrites hnature hput.1 rfl hput.2 (by simp [Ends, AreEndured, Entry.isStruck])
    have hexposed : IsExposed { before with console := k }.writesPrompts
        (past ++ [.asked prompt] ++ [.unwritten .out .interrupt]) := isExposed_prompted rfl
    dsimp only
    rw [ensures_bind]
    refine (passage_discard mayBreak hexposed).mono ?_
    rintro ended discarded ⟨added, hdiscard, hbuffer, hnone, hne⟩
    have hboth := hpassage.trans hdiscard
    match ended with
    | .error e =>
      refine ⟨_, ⟨hboth, nofun, .inr ⟨hbuffer, hwrites, _, List.mem_cons_self, rfl⟩⟩, ?_⟩
      exact fun h => absurd h hne
    | .ok () =>
      have hnext := hagain (past ++ [.asked prompt] ++ ([.unwritten .out .interrupt] ++ added))
        discarded hboth.lasting
      refine hnext.mono ?_
      rintro ended after ⟨added', hasked, hstalled⟩
      refine ⟨_, ⟨hboth.trans hasked.passage, ?_,
        .inr ⟨?_, hwrites, _, List.mem_cons_self, rfl⟩⟩, ?_⟩
      · intro hok
        have hexposed' := hasked.exposed hok
        rwa [writesPrompts_of_lasting hboth.lasting, List.append_assoc] at hexposed'
      · rcases hasked.buffer with h | h
        · exact h.trans hbuffer
        · exact h.1
      · intro h
        refine ⟨?_, fun _ => hwrites⟩
        have := (hstalled h).1
        simp only [List.countP_append, List.singleton_append, List.countP_cons, Entry.isStruck]
        simp
        omega

/-- The question for a line, behind what is noted of the phase. -/
def question (fuel : Nat) : ShellM Unit := do
  let shell ← get
  enter (.asked shell.currentPrompt)
  if shell.writesPrompts then prompted fuel shell.currentPrompt

/-- **The question is put**, and its prompt is written if the shell writes its prompts. -/
theorem asks_question {fuel : Nat}
    (hbreak : before.writesPrompts = true → ∀ c f,
      before.console.Allows (.unwritten c (.fault f)) → mayBreak)
    (hagain : ∀ past' again, again.lasting = before.lasting →
      Ensures (ask fuel) again (Asks mayBreak past' again fuel)) :
    Ensures (question fuel) before (Asks mayBreak past before (fuel + 1)) := by
  have hasked : Passage mayBreak past before [.asked before.currentPrompt] (.ok ())
      { before with console := before.console.enter (.asked before.currentPrompt) } :=
    passage_of_silent rfl (Console.entries_enter _ _) (by simp [Entry.isSilent, Entry.isMilestone])
  rw [question, ensures_bind, ensures_get]
  dsimp only
  rw [ensures_bind, enter, onConsole, ensures_modify]
  dsimp only
  split
  case isFalse hwrites =>
    refine ⟨_, ⟨hasked, fun _ => isExposed_concat rfl fun h => absurd h hwrites, .inl rfl⟩, ?_⟩
    intro hstalled
    cases hstalled
  case isTrue hwrites =>
    refine (asks_prompted (by exact hwrites) ?_ ?_).mono fun ended after => Asks.trans hasked rfl
    · exact fun c f hallowed => hbreak hwrites c f ((allows_of_lasting hasked.lasting).1 hallowed)
    · exact fun past' again hsame => hagain past' again (hsame.trans hasked.lasting)

/-- **Asking for a line** comes to an end, unless too many prompts are interrupted. -/
theorem asks_ask (past : List Entry) (fuel : Nat) (hnotices : before.console.GivesNotices)
    (hbreak : before.writesPrompts = true → ∀ c f,
      before.console.Allows (.unwritten c (.fault f)) → mayBreak) :
    Ensures (ask fuel) before (Asks mayBreak past before fuel) := by
  -- Every prompt that is interrupted takes one unit of the fuel.
  induction fuel generalizing past before with
  | zero =>
    have hnone : Passage mayBreak past before [] (.error .stalled) before :=
      ⟨(List.append_nil _).symm, rfl, rfl, rfl, rfl, rfl, nofun, rfl, trivial, by simp⟩
    exact ⟨[], ⟨hnone, nofun, .inl rfl⟩,
      fun _ => ⟨Nat.le_refl _, fun h => absurd h (Nat.lt_irrefl 0)⟩⟩
  | succ fuel ih =>
    have hquestion (past : List Entry) (ready : Shell) (hready : ready.lasting = before.lasting) :
        Ensures (question fuel) ready (Asks mayBreak past ready (fuel + 1)) := by
      have hbreak' {again : Shell} (hagain : again.lasting = before.lasting)
          (hwrites : again.writesPrompts = true) (c : Channel) (f : WriteFault)
          (hallowed : again.console.Allows (.unwritten c (.fault f))) : mayBreak :=
        hbreak (writesPrompts_of_lasting hagain ▸ hwrites) c f
          ((allows_of_lasting hagain).1 hallowed)
      refine asks_question (hbreak' hready) fun past' again hagain => ?_
      have hsame := hagain.trans hready
      have hnature : again.console.nature = before.console.nature := congrArg Lasting.nature hsame
      exact ih past' ((Console.givesNotices_congr hnature).2 hnotices) (hbreak' hsame)
    have hask : ask (fuel + 1) = (do
        if !(← get).buffer.inProgress then enterPhase .awaitingInput
        question fuel) := rfl
    rw [hask, ensures_bind, ensures_get]
    dsimp only
    split
    case isTrue =>
      rw [ensures_bind]
      refine (passage_enterPhase mayBreak past .awaitingInput nofun hnotices).mono ?_
      rintro _ ready ⟨rfl, noted, hready, hbuffer, -⟩
      exact (hquestion _ ready hready.lasting).mono fun ended after => Asks.trans hready hbuffer
    case isFalse => exact hquestion past before rfl

end Passing

/-! ## Unfolding -/

/-- **A stretch of a session**: a passage, or a request that is dealt with. -/
inductive Stretch (mayBreak : Prop) (past : List Entry) (before : Shell) :
    List Chapter → List Entry → Except Exit Unit → Shell → Prop where
  | passage {added : List Entry} {ended : Except Exit Unit} {after : Shell}
    (h : Passage mayBreak past before added ended after)
    (hpoised : ended = .ok () → Poised (past ++ added) after)
    (hstalled : ended = .error .stalled →
      before.writesPrompts = true ∧ 2 ≤ added.countP Entry.isStruck) :
    Stretch mayBreak past before [] added ended after
  | request {request : Request} {added : List Entry} {ended : Except Exit Unit} {after : Shell}
    (hdeal : Ensures (deal request) before fun ended' after' => ended' = ended ∧ after' = after)
    (h : Dealt past before request added ended after) :
    Stretch mayBreak past before [⟨request, before, ended, after⟩] added ended after

/-- **A session unfolds** from one shell to another in stretches. -/
inductive Unfolds (mayBreak : Prop) : List Entry → Shell → List Chapter → List Entry →
    Except Exit Unit → Shell → Prop where
  | done (past : List Entry) (shell : Shell) : Unfolds mayBreak past shell [] [] (.ok ()) shell
  | step {past added added' : List Entry} {before middle after : Shell}
    {chapters chapters' : List Chapter} {ended : Except Exit Unit}
    (h : Stretch mayBreak past before chapters added (.ok ()) middle)
    (rest : Unfolds mayBreak (past ++ added) middle chapters' added' ended after) :
    Unfolds mayBreak past before (chapters ++ chapters') (added ++ added') ended after
  | stop {past added : List Entry} {before after : Shell} {chapters : List Chapter} {e : Exit}
    (h : Stretch mayBreak past before chapters added (.error e) after) :
    Unfolds mayBreak past before chapters added (.error e) after

section Unfolding

variable {mayBreak : Prop} {past added added' : List Entry} {before middle after : Shell}
  {chapters chapters' : List Chapter} {ended : Except Exit Unit}

theorem Stretch.unfolds (h : Stretch mayBreak past before chapters added ended after) :
    Unfolds mayBreak past before chapters added ended after := by
  cases ended with
  | ok u =>
    have hunfolds := Unfolds.step h (.done _ _)
    rwa [List.append_nil, List.append_nil] at hunfolds
  | error e => exact .stop h

theorem Unfolds.trans (h : Unfolds mayBreak past before chapters added (.ok ()) middle)
    (h' : Unfolds mayBreak (past ++ added) middle chapters' added' ended after) :
    Unfolds mayBreak past before (chapters ++ chapters') (added ++ added') ended after := by
  generalize hok : (.ok () : Except Exit Unit) = ended₀ at h
  induction h with
  | done past shell => simpa using h'
  | step h rest ih =>
    rw [List.append_assoc, List.append_assoc]
    refine .step h (ih ?_ hok)
    rwa [List.append_assoc]
  | stop h => cases hok

end Unfolding

/-! ## What a session amounts to -/

/-- **What a stretch of a session amounts to.** -/
structure AmountsTo (mayBreak : Prop) (past : List Entry) (before : Shell)
    (chapters : List Chapter) (added : List Entry) (ended : Except Exit Unit) (after : Shell) :
    Prop where
  entries : after.console.entries = before.console.entries ++ added
  lasting : after.lasting = before.lasting
  session : after.session = (chapters.map Chapter.request).foldl Session.serve before.session
  limit : before.surroundings.limitFault = none → after.surroundings.limitFault = none
  count : ended = .ok () → after.errors = before.errors + chapters.countP Chapter.fails
  allowed : ∀ e ∈ added, before.console.Allows e
  miles : added.filter Entry.isMilestone
    = chapters.flatMap fun c => c.entries.filter Entry.isMilestone
  ends : Ends mayBreak before.writesPrompts past added ended
  poised : ended = .ok () → Poised past before → Poised (past ++ added) after
  stalled : ended = .error .stalled →
    before.writesPrompts = true ∧ 2 ≤ added.countP Entry.isStruck
  chapters : ∀ c ∈ chapters, (∃ past added, Dealt past c.before c.request added c.ended c.after) ∧
    Ensures (deal c.request) c.before fun ended after => ended = c.ended ∧ after = c.after

section Amounting

variable {mayBreak : Prop} {past added added' : List Entry} {before middle after : Shell}
  {chapters chapters' : List Chapter} {ended : Except Exit Unit}

theorem amountsTo_nil (past : List Entry) (shell : Shell) :
    AmountsTo mayBreak past shell [] [] (.ok ()) shell where
  entries := (List.append_nil _).symm
  lasting := rfl
  session := rfl
  limit := id
  count := by simp
  allowed := nofun
  miles := rfl
  ends := nofun
  poised := by simp
  stalled := nofun
  chapters := fun c hc => absurd hc List.not_mem_nil

theorem Stretch.amountsTo (h : Stretch mayBreak past before chapters added ended after) :
    AmountsTo mayBreak past before chapters added ended after := by
  cases h with
  | passage h hpoised hstalled =>
    exact ⟨h.entries, h.lasting, h.session, fun hlimit => by rw [h.surroundings, hlimit],
      fun _ => by simpa using h.errors, h.allowed, h.miles, h.ends, fun hok _ => hpoised hok,
      hstalled, fun c hc => absurd hc List.not_mem_nil⟩
  | request hdeal h =>
    refine ⟨h.entries, h.lasting, h.session, fun _ => h.limit, ?_, h.allowed, ?_, ?_,
      fun hok _ => h.poised hok, fun hs => absurd hs h.unstalled, ?_⟩
    · intro hok
      rw [h.count hok, List.countP_singleton]
      rfl
    · simp [Chapter.entries, h.entries]
    · exact h.ends.imp False.elim
    · intro c hc
      obtain rfl := List.mem_singleton.1 hc
      exact ⟨⟨past, added, h⟩, hdeal⟩

theorem AmountsTo.trans (h : AmountsTo mayBreak past before chapters added (.ok ()) middle)
    (h' : AmountsTo mayBreak (past ++ added) middle chapters' added' ended after) :
    AmountsTo mayBreak past before (chapters ++ chapters') (added ++ added') ended after where
  entries := by rw [h'.entries, h.entries, List.append_assoc]
  lasting := h'.lasting.trans h.lasting
  session := by rw [h'.session, h.session, List.map_append, List.foldl_append]
  limit := fun hlimit => h'.limit (h.limit hlimit)
  count := fun hok => by rw [h'.count hok, h.count rfl, List.countP_append, Nat.add_assoc]
  allowed := fun e he => (List.mem_append.1 he).elim (h.allowed e) fun he =>
    (allows_of_lasting h.lasting).1 (h'.allowed e he)
  miles := by rw [List.filter_append, h.miles, h'.miles, List.flatMap_append]
  ends := by
    have hends := h'.ends
    rw [writesPrompts_of_lasting h.lasting] at hends
    exact Ends.append h.ends hends
  poised := fun hok hpoised => by
    rw [← List.append_assoc]
    exact h'.poised hok (h.poised rfl hpoised)
  stalled := fun hs => by
    obtain ⟨hwrites, htwo⟩ := h'.stalled hs
    rw [writesPrompts_of_lasting h.lasting] at hwrites
    rw [List.countP_append]
    exact ⟨hwrites, Nat.le_trans htwo (Nat.le_add_left _ _)⟩
  chapters := fun c hc => (List.mem_append.1 hc).elim (h.chapters c) (h'.chapters c)

/-- **What a session amounts to**, from its stretches. -/
theorem Unfolds.amountsTo (h : Unfolds mayBreak past before chapters added ended after) :
    AmountsTo mayBreak past before chapters added ended after := by
  induction h with
  | done past shell => exact amountsTo_nil past shell
  | step h rest ih => exact h.amountsTo.trans ih
  | stop h => exact h.amountsTo

end Amounting

end Shell

end SqlShell
