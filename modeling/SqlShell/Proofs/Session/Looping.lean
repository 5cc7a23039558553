import SqlShell.Proofs.Session.Unfolding

/-! # The Main Loop

    The main loop deals with the requests of its input one after the other, until
    the session is left or something ends it.

    * **`requestsFrom`** are the requests that some input makes.
    * **`Serves`** compares them with the chapters of a session.
    * **`turns_turn`** is one turn of the loop, **`runs_loop`** the whole loop. -/

namespace SqlShell

/-! ## The requests of an input -/

/-- **The requests that a line makes**, and the buffer behind it. -/
def StatementBuffer.readOff (a : StatementBuffer) (line : Text) : List Input × StatementBuffer :=
  match Input.ofText line, a.inProgress with
  | .command c, false => ([.command c], a)
  | _, _ => ((a.takeLine line).1.map Input.ofText, (a.takeLine line).2)

theorem StatementBuffer.readOff_command {a : StatementBuffer} {line : Text} {c : ShellCommand}
    (hc : Input.ofText line = .command c) (hidle : a.inProgress = false) :
    a.readOff line = ([.command c], a) := by
  simp only [readOff, hc, hidle]

theorem StatementBuffer.readOff_of_not_command {a : StatementBuffer} {line : Text}
    (h : ∀ c, Input.ofText line = .command c → a.inProgress = false → False) :
    a.readOff line = ((a.takeLine line).1.map Input.ofText, (a.takeLine line).2) := by
  unfold readOff
  split
  case h_1 c hc hidle => exact (h c hc hidle).elim
  case h_2 => rfl

/-- The request that is left at the end of the input, if there is one. -/
def StatementBuffer.lastRequests (a : StatementBuffer) : List Request :=
  match a.finish with
  | .error e => [.error e]
  | .ok left => left.toList.map fun text => .ok (Input.ofText text)

/-- **The requests of some input** from a buffer on; nothing is read behind a
    breakdown. -/
def requestsFrom (a : StatementBuffer) : List InputLine → List Request
  | [] => a.lastRequests
  | .line text :: r => (a.readOff text).1.map .ok ++ requestsFrom (a.readOff text).2 r
  | .interrupt :: r => requestsFrom .empty r
  | .crash _ :: _ => []

/-- **An input is the same but for interruptions** that have been put in. -/
inductive Interrupted : List InputLine → List InputLine → Prop where
  | same (input : List InputLine) : Interrupted input input
  | interrupt {input input' : List InputLine} (h : Interrupted input input') :
    Interrupted input (.interrupt :: input')
  | item {input input' : List InputLine} (item : InputLine) (h : Interrupted input input') :
    Interrupted (item :: input) (item :: input')

namespace Shell

/-! ## Serving requests -/

/-- **The chapters serve the requests that are planned**: in order, and all of them
    unless something ends the session or it is left. -/
def Serves (planned : List Request) (chapters : List Chapter) (ended : Except Exit Unit)
    (after : Shell) : Prop :=
  chapters.map Chapter.request <+: planned ∧
    (ended = .ok () → after.session.running = true → chapters.map Chapter.request = planned)

section Serving

variable {planned planned' : List Request} {chapters chapters' : List Chapter}
  {ended : Except Exit Unit} {middle after : Shell}

theorem Serves.append (h : Serves planned chapters (.ok ()) middle)
    (hrunning : middle.session.running = true) (h' : Serves planned' chapters' ended after) :
    Serves (planned ++ planned') (chapters ++ chapters') ended after := by
  rw [Serves, List.map_append, h.2 rfl hrunning]
  refine ⟨List.prefix_append_right_inj _ |>.2 h'.1, ?_⟩
  intro hok hrunning'
  rw [h'.2 hok hrunning']

/-- What is planned for later is left out. -/
theorem Serves.left (h : Serves planned chapters ended after)
    (hstopped : ended = .ok () → after.session.running = false) :
    Serves (planned ++ planned') chapters ended after := by
  refine ⟨h.1.trans (List.prefix_append _ _), ?_⟩
  intro hok hrunning
  rw [hstopped hok] at hrunning
  cases hrunning

end Serving

/-- **A shell is fit to go on** behind some entries. -/
structure Fit (mayBreak : Prop) (past : List Entry) (shell : Shell) : Prop where
  notices : shell.console.GivesNotices
  limit : shell.surroundings.limitFault = none
  poised : Poised past shell
  breaks : shell.writesPrompts = true → ∀ c f,
    shell.console.Allows (.unwritten c (.fault f)) → mayBreak

/-- **Requests are played out** from a shell on, and leave a buffer. -/
def Plays (mayBreak : Prop) (past : List Entry) (before : Shell) (planned : List Request)
    (buffer : StatementBuffer) (ended : Except Exit Unit) (after : Shell) : Prop :=
  Stalls before ended after ∨ ∃ chapters added,
    Unfolds mayBreak past before chapters added ended after ∧
    Serves planned chapters ended after ∧
    (ended = .ok () → after.session.running = true → after.buffer = buffer)

section Playing

variable {mayBreak : Prop} {past added : List Entry} {before middle after : Shell}
  {chapters : List Chapter}

theorem AmountsTo.fit (h : AmountsTo mayBreak past before chapters added (.ok ()) after)
    (hfit : Fit mayBreak past before) : Fit mayBreak (past ++ added) after where
  notices := (Console.givesNotices_congr (congrArg Lasting.nature h.lasting)).2 hfit.notices
  limit := h.limit hfit.limit
  poised := h.poised rfl hfit.poised
  breaks := fun hwrites c f hallowed =>
    hfit.breaks (writesPrompts_of_lasting h.lasting ▸ hwrites) c f
      ((allows_of_lasting h.lasting).1 hallowed)

/-- Every action ends in one way. -/
theorem ensures_self {α : Type} (action : ShellM α) (shell : Shell) :
    Ensures action shell fun ended after =>
      Ensures action shell fun ended' after' => ended' = ended ∧ after' = after := by
  unfold Ensures
  cases action shell <;> exact ⟨rfl, rfl⟩

/-- **One request is played out.** -/
theorem plays_deal (request : Request) (hfit : Fit mayBreak past before)
    (hexposed : ∀ e, request = .error e → IsExposed before.writesPrompts past) :
    Ensures (deal request) before (Plays mayBreak past before [request] before.buffer) := by
  refine ((deals_deal request hfit.notices hfit.limit hfit.poised hexposed).and
    (ensures_self _ _)).mono ?_
  rintro ended after ⟨hstalls | ⟨added, hdealt⟩, hdeal⟩
  · exact .inl hstalls
  · refine .inr ⟨_, added, (Stretch.request hdeal hdealt).unfolds, ⟨by simp, fun _ _ => rfl⟩, ?_⟩
    exact fun _ _ => hdealt.buffer

/-- **Requests are played out one after the other**, as long as the session runs. -/
theorem Plays.bind {next : Unit → ShellM Unit} {planned planned' : List Request}
    {buffer buffer' : StatementBuffer} {action : ShellM Unit} (hfit : Fit mayBreak past before)
    (h : Ensures action before (Plays mayBreak past before planned buffer))
    (hnext : ∀ past' middle, Fit mayBreak past' middle → middle.buffer = buffer →
      Ensures (next ()) middle (Plays mayBreak past' middle planned' buffer'))
    (hleft : ∀ middle, middle.session.running = false → Ensures (next ()) middle
      fun ended after => ended = .ok () ∧ after = middle) :
    Ensures (action >>= next) before
      (Plays mayBreak past before (planned ++ planned') buffer') := by
  rw [ensures_bind]
  refine h.mono ?_
  rintro ended middle (⟨rfl, hblocks⟩ | ⟨chapters, added, hunfolds, hserves, hbuffer⟩)
  · exact .inl ⟨rfl, hblocks⟩
  match ended with
  | .error e => exact .inr ⟨chapters, added, hunfolds, hserves.left nofun, nofun⟩
  | .ok () =>
    dsimp only
    have hamounts := hunfolds.amountsTo
    cases hrunning : middle.session.running with
    | false =>
      -- The session has been left, and what is planned for later is left out.
      refine (hleft middle hrunning).mono ?_
      rintro _ after ⟨rfl, rfl⟩
      refine .inr ⟨chapters, added, hunfolds, hserves.left fun _ => hrunning, ?_⟩
      intro _ h
      rw [hrunning] at h
      cases h
    | true =>
      refine (hnext _ middle (hamounts.fit hfit) (hbuffer rfl hrunning)).mono ?_
      rintro ended after (hstalls | ⟨chapters', added', hunfolds', hserves', hbuffer'⟩)
      · exact .inl (hstalls.of_lasting hamounts.lasting)
      · exact .inr ⟨_, _, hunfolds.trans hunfolds', hserves.append hrunning hserves', hbuffer'⟩

/-- **Texts are handled one after the other.** -/
theorem plays_handleAll (texts : List Text) (hfit : Fit mayBreak past before) :
    Ensures (handleAll texts) before (Plays mayBreak past before
      (texts.map fun text => .ok (Input.ofText text)) before.buffer) := by
  induction texts generalizing past before with
  | nil => exact .inr ⟨[], [], .done _ _, ⟨List.nil_prefix, fun _ _ => rfl⟩, fun _ _ => rfl⟩
  | cons text rest ih =>
    unfold handleAll
    rw [ensures_bind, ensures_get]
    dsimp only
    split
    case isTrue hrunning =>
      refine Plays.bind hfit (plays_deal (.ok (Input.ofText text)) hfit nofun) ?_ ?_
      · intro past' middle hfit' hbuffer
        rw [← hbuffer]
        exact ih hfit'
      · intro middle hstopped
        cases rest with
        | nil => exact ⟨rfl, rfl⟩
        | cons text' rest' =>
          unfold handleAll
          rw [ensures_bind, ensures_get]
          dsimp only
          rw [hstopped]
          exact ⟨rfl, rfl⟩
    case isFalse hstopped =>
      refine .inr ⟨[], [], .done _ _, ⟨List.nil_prefix, ?_⟩, fun _ _ => rfl⟩
      exact fun _ hrunning => absurd hrunning hstopped

/-- Requests may be played out behind a passage. -/
theorem Plays.after_passage {planned : List Request} {buffer : StatementBuffer}
    {ended : Except Exit Unit} (h : Unfolds mayBreak past before [] added (.ok ()) middle)
    (h' : Plays mayBreak (past ++ added) middle planned buffer ended after) :
    Plays mayBreak past before planned buffer ended after := by
  have hlasting := h.amountsTo.lasting
  rcases h' with hstalls | ⟨chapters, added', hunfolds, hserves, hbuffer⟩
  · exact .inl (hstalls.of_lasting hlasting)
  · exact .inr ⟨chapters, _, h.trans hunfolds, hserves, hbuffer⟩

/-! ## Reading -/

/-- **A line is read**: it is a command by itself, or goes on with a statement. -/
theorem plays_readLine (line : Text) (hfit : Fit mayBreak past before)
    (hexposed : IsExposed before.writesPrompts past) :
    Ensures (readLine line) before (Plays mayBreak past before
      ((before.buffer.readOff line).1.map .ok) (before.buffer.readOff line).2) := by
  have hassemble : Ensures (do
      enterPhase .assembling
      modify fun shell => { shell with buffer := (before.buffer.takeLine line).2 }
      handleAll (before.buffer.takeLine line).1) before (Plays mayBreak past before
        ((before.buffer.takeLine line).1.map fun text => .ok (Input.ofText text))
        (before.buffer.takeLine line).2) := by
    rw [ensures_bind]
    refine (passage_enterPhase mayBreak past .assembling nofun hfit.notices).mono ?_
    rintro _ assembling ⟨rfl, noted, hpassage, -, hnone⟩
    dsimp only
    rw [ensures_bind, ensures_modify]
    dsimp only
    have hmodify : Passage mayBreak (past ++ noted) assembling [] (.ok ())
        { assembling with buffer := (before.buffer.takeLine line).2 } :=
      passage_of_silent rfl (List.append_nil _).symm nofun
    have hpoised : Poised (past ++ (noted ++ []))
        { assembling with buffer := (before.buffer.takeLine line).2 } := by
      intro _
      rw [List.append_nil, show assembling.writesPrompts = before.writesPrompts from
        writesPrompts_of_lasting hpassage.lasting]
      exact hexposed.append hnone
    have hunfolds := (Stretch.passage (hpassage.trans hmodify) (fun _ => hpoised) nofun).unfolds
    refine (plays_handleAll _ (hunfolds.amountsTo.fit hfit)).mono ?_
    exact fun ended after => Plays.after_passage hunfolds
  unfold readLine
  rw [ensures_bind, ensures_get]
  dsimp only
  split
  case h_1 c hc hidle =>
    rw [StatementBuffer.readOff_command hc hidle]
    exact plays_deal (.ok (.command c)) hfit nofun
  case h_2 hother =>
    rw [StatementBuffer.readOff_of_not_command hother, List.map_map]
    exact hassemble

/-- **What has been entered is thrown away.** -/
theorem plays_discard (hexposed : IsExposed before.writesPrompts past) :
    Ensures discard before (Plays mayBreak past before [] .empty) := by
  refine (passage_discard mayBreak hexposed).mono ?_
  rintro ended after ⟨added, hpassage, hbuffer, hnone, hne⟩
  have hpoised : Poised (past ++ added) after := by
    intro _
    rw [writesPrompts_of_lasting hpassage.lasting]
    exact hexposed.append hnone
  have hstretch : Stretch mayBreak past before [] added ended after :=
    .passage hpassage (fun _ => hpoised) fun h => absurd h hne
  exact .inr ⟨[], added, hstretch.unfolds,
    ⟨List.nil_prefix, fun _ _ => rfl⟩, fun _ _ => hbuffer⟩

/-- **The end of the input** leaves at most one request. -/
theorem plays_endInput (hfit : Fit mayBreak past before)
    (hexposed : IsExposed before.writesPrompts past) :
    Ensures endInput before (Plays mayBreak past before before.buffer.lastRequests .empty) := by
  have hempty : Passage mayBreak past before [] (.ok ()) { before with buffer := .empty } :=
    passage_of_silent rfl (List.append_nil _).symm nofun
  have hpoised : Poised (past ++ []) { before with buffer := .empty } := by
    intro _
    rwa [List.append_nil]
  have hunfolds := (Stretch.passage hempty (fun _ => hpoised) nofun).unfolds
  have hfit' := hunfolds.amountsTo.fit hfit
  have hexposed' : IsExposed { before with buffer := .empty }.writesPrompts (past ++ []) := by
    rwa [List.append_nil]
  unfold endInput StatementBuffer.close
  rw [ensures_bind, ensures_get]
  dsimp only
  rw [ensures_bind, ensures_modify]
  dsimp only
  have hrequest (request : Request) := (plays_deal request hfit' fun _ _ => hexposed').mono
    fun ended after => Plays.after_passage hunfolds
  unfold StatementBuffer.lastRequests
  split
  case h_1 e he =>
    simp only [he]
    exact hrequest (.error e)
  case h_2 he =>
    simp only [he]
    exact .inr ⟨[], _, hunfolds, ⟨List.nil_prefix, fun _ _ => rfl⟩, fun _ _ => rfl⟩
  case h_3 text he =>
    simp only [he]
    exact hrequest (.ok (Input.ofText text))

/-! ## Turns -/

/-- The buffer from which a line is read: what was entered before, unless it has
    been thrown away by an interrupted prompt. -/
def ReadsFrom (before : Shell) (added : List Entry) (a : StatementBuffer) : Prop :=
  a = before.buffer ∨
    a = .empty ∧ before.writesPrompts = true ∧ ∃ e ∈ added, e.isStruck = true

/-- **A turn of the loop**: a line is asked for, and requests are played out that
    depend on the buffer. -/
def Turns (mayBreak : Prop) (past : List Entry) (before : Shell)
    (planned : StatementBuffer → List Request) (next : StatementBuffer → StatementBuffer)
    (ended : Except Exit Unit) (after : Shell) : Prop :=
  Stalls before ended after ∨ ∃ chapters added a,
    Unfolds mayBreak past before chapters added ended after ∧ ReadsFrom before added a ∧
    Serves (planned a) chapters ended after ∧
    (ended = .ok () → after.session.running = true → after.buffer = next a)

/-- **A turn is made**, if the session runs. -/
theorem turns_turn {answer : ShellM Unit} (planned : StatementBuffer → List Request)
    (next : StatementBuffer → StatementBuffer) (hfit : Fit mayBreak past before)
    (hrunning : before.session.running = true)
    (hanswer : ∀ past' asked, Fit mayBreak past' asked → IsExposed asked.writesPrompts past' →
      Ensures answer asked
        (Plays mayBreak past' asked (planned asked.buffer) (next asked.buffer))) :
    Ensures (turn answer) before (Turns mayBreak past before planned next) := by
  unfold turn
  rw [ensures_bind, ensures_get]
  dsimp only
  rw [if_pos hrunning, ensures_bind]
  refine (asks_ask past _ hfit.notices hfit.breaks).mono ?_
  rintro ended asked ⟨added, hasked, hstalled⟩
  match ended with
  | .error e =>
    have hstretch : Stretch mayBreak past before [] added (.error e) asked := by
      refine .passage hasked.passage nofun ?_
      intro hs
      obtain ⟨hcount, hwrites⟩ := hstalled hs
      exact ⟨hwrites (Nat.succ_pos _), Nat.le_trans (Nat.le_add_left _ _) hcount⟩
    exact .inr ⟨[], added, asked.buffer, .stop hstretch, hasked.buffer,
      ⟨List.nil_prefix, nofun⟩, nofun⟩
  | .ok () =>
    have hlasting := hasked.passage.lasting
    have hexposed : IsExposed asked.writesPrompts (past ++ added) := by
      rw [writesPrompts_of_lasting hlasting]
      exact hasked.exposed rfl
    have hunfolds := (Stretch.passage hasked.passage (fun _ _ => hexposed) nofun).unfolds
    refine (hanswer _ asked (hunfolds.amountsTo.fit hfit) hexposed).mono ?_
    rintro ended after (hstalls | ⟨chapters, added', hunfolds', hserves, hbuffer⟩)
    · exact .inl (hstalls.of_lasting hlasting)
    · refine .inr ⟨chapters, _, asked.buffer, hunfolds.trans hunfolds', ?_, hserves, hbuffer⟩
      refine hasked.buffer.imp_right ?_
      rintro ⟨hb, hw, e, he, hstruck⟩
      exact ⟨hb, hw, e, List.mem_append_left _ he, hstruck⟩

/-- A session that has been left is not gone on with. -/
theorem ensures_turn_of_left (answer : ShellM Unit) (hleft : before.session.running = false) :
    Ensures (turn answer) before fun ended after => ended = .ok () ∧ after = before := by
  unfold turn
  rw [ensures_bind, ensures_get]
  dsimp only
  rw [if_neg (by simp [hleft])]
  exact ⟨rfl, rfl⟩

theorem ensures_loop_of_left (input : List InputLine) (hleft : before.session.running = false) :
    Ensures (loop input) before fun ended after => ended = .ok () ∧ after = before := by
  have hturn {next : ShellM Unit} (answer : ShellM Unit)
      (hnext : Ensures next before fun ended after => ended = .ok () ∧ after = before) :
      Ensures (turn answer >>= fun _ => next) before
        fun ended after => ended = .ok () ∧ after = before := by
    rw [ensures_bind]
    refine (ensures_turn_of_left answer hleft).mono ?_
    rintro _ after ⟨rfl, rfl⟩
    exact hnext
  induction input with
  | nil => exact ensures_turn_of_left endInput hleft
  | cons item rest ih => cases item <;> exact hturn _ ih

/-! ## The loop -/

/-- **The loop is run** from a shell on some input. -/
def Runs (mayBreak : Prop) (past : List Entry) (before : Shell) (input : List InputLine)
    (ended : Except Exit Unit) (after : Shell) : Prop :=
  Stalls before ended after ∨ ∃ input' chapters added,
    Unfolds mayBreak past before chapters added ended after ∧ Interrupted input input' ∧
    (input' = input ∨ before.writesPrompts = true ∧ ∃ e ∈ added, e.isStruck = true) ∧
    Serves (requestsFrom before.buffer input') chapters ended after

/-- An interrupted prompt is as good as an interruption before the line. -/
theorem ReadsFrom.exists_interrupted {a : StatementBuffer} (h : ReadsFrom before added a) :
    ∃ put : List InputLine, (∀ r, requestsFrom before.buffer (put ++ r) = requestsFrom a r) ∧
      (∀ input input', Interrupted input input' → Interrupted input (put ++ input')) ∧
      (put = [] ∨ before.writesPrompts = true ∧ ∃ e ∈ added, e.isStruck = true) := by
  rcases h with rfl | ⟨rfl, hstruck⟩
  · exact ⟨[], fun _ => rfl, fun _ _ => id, .inl rfl⟩
  · exact ⟨[.interrupt], fun _ => rfl, fun _ _ => .interrupt, .inr hstruck⟩

/-- **A turn with which the loop ends.** -/
theorem Runs.of_turn {input : List InputLine} {a : StatementBuffer} {ended : Except Exit Unit}
    (hunfolds : Unfolds mayBreak past before chapters added ended after)
    (hreads : ReadsFrom before added a)
    (hserves : Serves (requestsFrom a input) chapters ended after) :
    Runs mayBreak past before input ended after := by
  obtain ⟨put, hrequests, hput, hstruck⟩ := hreads.exists_interrupted
  refine .inr ⟨put ++ input, chapters, added, hunfolds, hput _ _ (.same _), ?_, ?_⟩
  · exact hstruck.imp_left fun h => by rw [h, List.nil_append]
  · rwa [hrequests]

/-- The input breaks down. -/
theorem plays_throw (c : Crash) (hbreak : mayBreak) {planned : List Request}
    {buffer : StatementBuffer} :
    Ensures (throw (.crashed c)) before (Plays mayBreak past before planned buffer) := by
  have hpassage : Passage mayBreak past before [] (.error (.crashed c)) before :=
    ⟨(List.append_nil _).symm, rfl, rfl, rfl, rfl, rfl, nofun, rfl, hbreak, by simp⟩
  exact .inr ⟨[], [], .stop (.passage hpassage nofun nofun), ⟨List.nil_prefix, nofun⟩, nofun⟩

theorem ensures_turn_throw (e : Exit) (hrunning : before.session.running = true) :
    Ensures (turn (throw e)) before fun ended _ => ended ≠ .ok () := by
  unfold turn
  rw [ensures_bind, ensures_get]
  dsimp only
  rw [if_pos hrunning, ensures_bind]
  unfold Ensures
  split <;> exact nofun

/-- **A turn and the rest of the loop.** -/
theorem Runs.bind {item : InputLine} {rest : List InputLine} {answer : ShellM Unit}
    {planned : StatementBuffer → List Request} {next : StatementBuffer → StatementBuffer}
    (hitem : ∀ a r, requestsFrom a (item :: r) = planned a ++ requestsFrom (next a) r)
    (hfit : Fit mayBreak past before)
    (h : Ensures (turn answer) before (Turns mayBreak past before planned next))
    (hrest : ∀ past' middle, Fit mayBreak past' middle → middle.session.running = true →
      Ensures (loop rest) middle (Runs mayBreak past' middle rest)) :
    Ensures (turn answer >>= fun _ => loop rest) before
      (Runs mayBreak past before (item :: rest)) := by
  rw [ensures_bind]
  refine h.mono ?_
  rintro ended middle (⟨rfl, hblocks⟩ | ⟨chapters, added, a, hunfolds, hreads, hserves, hbuffer⟩)
  · exact .inl ⟨rfl, hblocks⟩
  match ended with
  | .error e =>
    refine .of_turn hunfolds hreads ?_
    rw [hitem]
    exact hserves.left nofun
  | .ok () =>
    have hamounts := hunfolds.amountsTo
    dsimp only
    cases hrunning : middle.session.running with
    | false =>
      refine (ensures_loop_of_left rest hrunning).mono ?_
      rintro _ after ⟨rfl, rfl⟩
      refine .of_turn hunfolds hreads ?_
      rw [hitem]
      exact hserves.left fun _ => hrunning
    | true =>
      refine (hrest _ middle (hamounts.fit hfit) hrunning).mono ?_
      rintro ended after (hstalls |
        ⟨rest', chapters', added', hunfolds', hrest', hstruck', hserves'⟩)
      · exact .inl (hstalls.of_lasting hamounts.lasting)
      -- What this turn puts into the input stands before its item.
      obtain ⟨put, hrequests, hput, hstruck⟩ := hreads.exists_interrupted
      refine .inr ⟨put ++ item :: rest', _, _, hunfolds.trans hunfolds',
        hput _ _ (.item item hrest'), ?_, ?_⟩
      · rcases hstruck with rfl | ⟨hwrites, e, he, hs⟩
        · rcases hstruck' with rfl | ⟨hwrites, e, he, hs⟩
          · exact .inl rfl
          · exact .inr ⟨writesPrompts_of_lasting hamounts.lasting ▸ hwrites, e,
              List.mem_append_right _ he, hs⟩
        · exact .inr ⟨hwrites, e, List.mem_append_left _ he, hs⟩
      · rw [hrequests, hitem]
        rw [hbuffer rfl hrunning] at hserves'
        exact hserves.append hrunning hserves'

/-- The loop is run if the session has not been left. -/
theorem runs_loop_of_running (input : List InputLine) (hcrash : ∀ c, .crash c ∈ input → mayBreak)
    (hfit : Fit mayBreak past before) (hrunning : before.session.running = true) :
    Ensures (loop input) before (Runs mayBreak past before input) := by
  induction input generalizing past before with
  | nil =>
    refine (turns_turn (·.lastRequests) (fun _ => .empty) hfit hrunning
      fun past' asked hfit' hexposed => plays_endInput hfit' hexposed).mono ?_
    rintro ended after (hstalls | ⟨chapters, added, a, hunfolds, hreads, hserves, -⟩)
    · exact .inl hstalls
    exact .of_turn hunfolds hreads hserves
  | cons item rest ih =>
    have hrest (past' : List Entry) (middle : Shell) (hfit' : Fit mayBreak past' middle)
        (hrunning' : middle.session.running = true) :
        Ensures (loop rest) middle (Runs mayBreak past' middle rest) :=
      ih (fun c hc => hcrash c (List.mem_cons_of_mem _ hc)) hfit' hrunning'
    cases item with
    | line text =>
      exact Runs.bind (fun _ _ => rfl) hfit (turns_turn (fun a => (a.readOff text).1.map .ok)
        (fun a => (a.readOff text).2) hfit hrunning
        fun past' asked hfit' hexposed => plays_readLine text hfit' hexposed) hrest
    | interrupt =>
      exact Runs.bind (fun _ _ => rfl) hfit (turns_turn (fun _ => []) (fun _ => .empty) hfit
        hrunning fun past' asked hfit' hexposed => plays_discard hexposed) hrest
    | crash c =>
      -- The turn does not return, so nothing is read behind it.
      have hbreak : mayBreak := hcrash c List.mem_cons_self
      refine ensures_bind.2 (((turns_turn (fun _ => []) (fun _ => .empty) hfit hrunning
        fun past' asked hfit' _ => plays_throw c hbreak).and
        (ensures_turn_throw (.crashed c) hrunning)).mono ?_)
      rintro ended after ⟨⟨rfl, hblocks⟩ |
        ⟨chapters, added, a, hunfolds, hreads, hserves, -⟩, hne⟩
      · exact .inl ⟨rfl, hblocks⟩
      match ended with
      | .ok () => exact absurd rfl hne
      | .error e => exact .of_turn hunfolds hreads hserves

/-- **The loop is run.** The input breaks down only if that is a breakdown of the
    session. -/
theorem runs_loop (input : List InputLine) (hcrash : ∀ c, .crash c ∈ input → mayBreak)
    (hfit : Fit mayBreak past before) :
    Ensures (loop input) before (Runs mayBreak past before input) := by
  cases hrunning : before.session.running with
  | false =>
    refine (ensures_loop_of_left input hrunning).mono ?_
    rintro _ after ⟨rfl, rfl⟩
    refine .inr ⟨input, [], [], .done _ _, .same _, .inl rfl, List.nil_prefix, ?_⟩
    intro _ h
    rw [hrunning] at h
    cases h
  | true => exact runs_loop_of_running input hcrash hfit hrunning

end Playing

end Shell

end SqlShell
