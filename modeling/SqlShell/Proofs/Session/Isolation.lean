import SqlShell.Proofs.Session.Commanding
import SqlShell.Proofs.Session.Interruption
import SqlShell.Proofs.Session.Showing
import SqlShell.Proofs.Session.Submission

/-! # Isolation of Statements

    In a session that nothing disturbs every statement is executed once, after the
    one before it has ended, and shows what it would show in a session of its own.

    * **`Unfolds.upTo`**: a session up to one of its chapters.
    * **`Unfolds.undisturbed`**: nothing disturbs any of its chapters.
    * **`Unfolds.isolated`**: what becomes of one statement of a session.
    * **`statements_isolated`** compares it with a session of its own. -/

namespace SqlShell

/-! ## Leaving a session -/

/-- **A request to leave** the session. -/
def Request.quits : Request → Bool
  | .ok (.command c) => Verb.ofName? c.name = some .quit
  | _ => false

/-- The statement that a request makes. -/
def Request.statement? : Request → Option Text
  | .ok (.statement s) => some s
  | _ => none

/-- A session is left by one command only. -/
theorem ShellCommand.running_perform {c : ShellCommand} {s after : Session} {answer : List Text}
    (hc : Verb.ofName? c.name ≠ some .quit) (h : c.perform s = .ok (after, answer)) :
    after.running = s.running := by
  obtain ⟨verb, hverb, hchanges⟩ := changes_perform h
  have hquit : verb ≠ .quit := by
    intro hquit
    rw [hquit] at hverb
    exact hc hverb
  rw [hchanges.running_eq, decide_eq_true hquit, Bool.and_true]

/-- The session goes on after any other request. -/
theorem Session.running_serve {s : Session} {request : Request} (h : request.quits = false) :
    (s.serve request).running = s.running := by
  unfold serve
  split
  case h_1 => rfl
  case h_2 c =>
    have hc : Verb.ofName? c.name ≠ some .quit := by simpa [Request.quits] using h
    split
    case h_1 after answer hperform => exact ShellCommand.running_perform hc hperform
    case h_2 => rfl
  case h_3 | h_4 => rfl

theorem Session.running_serves {s : Session} {requests : List Request}
    (h : ∀ request ∈ requests, request.quits = false) :
    (requests.foldl Session.serve s).running = s.running := by
  induction requests generalizing s with
  | nil => rfl
  | cons request rest ih =>
    obtain ⟨hrequest, hrest⟩ := List.forall_mem_cons.1 h
    rw [List.foldl_cons, ih hrest, Session.running_serve hrequest]

/-- **What a chapter prints** on an output. -/
def Chapter.printed (c : Chapter) (channel : Channel) : List Text := printedIn c.entries channel

namespace Shell

/-! ## Parts of a session -/

section Unfolding

variable {mayBreak : Prop} {past added : List Entry} {before after : Shell}
  {chapters earlier later : List Chapter} {c : Chapter} {ended : Except Exit Unit}

/-- **A session up to a chapter** is a session that has gone well so far. -/
theorem Unfolds.upTo (h : Unfolds mayBreak past before chapters added ended after)
    (hsplit : chapters = earlier ++ c :: later) :
    ∃ added', Unfolds mayBreak past before earlier added' (.ok ()) c.before := by
  induction h generalizing earlier with
  | done past shell => simp at hsplit
  | step h rest ih =>
    cases h with
    | passage h hpoised hstalled =>
      obtain ⟨added', hunfolds⟩ := ih hsplit
      exact ⟨_, .step (.passage h hpoised hstalled) hunfolds⟩
    | request hdeal h =>
      -- The chapter is the one of this stretch, or it is behind it.
      cases earlier with
      | nil =>
        obtain ⟨rfl, -⟩ := List.cons.inj hsplit
        exact ⟨[], .done _ _⟩
      | cons d earlier' =>
        obtain ⟨rfl, hsplit'⟩ := List.cons.inj hsplit
        obtain ⟨added', hunfolds⟩ := ih hsplit'
        exact ⟨_, .step (.request hdeal h) hunfolds⟩
  | stop h =>
    cases h with
    | passage => simp at hsplit
    | request hdeal h =>
      cases earlier with
      | nil =>
        obtain ⟨rfl, -⟩ := List.cons.inj hsplit
        exact ⟨[], .done _ _⟩
      | cons d earlier' => simp at hsplit

/-- An action that ends in one way has no other end. -/
theorem Ensures.of_self {α : Type} {action : ShellM α} {shell after : Shell} {ended : Except Exit α}
    {Q : Except Exit α → Shell → Prop}
    (h : Ensures action shell fun ended' after' => ended' = ended ∧ after' = after)
    (hQ : Ensures action shell Q) : Q ended after := by
  have hboth := h.and hQ
  unfold Ensures at hboth
  split at hboth <;> obtain ⟨⟨rfl, rfl⟩, hq⟩ := hboth <;> exact hq

/-- A request that is no statement leaves the surroundings as they are. -/
theorem keeps_surroundings_deal {request : Request} (h : ∀ s, request ≠ .ok (.statement s)) :
    Keeps Shell.surroundings (deal request) := by
  have hput (channel : Channel) (text : Text) : Keeps Shell.surroundings (put channel text) :=
    keeps_modifyGet fun _ => rfl
  have henter : Keeps Shell.surroundings (enterPhase .dispatching) :=
    keeps_enterPhase unaware_surroundings (fun _ _ => rfl) .dispatching
  have hcount : Keeps Shell.surroundings countError := fun _ => rfl
  match request with
  | .error e => exact hcount.bind fun _ => keeps_write (hput .err) _
  | .ok .empty => exact henter.bind fun _ => keeps_pure _
  | .ok (.statement s) => exact absurd rfl (h s)
  | .ok (.command c) =>
    refine henter.bind fun _ => keeps_get.bind fun shell => ?_
    split
    · exact hcount.bind fun _ => keeps_write (hput .err) _
    · exact Keeps.bind (fun _ => rfl) fun _ => keeps_writeAll (hput .out) _

/-- Outputs that do not fail allow no fault. -/
theorem not_allows_of_isFaultless {k : Console} (hk : k.IsFaultless) {e : Entry}
    (he : e.fault? ≠ none) : ¬ k.Allows e := by
  have hsink (channel : Channel) : (k.sink channel).IsFaultless := by
    cases channel
    · exact hk.out
    · exact hk.err
  intro hallowed
  cases e with
  | unwritten channel f =>
    obtain ⟨n, hn⟩ := hallowed
    rw [(hsink channel).write] at hn
    cases hn
  | unflushed channel f =>
    obtain ⟨n, hn⟩ := hallowed
    rw [(hsink channel).flush] at hn
    cases hn
  | _ => exact he rfl

/-- **A session whose outputs do not fail** does not end early. -/
theorem AmountsTo.returns (h : AmountsTo False [] before chapters added ended after)
    (hbefore : before.console.IsFaultless) : ended = .ok () := by
  have hnone (e : Entry) (he : e ∈ added) : ¬ e.isStruck = true := by
    intro hstruck
    refine not_allows_of_isFaultless hbefore ?_ (h.allowed e he)
    simp [e.fault?_of_isStruck hstruck]
  refine h.endured ?_ ⟨?_, ?_⟩
  · intro e hallowed
    exact .inl (not_not.1 fun hfault => not_allows_of_isFaultless hbefore hfault hallowed)
  · rw [List.countP_eq_zero.2 hnone]
    exact Nat.zero_le 1
  · rintro earlier e later rfl hstruck
    exact absurd hstruck (hnone e (by simp))

/-- The engine does not block over a statement that it is asked about. -/
theorem answerTo_unblocked {shell : Shell} (h : ¬ shell.engine.Blocks) (s : Text)
    (stream : ResultStream) (ha : shell.answerTo s = .accepted stream) :
    stream.ending ≠ .blocked :=
  fun hblocked => h ⟨_, s, stream, ha, hblocked⟩

/-- **Nothing disturbs a session** from one request to the next. -/
theorem Unfolds.undisturbed (h : Unfolds mayBreak past before chapters added ended after)
    (hbefore : before.Undisturbed) (hopen : ¬ before.engine.Blocks) : after.Undisturbed := by
  have hstretch {past added : List Entry} {before after : Shell} {chapters : List Chapter}
      {ended : Except Exit Unit} (h : Stretch mayBreak past before chapters added ended after)
      (hbefore : before.Undisturbed) (hopen : ¬ before.engine.Blocks) : after.Undisturbed := by
    have hnature : after.console.nature = before.console.nature :=
      congrArg Lasting.nature h.amountsTo.lasting
    refine ⟨(Console.isFaultless_congr hnature).2 hbefore.console, ?_⟩
    cases h with
    | passage h => exact h.surroundings ▸ hbefore.surroundings
    | @request request _ _ _ hdeal h =>
      -- Only a statement makes a difference to the surroundings.
      by_cases hs : ∃ s, request = .ok (.statement s)
      · obtain ⟨s, rfl⟩ := hs
        have hshows := shows_statement s hbefore (answerTo_unblocked hopen s)
        exact (Ensures.of_self hdeal hshows).2.1.surroundings
      · have hkeeps := keeps_surroundings_deal (by simpa using hs) before
        exact (Ensures.of_self hdeal hkeeps) ▸ hbefore.surroundings
  induction h with
  | done => exact hbefore
  | step h rest ih =>
    have hengine := congrArg Lasting.engine h.amountsTo.lasting
    exact ih (hstretch h hbefore hopen) fun hb => hopen ((congrArg Engine.Blocks hengine).mp hb)
  | stop h => exact hstretch h hbefore hopen

/-- **What a session prints** that does not prompt is what its chapters print. -/
theorem Unfolds.printed (h : Unfolds mayBreak past before chapters added ended after)
    (hquiet : before.interactive = false ∧ before.writesPrompts = false) (channel : Channel) :
    printedIn added channel = chapters.flatMap fun c => c.printed channel := by
  have hstretch {past added : List Entry} {before after : Shell} {chapters : List Chapter}
      {ended : Except Exit Unit} (h : Stretch mayBreak past before chapters added ended after)
      (hquiet : before.interactive = false ∧ before.writesPrompts = false) :
      printedIn added channel = chapters.flatMap fun c => c.printed channel := by
    cases h with
    | passage h =>
      refine printedIn_of_silent (fun e he => ?_) channel
      by_contra houtput
      have hprompts := h.prompts ⟨e, he, by simpa using houtput⟩
      simp [hquiet] at hprompts
    | request hdeal h => simp [Chapter.printed, Chapter.entries, h.entries]
  induction h with
  | done => rfl
  | step h rest ih =>
    have hlasting := h.amountsTo.lasting
    have hinteractive := congrArg Lasting.interactive hlasting
    have hwrites := congrArg Lasting.writesPrompts hlasting
    rw [printedIn, List.filterMap_append, List.flatMap_append]
    exact congrArg₂ _ (hstretch h hquiet)
      (ih ⟨hinteractive.trans hquiet.1, hwrites.trans hquiet.2⟩)
  | stop h => exact hstretch h hquiet

/-- So it is if nothing is printed at the end either. -/
theorem Unfolds.printed_run {closing : List Entry} {last : Shell}
    (h : Unfolds mayBreak past before chapters added ended last)
    (hquiet : before.interactive = false ∧ before.writesPrompts = false)
    (hentries : after.console.entries = before.console.entries ++ (added ++ closing))
    (hclosing : AreQuiet closing) (channel : Channel) :
    after.console.printed channel
      = before.console.printed channel ++ chapters.flatMap fun c => c.printed channel := by
  rw [Console.printed_of_entries hentries, ← h.printed hquiet, printedIn, List.filterMap_append]
  congr 1
  have hnone := printedIn_of_silent (fun e he => (hclosing e he).1) channel
  rw [printedIn] at hnone
  rw [hnone, List.append_nil, printedIn]

end Unfolding

end Shell

/-! ## One statement of a session -/

/-- **A chapter executes a statement**: the statement is recorded and offered to the
    engine, and if the engine takes it, its execution has ended, with the worker
    returned and the stream closed if that is possible. -/
def Chapter.Executes (c : Chapter) (s : Text) : Prop :=
  c.after.source.IsOver (c.before.answerTo s) ∧
    (c.miles = [.recorded s, .offered s] ∧
        (∀ stream, c.before.answerTo s ≠ .accepted stream) ∨
      ∃ stream report, c.before.answerTo s = .accepted stream ∧ report.statement = s ∧
        report.closed = stream.closable ∧
        c.miles = [.recorded s, .offered s, .submitted s, .executed report])

namespace Shell

section Statement

variable {mayBreak : Prop} {past added : List Entry} {before after shell : Shell}
  {chapters earlier later : List Chapter} {c : Chapter} {ended : Except Exit Unit} {s : Text}

/-- **A statement is executed in its chapter**, and it shows what is to be shown of it. -/
theorem Dealt.executes (h : Dealt past c.before c.request added c.ended c.after)
    (hdeal : Ensures (deal c.request) c.before fun ended after =>
      ended = c.ended ∧ after = c.after)
    (hrequest : c.request = .ok (.statement s)) (hbefore : c.before.Undisturbed)
    (hopen : ¬ c.before.engine.Blocks) :
    c.Executes s ∧ ∃ elapsed, ∀ channel, c.printed channel = (c.before.answerTo s).shown
      c.before.session.settings c.before.session.format elapsed channel := by
  have hentries : c.entries = added := by simp [Chapter.entries, h.entries]
  rw [hrequest] at hdeal
  obtain ⟨hended, -, elapsed, hprinted⟩ :=
    Ensures.of_self hdeal (shows_statement s hbefore (answerTo_unblocked hopen s))
  have hanswer : c.after.answer s = c.before.answerTo s := by
    have hengine : c.after.engine = c.before.engine := congrArg Lasting.engine h.lasting
    rw [answer, answerTo, h.session, hrequest, hengine]
    rfl
  have hoffered : .offered s ∈ c.entries := by
    obtain ⟨texts, -, hledger, hsubmits⟩ :=
      Ensures.of_self hdeal (submits_statement s hbefore.console)
    obtain ⟨-, rfl⟩ := hsubmits.resolve_right fun hstalled => by simp [hended] at hstalled
    have hoffers : c.after.console.offers = c.before.console.offers ++ [s] :=
      congrArg Ledger.offers hledger
    rw [Console.offers_of_entries h.entries, List.append_cancel_left_eq] at hoffers
    have hmem : s ∈ added.filterMap Entry.offered? := by simp [hoffers]
    obtain ⟨e, he, hs⟩ := List.mem_filterMap.1 hmem
    cases e with
    | offered text =>
      obtain rfl : text = s := Option.some.inj hs
      exact hentries ▸ he
    | _ => cases hs
  have horderly := h.isOrderly
  unfold Chapter.IsOrderly at horderly
  rw [hrequest] at horderly
  dsimp only at horderly
  rw [hanswer] at horderly
  refine ⟨⟨horderly.1, horderly.2.resolve_left fun hmiles => ?_⟩, elapsed, fun channel => ?_⟩
  · have hmile : .offered s ∈ c.miles := List.mem_filter.2 ⟨hoffered, rfl⟩
    simp [hmiles] at hmile
  · have hadded := Console.printed_of_entries h.entries channel
    rw [hprinted channel, List.append_cancel_left_eq] at hadded
    rw [Chapter.printed, hentries, hadded]

/-- **What becomes of one statement of a session**: it is executed in its chapter,
    and what is shown depends on the answer of the engine, and on the format and the
    settings that the requests before it have left. -/
theorem Unfolds.isolated (h : Unfolds mayBreak [] shell chapters added ended after)
    (hshell : shell.Undisturbed) (hopen : ¬ shell.engine.Blocks)
    (hsplit : chapters = earlier ++ c :: later) (hrequest : c.request = .ok (.statement s)) :
    c.before.session = (earlier.map Chapter.request).foldl Session.serve shell.session ∧
      c.before.engine = shell.engine ∧ c.Executes s ∧
      ∃ elapsed, ∀ channel, c.printed channel = (c.before.answerTo s).shown
        c.before.session.settings c.before.session.format elapsed channel := by
  obtain ⟨added', hupTo⟩ := h.upTo hsplit
  have hamounts := hupTo.amountsTo
  have hengine : c.before.engine = shell.engine := congrArg Lasting.engine hamounts.lasting
  obtain ⟨⟨past, added, hdealt⟩, hdeal⟩ := h.amountsTo.chapters c (by simp [hsplit])
  exact ⟨hamounts.session, hengine, hdealt.executes hdeal hrequest
    (hupTo.undisturbed hshell hopen) (hengine ▸ hopen)⟩

/-- **A session that nothing disturbs** deals with all requests of its input. -/
theorem unfolds_run (failOnError : Bool) {input : List InputLine} (hshell : shell.Undisturbed)
    (hopen : ¬ shell.engine.Blocks) (hrunning : shell.session.running = true)
    (hlines : ∀ item ∈ input, ∃ line, item = .line line)
    (hstays : ∀ request ∈ requestsFrom shell.buffer input, request.quits = false) :
    Ensures (run failOnError input) shell fun _ after => ∃ chapters added closing last,
      Unfolds False [] shell chapters added (.ok ()) last ∧
      chapters.map Chapter.request = requestsFrom shell.buffer input ∧
      after.console.entries = shell.console.entries ++ (added ++ closing) ∧ AreQuiet closing := by
  have hcrash (c : Crash) : .crash c ∉ input := by
    intro hc
    obtain ⟨line, hline⟩ := hlines _ hc
    cases hline
  have hfit : Fit False [] shell :=
    fit_nil hshell.console.givesNotices hshell.surroundings.limitFault fun _ _ _ =>
      not_allows_of_isFaultless hshell.console nofun
  refine (told_run failOnError (fun c hc => absurd hc (hcrash c)) hfit).mono ?_
  rintro ended after (⟨⟨statement, hheld⟩, -⟩ | ⟨c, htells⟩)
  · exact absurd hheld.engine_blocks hopen
  have hamounts := htells.unfolds.amountsTo
  have hsame : c.input = input := by
    refine htells.same.resolve_right ?_
    rintro ⟨-, e, he, hstruck⟩
    refine not_allows_of_isFaultless hshell.console ?_ (hamounts.allowed e he)
    simp [e.fault?_of_isStruck hstruck]
  have hstopped := hamounts.returns hshell.console
  have hserves := htells.serves
  have hunfolds := htells.unfolds
  rw [hstopped] at hserves hunfolds
  rw [hsame] at hserves
  have hlast : c.last.session.running = true := by
    rw [hamounts.session, Session.running_serves, hrunning]
    exact fun request hmem => hstays request (hserves.1.subset hmem)
  exact ⟨c.chapters, c.entries, c.closing, c.last, hunfolds, hserves.2 rfl hlast,
    htells.transcript, htells.quiet⟩

/-! ## The same statement alone -/

/-- **A fresh session on the terms of another** for a statement: nothing disturbs it,
    it has the same format and the same settings, and for it the engine answers the
    statement in the same way.  It does not prompt. -/
structure IsFreshFor (fresh shell : Shell) (s : Text) : Prop where
  undisturbed : fresh.Undisturbed
  unblocked : ¬ fresh.engine.Blocks
  running : fresh.session.running = true
  buffer : fresh.buffer = .empty
  unprompted : fresh.interactive = false ∧ fresh.writesPrompts = false
  format : fresh.session.format = shell.session.format
  settings : fresh.session.settings = shell.session.settings
  answer : fresh.answerTo s = shell.answerTo s

/-- **What a session prints that consists of one statement.** -/
theorem shows_alone (failOnError : Bool) {alone : List InputLine} {fresh : Shell}
    (hfresh : fresh.IsFreshFor shell s) (hlines : ∀ item ∈ alone, ∃ line, item = .line line)
    (halone : requestsFrom .empty alone = [.ok (.statement s)]) :
    Ensures (run failOnError alone) fresh fun _ last => ∃ elapsed, ∀ channel,
      last.console.printed channel = fresh.console.printed channel ++
        (shell.answerTo s).shown shell.session.settings shell.session.format elapsed channel := by
  have hrequests : requestsFrom fresh.buffer alone = [.ok (.statement s)] := by
    rw [hfresh.buffer, halone]
  refine (unfolds_run failOnError hfresh.undisturbed hfresh.unblocked hfresh.running hlines
    (by simp [hrequests, Request.quits])).mono ?_
  rintro _ after ⟨chapters, added, closing, last, hunfolds, hserved, hentries, hquiet⟩
  obtain ⟨c, rfl, hrequest⟩ : ∃ c, chapters = [c] ∧ c.request = .ok (.statement s) := by
    rw [hrequests] at hserved
    exact List.map_eq_singleton_iff.1 hserved
  obtain ⟨hsession, hengine, -, elapsed, hprinted⟩ :=
    hunfolds.isolated hfresh.undisturbed hfresh.unblocked (List.nil_append [c]).symm hrequest
  have hsame : c.before.session = fresh.session := hsession
  have hanswer : c.before.answerTo s = shell.answerTo s := by
    rw [answerTo, hengine, hsame]
    exact hfresh.answer
  refine ⟨elapsed, fun channel => ?_⟩
  rw [hunfolds.printed_run hfresh.unprompted hentries hquiet, List.flatMap_singleton, hprinted,
    hanswer, hsame, hfresh.format, hfresh.settings]

/-- What a chapter offers to the engine is the statement of its request. -/
theorem offers_of_isOrderly (horderly : c.IsOrderly)
    (hexecutes : ∀ s, c.request = .ok (.statement s) → c.Executes s) :
    c.miles.filterMap Entry.offered? = c.request.statement?.toList := by
  unfold Chapter.IsOrderly at horderly
  split at horderly
  case h_1 s hrequest =>
    rw [hrequest]
    rcases (hexecutes s hrequest).2 with ⟨hs, -⟩ | ⟨stream, report, -, -, -, hs⟩ <;> rw [hs] <;> rfl
  case h_2 hother =>
    have hnone : c.request.statement? = none := by
      unfold Request.statement?
      split
      case h_1 s hs => exact absurd hs (hother s)
      case h_2 => rfl
    rw [horderly, hnone]
    rfl

/-- So a session offers the statements of its requests, in their order. -/
theorem offers_of_miles (hmiles : added.filter Entry.isMilestone = chapters.flatMap Chapter.miles)
    (horderly : ∀ c ∈ chapters, c.IsOrderly)
    (hexecutes : ∀ c ∈ chapters, ∀ s, c.request = .ok (.statement s) → c.Executes s) :
    added.filterMap Entry.offered?
      = (chapters.map Chapter.request).filterMap Request.statement? := by
  have hall : added.filterMap Entry.offered?
      = (added.filter Entry.isMilestone).filterMap Entry.offered? := by
    rw [List.filterMap_filter]
    refine List.filterMap_congr fun e _ => ?_
    cases e <;> rfl
  rw [hall, hmiles, List.filterMap_flatMap, List.filterMap_map, List.filterMap_eq_flatMap_toList]
  exact List.flatMap_congr fun c hc => offers_of_isOrderly (horderly c hc) (hexecutes c hc)

end Statement

end Shell

/-- **A chapter shows what its statement shows alone**, up to the time: it prints what
    any fresh session prints, with the format and the settings that are in force in
    the chapter, whose input is that statement. -/
def Chapter.ShowsAsAlone (c : Chapter) (s : Text) : Prop :=
  ∀ (fresh : Shell) (failOnError : Bool) (alone : List InputLine), fresh.IsFreshFor c.before s →
    (∀ item ∈ alone, ∃ line, item = .line line) →
    requestsFrom .empty alone = [.ok (.statement s)] →
    Shell.Ensures (Shell.run failOnError alone) fresh fun _ last => ∀ channel, ∃ texts,
      last.console.printed channel = fresh.console.printed channel ++ texts ∧
      List.Forall₂ SameUpToTime (c.printed channel) texts

namespace Shell

/-- **Statements are isolated from each other**, in every session whose input is
    lines of statements and of commands that do not leave it, however the engine
    answers, as long as it does not block for ever and nothing disturbs the session.

    The statements are offered to the engine once and in order, each of them in a
    chapter of its own, at whose end its execution is over.  A chapter prints what the
    statement would print alone with the format and the settings that the requests
    before it have left, and without prompts nothing else is printed. -/
theorem statements_isolated (failOnError : Bool) (input : List InputLine) (shell : Shell)
    (hshell : shell.Undisturbed) (hopen : ¬ shell.engine.Blocks)
    (hrunning : shell.session.running = true) (hbuffer : shell.buffer = .empty)
    (hlines : ∀ item ∈ input, ∃ line, item = .line line)
    (hstays : ∀ request ∈ requestsFrom .empty input, request.quits = false) :
    Ensures (run failOnError input) shell fun _ after => ∃ chapters added closing last,
      Unfolds False [] shell chapters added (.ok ()) last ∧
      chapters.map Chapter.request = requestsFrom .empty input ∧
      after.console.entries = shell.console.entries ++ (added ++ closing) ∧
      added.filter Entry.isMilestone = chapters.flatMap Chapter.miles ∧ AreQuiet closing ∧
      after.console.offers = shell.console.offers
        ++ (requestsFrom .empty input).filterMap Request.statement? ∧
      (shell.interactive = false ∧ shell.writesPrompts = false → ∀ channel,
        after.console.printed channel
          = shell.console.printed channel ++ chapters.flatMap fun c => c.printed channel) ∧
      ∀ earlier c later s, chapters = earlier ++ c :: later → c.request = .ok (.statement s) →
        c.before.session = (earlier.map Chapter.request).foldl Session.serve shell.session ∧
        c.before.engine = shell.engine ∧ c.Executes s ∧ c.ShowsAsAlone s := by
  rw [← hbuffer] at hstays ⊢
  refine (unfolds_run failOnError hshell hopen hrunning hlines hstays).mono ?_
  rintro _ after ⟨chapters, added, closing, last, hunfolds, hserved, hentries, hquiet⟩
  have hamounts := hunfolds.amountsTo
  have hmiles : added.filter Entry.isMilestone = chapters.flatMap Chapter.miles := hamounts.miles
  have horderly (c : Chapter) (hc : c ∈ chapters) : c.IsOrderly := by
    obtain ⟨⟨past, added, hdealt⟩, -⟩ := hamounts.chapters c hc
    exact hdealt.isOrderly
  have hexecutes (c : Chapter) (hc : c ∈ chapters) (s : Text)
      (hrequest : c.request = .ok (.statement s)) : c.Executes s := by
    obtain ⟨earlier, later, hsplit⟩ := List.append_of_mem hc
    exact (hunfolds.isolated hshell hopen hsplit hrequest).2.2.1
  have hoffers : after.console.offers = shell.console.offers
      ++ (requestsFrom shell.buffer input).filterMap Request.statement? := by
    have hnone : closing.filterMap Entry.offered? = [] :=
      List.filterMap_eq_nil_iff.2 fun e he => (hquiet e he).2
    rw [Console.offers_of_entries hentries, List.filterMap_append, hnone, List.append_nil,
      offers_of_miles hmiles horderly hexecutes, hserved]
  refine ⟨chapters, added, closing, last, hunfolds, hserved, hentries, hmiles, hquiet, hoffers,
    fun hunprompted => hunfolds.printed_run hunprompted hentries hquiet, ?_⟩
  intro earlier c later s hsplit hrequest
  obtain ⟨hsession, hengine, hexecuted, elapsed, hprinted⟩ :=
    hunfolds.isolated hshell hopen hsplit hrequest
  refine ⟨hsession, hengine, hexecuted, ?_⟩
  intro fresh failOnError alone hfresh hlines halone
  refine (shows_alone failOnError hfresh hlines halone).mono ?_
  rintro _ last ⟨elapsed', halone⟩ channel
  refine ⟨_, halone channel, ?_⟩
  rw [hprinted]
  exact Submission.sameUpToTime_shown _ _ _ elapsed elapsed' channel

/-- A shell whose engine refuses one statement and answers any other with a row. -/
@[irreducible] def refusingOneShell : Shell where
  engine :=
    { submit := fun _ statement =>
        if statement = "bad".toList then .refused { message := "no".toList }
        else .accepted
          { batches := [⟨[⟨"x".toList, "INTEGER".toList⟩], [[.int 1]]⟩], ending := .complete } }
  surroundings := { reading := fun _ => Binary64.zero }

theorem not_blocks_refusingOneShell : ¬ refusingOneShell.engine.Blocks := by
  unfold refusingOneShell
  rintro ⟨history, statement, stream, h, hblocked⟩
  dsimp only at h
  split at h
  · cases h
  · cases h
    cases hblocked

theorem undisturbed_refusingOneShell : refusingOneShell.Undisturbed := by
  unfold refusingOneShell
  exact ⟨⟨⟨fun _ => rfl, fun _ => rfl⟩, ⟨fun _ => rfl, fun _ => rfl⟩⟩,
    ⟨List.not_mem_nil, fun _ _ => List.not_mem_nil, rfl, rfl⟩⟩

/-- A statement that is refused, a change of the format, and a statement. -/
@[irreducible] def mixedInput : List InputLine :=
  [.line "bad;".toList, .line "format csv".toList, .line "select 1;".toList]

theorem requestsFrom_mixedInput : requestsFrom .empty mixedInput
    = [.ok (.statement "bad".toList), .ok (.command ⟨"format".toList, "csv".toList⟩),
      .ok (.statement "select 1".toList)] := by
  unfold mixedInput
  decide +kernel

/-- A statement behind one that is refused shows what it shows alone as CSV. -/
theorem statements_isolated_after_refusal :
    refusingOneShell.Undisturbed ∧ ¬ refusingOneShell.engine.Blocks ∧
    refusingOneShell.session.running = true ∧ refusingOneShell.buffer = .empty ∧
    (∀ item ∈ mixedInput, ∃ line, item = .line line) ∧
    (∀ request ∈ requestsFrom .empty mixedInput, request.quits = false) ∧
    Ensures (run true mixedInput) refusingOneShell fun _ after =>
      after.console.offers = refusingOneShell.console.offers ++ ["bad".toList, "select 1".toList] ∧
      ∃ c : Chapter, c.Executes "select 1".toList ∧
        Ensures (run false [.line "select 1;".toList])
          { refusingOneShell with session := { format := .csv } } fun _ last =>
          ∀ channel, ∃ texts, last.console.printed channel
              = refusingOneShell.console.printed channel ++ texts ∧
            List.Forall₂ SameUpToTime (c.printed channel) texts := by
  have hrunning : refusingOneShell.session.running = true := by
    unfold refusingOneShell
    rfl
  have hbuffer : refusingOneShell.buffer = .empty := by
    unfold refusingOneShell
    rfl
  have hlines : ∀ item ∈ mixedInput, ∃ line, item = .line line := by
    unfold mixedInput
    simp
  have hstays : ∀ request ∈ requestsFrom .empty mixedInput, request.quits = false := by
    rw [requestsFrom_mixedInput]
    decide
  refine ⟨undisturbed_refusingOneShell, not_blocks_refusingOneShell, hrunning, hbuffer, hlines,
    hstays, ?_⟩
  refine (statements_isolated true mixedInput refusingOneShell undisturbed_refusingOneShell
    not_blocks_refusingOneShell hrunning hbuffer hlines hstays).mono ?_
  rintro _ after ⟨chapters, added, closing, last, -, hserved, -, -, -, hoffers, -, hstatements⟩
  rw [requestsFrom_mixedInput] at hserved hoffers
  obtain ⟨first, _, rfl, hfirst, hserved⟩ := List.map_eq_cons_iff.1 hserved
  obtain ⟨second, _, rfl, hsecond, hserved⟩ := List.map_eq_cons_iff.1 hserved
  obtain ⟨c, _, rfl, hrequest, hserved⟩ := List.map_eq_cons_iff.1 hserved
  obtain ⟨hsession, hengine, hexecutes, halone⟩ := hstatements [first, second] c _ _ rfl hrequest
  have hterms : c.before.session.format = .csv ∧ c.before.session.settings = {} := by
    rw [hsession, List.map_cons, List.map_cons, hfirst, hsecond]
    unfold refusingOneShell
    decide +kernel
  have hanswer : answerTo { refusingOneShell with session := { format := .csv } }
      "select 1".toList = c.before.answerTo "select 1".toList := by
    rw [answerTo, answerTo, hengine]
    unfold refusingOneShell
    rfl
  refine ⟨hoffers, c, hexecutes, halone _ false _ ⟨?_, not_blocks_refusingOneShell, rfl, hbuffer,
    ?_, hterms.1.symm, hterms.2.symm, hanswer⟩ (by simp) (by decide +kernel)⟩
  · exact ⟨undisturbed_refusingOneShell.console, undisturbed_refusingOneShell.surroundings⟩
  · unfold refusingOneShell
    exact ⟨rfl, rfl⟩

end Shell

end SqlShell
