import SqlShell.Proofs.Output.Sheet
import SqlShell.Proofs.Session.Following
import SqlShell.Session.Presentation

/-! # Presenting a Statement

    There is **no partial success**: a success that is reported has presented
    the whole result, and a request for a cancellation is never too late for
    the outcome.

    * **`HasPrinted`** tells what an action adds to the standard output.
    * **`Presents`** is the invariant of a presentation: what has been printed is
      what the writer makes of the first batches, and unless the statement has
      been cancelled these are all the batches that have come. -/

namespace SqlShell

/-- A flag that is raised is there. -/
theorem EventSource.flag?_of_isRaised {source : EventSource} (h : source.isRaised = true) :
    ∃ c, source.flag? = some c := by
  cases hc : source.flag? with
  | none => simp [EventSource.isRaised, hc] at h
  | some c => exact ⟨c, rfl⟩

namespace Shell

open Running (Told)

/-! ## Writing -/

/-- **The shell has printed these texts** since it was like `before`, and the
    session is the same. -/
def HasPrinted (before : Shell) (texts : List Text) (shell : Shell) : Prop :=
  shell.session = before.session ∧
    ∀ c, shell.console.printed c = before.console.printed c ++ if c = .out then texts else []

section Writing

variable {shell before after : Shell} {texts texts' : List Text}

theorem hasPrinted_nil (h : after.face = shell.face) : HasPrinted shell [] after := by
  obtain ⟨hp, hs⟩ := Prod.mk.inj h
  exact ⟨hs, fun c => by simp [hp]⟩

theorem HasPrinted.trans (h : HasPrinted before texts shell) (h' : HasPrinted shell texts' after) :
    HasPrinted before (texts ++ texts') after := by
  refine ⟨h'.1.trans h.1, ?_⟩
  intro c
  rw [h'.2, h.2]
  by_cases hc : c = .out <;> simp [hc]

/-- What has not changed since is still to be seen. -/
theorem HasPrinted.of_face (h : HasPrinted before texts shell) (hf : after.face = shell.face) :
    HasPrinted before texts after := by
  simpa using h.trans (hasPrinted_nil hf)

/-- **A write that is not disturbed** prints all its texts, and any write a
    beginning of them. -/
theorem ensures_writeSteps {σ : Type} (final : σ) (crash : Option Crash)
    (steps : List (σ × Text)) :
    Ensures (writeSteps final crash steps) shell fun ended after => ∃ s lapse texts,
      ended = .ok (s, lapse) ∧ after.source = shell.source ∧ HasPrinted shell texts after ∧
      texts <+: steps.map Prod.snd ∧
      (lapse = none → texts = steps.map Prod.snd ∧ s = final ∧ crash = none) := by
  induction steps generalizing shell with
  | nil =>
    refine ⟨final, crash.map .crash, [], rfl, rfl, hasPrinted_nil rfl, List.prefix_rfl, ?_⟩
    intro h
    exact ⟨rfl, rfl, by simpa using h⟩
  | cons step rest ih =>
    -- One text is written, or it is where the write ends; the rest follows by induction.
    obtain ⟨s, text⟩ := step
    rw [writeSteps, ensures_bind]
    refine (ensures_put .out text shell).mono ?_
    intro ended after hput
    obtain ⟨fault, rfl, hsource, hsession, hprinted⟩ := hput
    cases fault with
    | some f =>
      have hp : HasPrinted shell [] after := by
        refine ⟨hsession, ?_⟩
        intro c
        simpa using hprinted c
      exact ⟨s, some (.sink f), [], rfl, hsource, hp, List.nil_prefix, nofun⟩
    | none =>
      have hp : HasPrinted shell [text] after := by
        refine ⟨hsession, ?_⟩
        intro c
        rw [hprinted]
        simp [eq_comm]
      refine ih.mono ?_
      intro ended last hlast
      obtain ⟨s, lapse, texts, rfl, hsource', hp', hpre, hall⟩ := hlast
      refine ⟨s, lapse, text :: texts, rfl, hsource'.trans hsource, hp.trans hp', ?_, ?_⟩
      · exact List.cons_prefix_cons.2 ⟨rfl, hpre⟩
      · intro h
        obtain ⟨rfl, hs, hc⟩ := hall h
        exact ⟨rfl, hs, hc⟩

theorem ensures_produce {σ : Type} (p : Production σ) :
    Ensures (produce p) shell fun ended after => ∃ s lapse texts,
      ended = .ok (s, lapse) ∧ after.source = shell.source ∧ HasPrinted shell texts after ∧
      texts <+: p.texts ∧ (lapse = none → p.Gives texts s) := by
  refine (ensures_writeSteps p.last p.crash p.steps).mono ?_
  intro ended after h
  obtain ⟨s, lapse, texts, hended, hsource, hp, hpre, hall⟩ := h
  refine ⟨s, lapse, texts, hended, hsource, hp, hpre, ?_⟩
  intro hl
  obtain ⟨rfl, rfl, hc⟩ := hall hl
  exact Production.gives hc

/-- A production that is done to its end is printed as a whole. -/
theorem returns_produceAll {σ : Type} (p : Production σ) :
    Returns (produceAll p) shell fun _ after =>
      after.source = shell.source ∧ ∃ texts s, p.Gives texts s ∧ HasPrinted shell texts after := by
  refine (ensures_produce p).bind_returns ?_
  rintro _ after ⟨s, lapse, texts, ⟨⟩, hsource, hp, -, hall⟩
  cases lapse with
  | none => exact returns_pure ⟨hsource, texts, s, hall rfl, hp⟩
  | some lapse => exact returns_throw _

end Writing

/-! ## Interruptions -/

section Interruptions

variable {shell : Shell} {stream : ResultStream} {yielded : List Batch}

theorem Follows.isBegun (h : Follows stream yielded shell) (hy : yielded ≠ []) :
    shell.IsBegun := by
  cases h with
  | fresh statement c hs hsubmit h => exact absurd h hy
  | running r hs h => exact .inl ⟨r, hs⟩
  | ended c hs hf => exact .inr ⟨c, hs⟩

/-- What is said of a statement that has been begun depends on nothing else. -/
theorem Follows.of_source {after : Shell} (h : Follows stream yielded shell)
    (hy : yielded ≠ []) (hs : after.source = shell.source) : Follows stream yielded after := by
  cases h with
  | fresh statement c _ _ h => exact absurd h hy
  | running r hr h => exact .running r (hs.trans hr) h
  | ended c hc hf => exact .ended c (hs.trans hc) hf

theorem Follows.flag? (h : Follows stream yielded shell) : ∃ c, shell.source.flag? = some c := by
  cases h with
  | fresh statement c hs | running r hs | ended c hs => exact ⟨_, congrArg EventSource.flag? hs⟩

/-- **An interruption raises the flag** of a statement that has been begun. -/
theorem ensures_interrupted (h : shell.IsBegun) :
    Ensures interrupted shell fun ended after => ended = .ok () ∧ after.face = shell.face ∧
      after.source.isRaised = true ∧ ∀ stream yielded, Follows stream yielded after := by
  rw [interrupted, ensures_bind, ensures_get]
  rcases h with ⟨r, hr⟩ | ⟨c, hc⟩
  · have hf : shell.source.flag? = some r.flag := congrArg EventSource.flag? hr
    have hs : shell.source.raise interruptReason
        = .execution (.running (r.raise interruptReason)) := by rw [hr]; rfl
    have hraised : (r.raise interruptReason).flag.isRaised = true :=
      Cancellation.isRaised_raise interruptReason r.flag
    simp only [hf, raise]
    rw [ensures_modify]
    exact ⟨rfl, rfl, (congrArg EventSource.isRaised hs).trans hraised,
      fun stream yielded => .running _ hs (Running.has_of_isRaised hraised)⟩
  · have hf : shell.source.flag? = some c := congrArg EventSource.flag? hc
    have hs : shell.source.raise interruptReason
        = .execution (.ended (c.raise interruptReason)) := by rw [hc]; rfl
    have hraised := Cancellation.isRaised_raise interruptReason c
    simp only [hf, raise]
    rw [ensures_modify]
    exact ⟨rfl, rfl, (congrArg EventSource.isRaised hs).trans hraised,
      fun stream yielded => .ended _ hs hraised⟩

/-- What the other parties do while the shell is busy brings nothing. -/
theorem ensures_interlude (h : Follows stream yielded shell) :
    Ensures interlude shell fun ended after =>
      ended = .ok () ∧ after.face = shell.face ∧ Follows stream yielded after := by
  rw [interlude, ensures_modify]
  refine ⟨rfl, ?_, ?_⟩
  · dsimp only
    split <;> rfl
  · cases h with
    | fresh statement c hs hsubmit hy =>
      simp only [hs]
      exact .fresh statement c hs hsubmit hy
    | running r hs h =>
      simp only [hs]
      exact .running _ rfl (h.interludes _)
    | ended c hs hf =>
      simp only [hs]
      exact .ended c hs hf

end Interruptions

/-! ## Taking the events -/

/-- **The presentation so far**: what has been printed is a beginning of what the
    writer `new` makes of the stream; unless the statement has been cancelled it
    is all that comes of the batches that the shell has got. -/
def Presents (stream : ResultStream) (new : Writer) (before : Shell) (w : Writer)
    (shell : Shell) : Prop :=
  ∃ yielded kept, Follows stream yielded shell ∧ HasPrinted before kept shell ∧
    kept <+: (new.takeAll stream.batches).texts ∧
    (shell.source.isRaised = false → (new.takeAll yielded).Gives kept w)

/-- **The end of a presentation**: any outcome that has come is told truly. -/
def Presented (stream : ResultStream) (new : Writer) (before : Shell) (w : Writer)
    (came : Option (Outcome Binary64)) (shell : Shell) : Prop :=
  ∃ c kept, shell.source.flag? = some c ∧ HasPrinted before kept shell ∧
    kept <+: (new.takeAll stream.batches).texts ∧
    ∀ outcome ∈ came, ∃ yielded, Told stream yielded outcome c ∧
      (c.isRaised = false → (new.takeAll yielded).Gives kept w)

section Taking

variable {shell before after : Shell} {stream : ResultStream} {new w : Writer}

theorem Presents.of_isRaised {yielded : List Batch} {kept : List Text}
    (h : Follows stream yielded shell) (hp : HasPrinted before kept shell)
    (hpre : kept <+: (new.takeAll stream.batches).texts) (hf : shell.source.isRaised = true) :
    Presents stream new before w shell :=
  ⟨yielded, kept, h, hp, hpre, fun h => absurd h (by simp [hf])⟩

/-- **After an interruption** nothing is expected of the events but the end. -/
theorem ensures_interrupted_presents {kept : List Text} (h : shell.IsBegun)
    (hp : HasPrinted before kept shell) (hpre : kept <+: (new.takeAll stream.batches).texts) :
    Ensures interrupted shell fun _ after => ∀ w, Presents stream new before w after := by
  refine (ensures_interrupted h).mono ?_
  rintro ended after ⟨-, hface, hraised, hfollows⟩
  intro w
  exact .of_isRaised (hfollows stream []) (hp.of_face hface) hpre hraised

/-- Events may stop without an outcome. -/
theorem Presents.presented_none (h : Presents stream new before w shell) :
    Presented stream new before w none shell := by
  obtain ⟨yielded, kept, hfollows, hp, hpre, -⟩ := h
  obtain ⟨c, hc⟩ := hfollows.flag?
  exact ⟨c, kept, hc, hp, hpre, nofun⟩

/-- **A presentation that ends** has told the truth up to then. -/
theorem returns_takeEvents (fuel : Nat) (h : Presents stream new before w shell) :
    Returns (takeEvents fuel w) shell fun taken after =>
      Presented stream new before taken.1 taken.2 after := by
  induction fuel generalizing shell w with
  | zero => exact returns_pure h.presented_none
  | succ fuel ih =>
    -- The reply is true, and nothing is printed on the way to it.
    obtain ⟨yielded, kept, hfollows, hp, hpre, hgives⟩ := h
    refine ((ensures_nextEvent hfollows).and (keeps_nextEvent shell)).bind_returns ?_
    rintro reply next ⟨hnext, hface⟩
    have hp' := hp.of_face hface
    cases reply with
    | stalled | crashed c => exact returns_throw _
    | exhausted =>
      obtain ⟨c, hc⟩ := EventSource.flag?_of_isRaised hnext
      exact returns_pure ⟨c, kept, hc, hp', hpre, nofun⟩
    | interrupted =>
      refine (ensures_interrupted_presents hnext hp' hpre).bind_returns ?_
      intro _ later hlater
      exact ih (hlater w)
    | event e =>
      cases e with
      | completed outcome =>
        obtain ⟨c, hc, hlow, htold⟩ := hnext
        refine returns_pure ⟨c, kept, hc, hp', hpre, ?_⟩
        rintro _ ⟨⟩
        exact ⟨yielded, htold, fun hf => hgives (hlow hf)⟩
      | batch b =>
        obtain ⟨hlow, -, hb, hfollows'⟩ := hnext
        have hgives := hgives hlow
        refine (ensures_interlude hfollows').bind_returns ?_
        rintro _ busy ⟨-, hface', hbusy⟩
        have hp' := hp'.of_face hface'
        refine returns_get ?_
        split
        case isTrue hraised =>
          -- Somebody has cancelled in the meantime: the batch is dropped.
          exact ih (.of_isRaised hbusy hp' hpre hraised)
        case isFalse =>
          refine (ensures_produce (w.batch b)).bind_returns ?_
          rintro _ written ⟨w', lapse, texts, ⟨⟩, hsource, hprinted, hbatch, hall⟩
          have hp' := hp'.trans hprinted
          -- What is printed of the batch goes on with the sheet, even if not all of it is.
          have hpre' : kept ++ texts <+: (new.takeAll stream.batches).texts :=
            ((List.prefix_append_right_inj kept).2 hbatch).trans (Writer.takeAll_prefix hgives hb)
          have hwritten : Follows stream (yielded ++ [b]) written :=
            hbusy.of_source (by simp) hsource
          match lapse with
          | none =>
            have hgives' := Writer.takeAll_concat hgives (hall rfl)
            exact ih ⟨yielded ++ [b], kept ++ texts, hwritten, hp', hpre', fun _ => hgives'⟩
          | some (.sink .interrupt) =>
            -- The rest of the batch is lost, and with the flag raised so is the success.
            have hbegun : written.IsBegun := hwritten.isBegun (by simp)
            refine (ensures_interrupted_presents hbegun hp' hpre').bind_returns ?_
            intro _ later hlater
            exact ih (hlater w')
          | some (.sink (.fault f)) | some (.crash c) => exact returns_throw _

end Taking

/-! ## The whole presentation -/

/-- The rows of some batches are counted batch by batch. -/
theorem rowCount_eq (bs : List Batch) : rowCount bs = (rowsOf bs).length := by
  induction bs with
  | nil => rfl
  | cons b bs ih =>
    have h : rowsOf (b :: bs) = b.rows ++ rowsOf bs := rfl
    rw [h, List.length_append, rowCount, ih]

/-- What the report on an outcome shows on an output. -/
def reportOn (settings : Settings) (outcome : Outcome Binary64) (c : Channel) : List Text :=
  ((outcome.closingLine settings).toList.filter fun line => line.1 = c).map Prod.snd

theorem reportOn_success (settings : Settings) (n : Int) (elapsed : Binary64) :
    reportOn settings (.success n elapsed) .out
      = if settings.quiet then [] else [successLine n elapsed settings.timing] := by
  cases h : settings.quiet <;> simp [reportOn, Outcome.closingLine, h]

/-- A cancellation is no result. -/
theorem reportOn_cancelled (settings : Settings) (reason : Text) (elapsed : Binary64) :
    reportOn settings (.cancelled reason elapsed) .out = [] := by
  by_cases h : reason = timeoutReason <;> simp [reportOn, Outcome.closingLine, h]

theorem returns_tellOutcome (outcome : Outcome Binary64) (shell : Shell) :
    Returns (tellOutcome outcome) shell fun _ after =>
      after.source = shell.source ∧ ∀ c, after.console.printed c = shell.console.printed c
        ++ reportOn shell.session.settings outcome c := by
  refine returns_get ?_
  split
  case h_1 h => exact returns_pure ⟨rfl, fun c => by simp [reportOn, h]⟩
  case h_2 channel line h =>
    refine (ensures_put channel line shell).bind_returns ?_
    rintro fault after ⟨_, ⟨⟩, hsource, -, hprinted⟩
    cases fault with
    | some f => exact returns_throw _
    | none =>
      refine returns_pure ⟨hsource, ?_⟩
      intro c
      rw [hprinted, reportOn, h]
      by_cases hc : channel = c <;> simp [hc]

variable {shell after : Shell} {stream : ResultStream} {outcome : Outcome Binary64} {w : Writer}

/-- **A presentation that returns**: the events have been taken, the writer has
    ended the result or broken it off, and the outcome has been told. -/
theorem returns_present (h : Presents stream w shell w shell) :
    Returns (present w) shell fun outcome after =>
      ∃ (w' : Writer) (came : Option (Outcome Binary64)) (c : Cancellation)
        (kept rest : List Text) (last : Writer), after.source.flag? = some c ∧
        kept <+: (w.takeAll stream.batches).texts ∧
        (∀ told ∈ came, ∃ yielded, Told stream yielded told c ∧
          (c.isRaised = false → (w.takeAll yielded).Gives kept w')) ∧
        outcome = came.getD (missingOutcome (some c)) ∧
        (if outcome.isSuccess then w'.finish else w'.abort).Gives rest last ∧
        ∀ channel, after.console.printed channel = shell.console.printed channel
          ++ (if channel = .out then kept ++ rest else [])
          ++ reportOn shell.session.settings outcome channel := by
  refine returns_get ((returns_takeEvents _ h).bind ?_)
  rintro ⟨w', came⟩ taken ⟨c, kept, hc, hp, hpre, htold⟩
  refine returns_get ?_
  rw [hc]
  refine (returns_produceAll _).bind ?_
  rintro _ written ⟨hsource, rest, last, hrest, hp'⟩
  have hall := hp.trans hp'
  refine (returns_tellOutcome _ _).bind ?_
  rintro _ after ⟨hsource', hreport⟩
  refine returns_pure ⟨w', came, c, kept, rest, last, ?_, hpre, htold, rfl, hrest, ?_⟩
  · rw [hsource', hsource, hc]
  · intro channel
    rw [hreport, hall.2, hall.1]

theorem missingOutcome_of_isRaised {c : Cancellation} (h : c.isRaised = true) :
    missingOutcome (some c) = .cancelled (c.reasonOr interruptReason) .zero := by
  simp [missingOutcome, h]

theorem missingOutcome_ne_success (c? : Option Cancellation) (n : Int) (elapsed : Binary64) :
    missingOutcome c? ≠ .success n elapsed := by
  unfold missingOutcome
  split
  · split <;> simp
  · simp

/-- **No partial success.**  A statement is presented that has not been begun, the
    engine takes it, and its batches are all of the same columns.  However the
    engine, the worker, the control and those who cancel take their turns:

    - if the presentation returns a success, the stream has ended normally, the
      writer has taken all batches in order, its sheet has one text for each
      row, and the success tells the number of the rows;
    - if the flag, which is never lowered, has been raised, the outcome is a
      cancellation for its reason, and nothing is printed besides a beginning of
      what the writer makes of the stream and the border that closes a table. -/
theorem no_partial_success (format : ResultFormat) {statement : Text} {c : Cancellation}
    {schema : Schema} (hsource : shell.source = .execution (.fresh statement c))
    (hsubmit : shell.engine.submit shell.session.history statement = .accepted stream)
    (hschema : schema ≠ []) (hbatches : HaveSchema schema stream.batches)
    (hpresent : present (Writer.create shell.session.settings format) shell = .ok outcome after) :
    (∀ n elapsed, outcome = .success n elapsed →
      stream.ending = .complete ∧ n = (rowsOf stream.batches).length ∧
      ∃ sheet last,
        ((Writer.create shell.session.settings format).takeWhole stream.batches).Gives sheet last ∧
        (Writer.create shell.session.settings format).MakesSheet schema stream.batches sheet ∧
        after.console.printed .out = shell.console.printed .out ++ sheet ++
          if shell.session.settings.quiet then []
          else [successLine n elapsed shell.session.settings.timing]) ∧
    (after.source.isRaised = true → ∃ c' elapsed kept rest,
      after.source.flag? = some c' ∧
      outcome = .cancelled (c'.reasonOr interruptReason) elapsed ∧
      kept <+: ((Writer.create shell.session.settings format).takeAll stream.batches).texts ∧
      (rest = [] ∨ ∃ widths, rest = [TableDrawing.border widths]) ∧
      after.console.printed .out = shell.console.printed .out ++ kept ++ rest) := by
  have start : Presents stream (Writer.create shell.session.settings format) shell
      (Writer.create shell.session.settings format) shell :=
    ⟨[], [], .fresh statement c hsource hsubmit rfl, hasPrinted_nil rfl, List.nil_prefix,
      fun _ => Production.gives_done _⟩
  obtain ⟨w', came, c', kept, rest, last, hc, hpre, htold, houtcome, hrest, hprinted⟩ :=
    returns_present start _ _ hpresent
  have hout := hprinted .out
  rw [if_pos rfl] at hout
  constructor
  · rintro n elapsed rfl
    -- A success has been told by the execution, and that with the flag down.
    obtain ⟨told, rfl⟩ : ∃ told, came = some told := by
      cases came with
      | none => exact absurd houtcome.symm (missingOutcome_ne_success (some c') n elapsed)
      | some told => exact ⟨told, rfl⟩
    obtain rfl : .success n elapsed = told := houtcome
    obtain ⟨yielded, ⟨hlow, hhigh⟩, hgives⟩ := htold _ rfl
    have hf : c'.isRaised = false := by
      cases hf : c'.isRaised with
      | false => rfl
      | true => obtain ⟨_, h⟩ := hhigh hf; cases h
    obtain ⟨hend, rfl, hn⟩ := hlow hf
    -- So the writer has got the whole stream, and its end has been printed too.
    have hfinish : w'.finish.Gives rest last := hrest
    have hsheet := (hgives hf).andThen hfinish
    refine ⟨hend, by rw [hn, rowCount_eq], kept ++ rest, last, hsheet,
      Writer.makesSheet_takeWhole _ _ hschema hbatches hsheet, ?_⟩
    rw [hout, reportOn_success]
  · intro hraised
    have hf : c'.isRaised = true := by
      simpa [EventSource.isRaised, hc] using hraised
    obtain ⟨elapsed, rfl⟩ :
        ∃ elapsed, outcome = .cancelled (c'.reasonOr interruptReason) elapsed := by
      cases came with
      | none => exact ⟨_, houtcome.trans (missingOutcome_of_isRaised hf)⟩
      | some told =>
        obtain ⟨yielded, ⟨-, hhigh⟩, -⟩ := htold _ rfl
        obtain ⟨elapsed, rfl⟩ := hhigh hf
        exact ⟨elapsed, houtcome⟩
    refine ⟨c', elapsed, kept, rest, hc, rfl, hpre, ?_, ?_⟩
    · obtain ⟨_, habort | ⟨widths, habort⟩⟩ := w'.gives_abort
      · exact .inl (hrest.unique habort).1
      · exact .inr ⟨widths, (hrest.unique habort).1⟩
    · rw [hout, reportOn_cancelled, List.append_nil, List.append_assoc]

/-- A stream of two rows. -/
def twoRows : ResultStream where
  batches := [{ schema := [⟨['a'], "INTEGER".toList⟩], rows := [[.int 1], [.int 2]] }]
  ending := .complete

/-- A quiet shell that is about to present a stream, and what happens while it waits. -/
def aboutToPresent (stream : ResultStream) (waits : List Wait) : Shell where
  engine := { submit := fun _ _ => .accepted stream }
  surroundings := { reading := fun _ => .zero, waits }
  session := { settings := { quiet := true } }
  source := .execution (.fresh [] {})

/-- Two rows are presented as lines, or the user interrupts before the table has
    been drawn. -/
theorem no_partial_success_two_rows :
    (∃ n elapsed after sheet,
      present (.create { quiet := true } .csv) (aboutToPresent twoRows [])
        = .ok (.success n elapsed) after ∧
      n = 2 ∧ (Writer.create { quiet := true } .csv).MakesSheet [⟨['a'], "INTEGER".toList⟩]
        twoRows.batches sheet ∧
      after.console.printed .out = sheet) ∧
    ∃ reason elapsed after kept rest,
      present (.create { quiet := true } .table) (aboutToPresent twoRows [.interrupt])
        = .ok (.cancelled reason elapsed) after ∧
      kept <+: ((Writer.create { quiet := true } .table).takeAll twoRows.batches).texts ∧
      after.console.printed .out = kept ++ rest := by
  have hschema : [(⟨['a'], "INTEGER".toList⟩ : Column)] ≠ [] := by simp
  have hbatches : HaveSchema [⟨['a'], "INTEGER".toList⟩] twoRows.batches := by
    simp [HaveSchema, twoRows]
  constructor
  · obtain ⟨outcome, after, hok, htest⟩ := exists_of_passes
      (present (.create { quiet := true } .csv)) (aboutToPresent twoRows [])
      (fun outcome _ => outcome.isSuccess) (by decide +kernel)
    cases outcome with
    | failure | cancelled => cases htest
    | success n elapsed =>
      obtain ⟨-, hn, sheet, -, -, hsheet, hprinted⟩ :=
        (no_partial_success .csv rfl rfl hschema hbatches hok).1 n elapsed rfl
      exact ⟨n, elapsed, after, sheet, hok, hn, hsheet, hprinted.trans (List.append_nil sheet)⟩
  · obtain ⟨outcome, after, hok, htest⟩ := exists_of_passes
      (present (.create { quiet := true } .table)) (aboutToPresent twoRows [.interrupt])
      (fun _ after => after.source.isRaised) (by decide +kernel)
    obtain ⟨c, elapsed, kept, rest, -, rfl, hkept, -, hprinted⟩ :=
      (no_partial_success .table rfl rfl hschema hbatches hok).2 htest
    exact ⟨_, elapsed, after, kept, rest, hok, hkept, hprinted⟩

end Shell

end SqlShell
