import SqlShell.Proofs.Output.Rectangle
import SqlShell.Proofs.Session.Rendering
import SqlShell.Proofs.Session.Showing

/-! # Playing a Recording

    A recording of events may hold more than batches and an outcome: the user
    interrupts, somebody cancels, and it may stop without any outcome.

    * **`playedBack`** is what a recording amounts to: the batches that are
      written and the outcome.
    * **`takeEvents_recording`** takes the events of a whole recording.
    * **`table_is_closed`** is the result on tables: what is printed is nothing
      or a closed box, however the recording ends. -/

namespace SqlShell

/-! ## Recordings -/

/-- A recording that does not break down, and is not interrupted where nobody
    could cancel. -/
def Recorded.IsPlayable (flag : Option Cancellation) : Recorded → Prop
  | .event _ | .cancel _ => True
  | .interrupt => flag.isSome = true
  | .crash _ => False

/-- **What a recording amounts to**: the batches that are written, and how it
    ends.  Once the flag has been raised no batch is written any more. -/
def playedBack : Option Cancellation → List Recorded → List Batch × Outcome Binary64
  | flag, [] => ([], Shell.missingOutcome flag)
  | flag, .event (.batch b) :: items =>
    if (EventSource.recording [] flag).isRaised then playedBack flag items
    else (b :: (playedBack flag items).1, (playedBack flag items).2)
  | _, .event (.completed outcome) :: _ => ([], outcome)
  | flag, .interrupt :: items => playedBack (flag.map (·.raise interruptReason)) items
  | flag, .cancel reason :: items => playedBack (flag.map (·.raise reason)) items
  | flag, .crash _ :: _ => ([], Shell.missingOutcome flag)

/-- Only batches of the recording are written. -/
theorem mem_of_mem_playedBack {flag : Option Cancellation} {items : List Recorded} {b : Batch}
    (h : b ∈ (playedBack flag items).1) : .event (.batch b) ∈ items := by
  induction items generalizing flag with
  | nil => cases h
  | cons item items ih =>
    apply List.mem_cons.2
    cases item with
    | interrupt | cancel reason => exact .inr (ih h)
    | crash c => cases h
    | event e =>
      cases e with
      | completed outcome => cases h
      | batch b' =>
        rw [playedBack] at h
        split at h
        · exact .inr (ih h)
        · rcases List.mem_cons.1 h with rfl | h
          · exact .inl rfl
          · exact .inr (ih h)

namespace Shell

section Playback

variable {shell : Shell} {flag : Option Cancellation} {k : Console}

/-- Somebody cancels before the next event comes. -/
theorem takeEvents_cancel (fuel : Nat) (w : Writer) (reason : Text) (items : List Recorded) :
    takeEvents (fuel + 1) w (shell.replaying (.cancel reason :: items) flag k)
      = takeEvents (fuel + 1) w (shell.replaying items (flag.map (·.raise reason)) k) := by
  have hnext : nextEvent (shell.replaying (.cancel reason :: items) flag k)
      = nextEvent (shell.replaying items (flag.map (·.raise reason)) k) := rfl
  rw [takeEvents]
  exact bind_congr_state hnext

/-- The user interrupts, which raises the flag. -/
theorem takeEvents_interrupt (fuel : Nat) (w : Writer) (items : List Recorded)
    (hflag : flag.isSome = true) :
    takeEvents (fuel + 1) w (shell.replaying (.interrupt :: items) flag k)
      = takeEvents fuel w (shell.replaying items (flag.map (·.raise interruptReason)) k) := by
  have hnext : nextEvent (shell.replaying (.interrupt :: items) flag k)
      = .ok .interrupted (shell.replaying items flag k) := rfl
  have hraise : interrupted (shell.replaying items flag k)
      = .ok () (shell.replaying items (flag.map (·.raise interruptReason)) k) := by
    obtain ⟨c, rfl⟩ := Option.isSome_iff_exists.1 hflag
    rfl
  rw [takeEvents, bind_of_ok hnext]
  exact bind_of_ok hraise

theorem Recorded.isPlayable_map (f : Cancellation → Cancellation) {item : Recorded}
    (h : item.IsPlayable flag) : item.IsPlayable (flag.map f) := by
  cases item with
  | interrupt => exact Option.isSome_map.trans h
  | event | cancel => exact h
  | crash c => exact h

/-- **The events of a whole recording** are taken as its batches are written. -/
theorem takeEvents_recording (shell : Shell) {items : List Recorded} {fuel : Nat} (w : Writer)
    (hplayable : ∀ item ∈ items, item.IsPlayable flag) (hfuel : items.length < fuel)
    (hwhole : (w.takeAll (playedBack flag items).1).crash = none) (hk : k.IsFaultless) :
    ∃ came rest flag', takeEvents fuel w (shell.replaying items flag k)
        = .ok ((w.takeAll (playedBack flag items).1).last, came)
            (shell.replaying rest flag' (k.putAll (w.takeAll (playedBack flag items).1).texts)) ∧
      came.getD (missingOutcome flag') = (playedBack flag items).2 := by
  induction items generalizing flag fuel w k with
  | nil =>
    obtain ⟨fuel, rfl⟩ := Nat.exists_eq_add_of_lt hfuel
    exact ⟨none, [], flag, rfl, rfl⟩
  | cons item items ih =>
    obtain ⟨hitem, hitems⟩ := List.forall_mem_cons.1 hplayable
    rw [List.length_cons] at hfuel
    obtain ⟨fuel, rfl⟩ := Nat.exists_eq_succ_of_ne_zero (by omega : fuel ≠ 0)
    have hraised : ∀ reason : Text, ∀ item ∈ items,
        item.IsPlayable (flag.map (·.raise reason)) := by
      intro reason item hmem
      exact Recorded.isPlayable_map _ (hitems item hmem)
    cases item with
    | crash c => exact absurd hitem id
    | cancel reason =>
      rw [takeEvents_cancel]
      exact ih w (hraised reason) (by omega) hwhole hk
    | interrupt =>
      rw [takeEvents_interrupt fuel w items hitem]
      exact ih w (hraised interruptReason) (by omega) hwhole hk
    | event e =>
      cases e with
      | completed outcome => exact ⟨some outcome, items, flag, rfl, rfl⟩
      | batch b =>
        rw [Nat.succ_eq_add_one, takeEvents_batch fuel w b items hk]
        rw [playedBack] at hwhole ⊢
        by_cases hflag : (EventSource.recording [] flag).isRaised = true
        · -- The batch is dropped.
          rw [if_pos hflag] at hwhole ⊢
          rw [accept, if_pos hflag]
          exact ih w hitems (by omega) hwhole hk
        · rw [if_neg hflag] at hwhole ⊢
          have hall : w.takeAll (b :: (playedBack flag items).1)
              = (w.batch b).andThen fun w => w.takeAll (playedBack flag items).1 := rfl
          rw [hall] at hwhole ⊢
          rw [accept, if_neg hflag]
          cases hcrash : (w.batch b).crash with
          | some c =>
            rw [Production.andThen_of_crash hcrash, hcrash] at hwhole
            cases hwhole
          | none =>
            rw [Production.crash_andThen hcrash] at hwhole
            obtain ⟨came, rest, flag', htake, hcame⟩ :=
              ih (w.batch b).last hitems (Nat.lt_of_succ_lt_succ hfuel) hwhole
                (hk.putAll (w.batch b).texts)
            refine ⟨came, rest, flag', ?_, hcame⟩
            dsimp only
            rw [htake, Production.last_andThen hcrash, (Production.gives hcrash).texts_andThen,
              Console.putAll_append]

end Playback

end Shell

/-! ## The whole presentation -/

/-- What some texts print. -/
theorem Console.IsFaultless.printed_putAll {k : Console} (hk : k.IsFaultless) (texts : List Text)
    (c : Channel) :
    (k.putAll texts).printed c = k.printed c ++ if c = .out then texts else [] := by
  induction texts generalizing k with
  | nil => simp [Console.putAll]
  | cons text texts ih =>
    obtain ⟨hnone, hput, -⟩ := hk.put .out text
    have hrest : k.putAll (text :: texts) = (k.put .out text).2.putAll texts := rfl
    rw [hrest, ih hput, Console.printed_put, hnone]
    by_cases hc : c = .out
    · simp [hc]
    · simp [hc, Ne.symm hc]

namespace Shell

variable {shell : Shell} {items : List Recorded} {flag : Option Cancellation} {k : Console}

/-- A production that is not given up is written as a whole. -/
theorem produceAll_eq (shell : Shell) (items : List Recorded) (flag : Option Cancellation)
    {σ : Type} {p : Production σ} {texts : List Text} {last : σ} (h : p.Gives texts last) (hk : k.IsFaultless) :
    produceAll p (shell.replaying items flag k)
      = .ok () (shell.replaying items flag (k.putAll texts)) := by
  obtain ⟨rfl, rfl, hwhole⟩ := h
  have hsteps : produce p (shell.replaying items flag k)
      = .ok (p.last, p.crash.map .crash) (shell.replaying items flag (k.putAll p.texts)) :=
    writeSteps_eq p.last p.crash p.steps items hk
  rw [hwhole] at hsteps
  rw [produceAll, bind_of_ok hsteps]
  rfl

/-- The report on an outcome. -/
theorem tellOutcome_eq (shell : Shell) (items : List Recorded) (flag : Option Cancellation)
    (outcome : Outcome Binary64) (hk : k.IsFaultless) :
    ∃ k', tellOutcome outcome (shell.replaying items flag k)
        = .ok () (shell.replaying items flag k') ∧
      ∀ c, k'.printed c = k.printed c ++ reportOn shell.session.settings outcome c := by
  have hget : (get : ShellM Shell) (shell.replaying items flag k)
      = .ok (shell.replaying items flag k) (shell.replaying items flag k) := rfl
  rw [tellOutcome, bind_of_ok hget]
  have hsettings : (shell.replaying items flag k).session.settings = shell.session.settings := rfl
  rw [hsettings]
  cases hline : outcome.closingLine shell.session.settings with
  | none =>
    refine ⟨k, rfl, ?_⟩
    intro c
    simp [reportOn, hline]
  | some line =>
    obtain ⟨channel, text⟩ := line
    obtain ⟨hnone, -, -⟩ := hk.put channel text
    refine ⟨(k.put channel text).2, ?_, ?_⟩
    · have hput : put channel text (shell.replaying items flag k)
          = .ok none (shell.replaying items flag (k.put channel text).2) := by
        show EStateM.Result.ok (k.put channel text).1 _ = _
        rw [hnone]
        rfl
      dsimp only
      rw [write, bind_of_ok hput]
      rfl
    · intro c
      rw [Console.printed_put, hnone]
      by_cases hc : channel = c <;> simp [reportOn, hline, hc]

/-- **A recording is presented** as its batches are written and its outcome asks
    for. -/
theorem present_recording {w w' last : Writer} {first second : List Text}
    (hshell : shell.console.IsFaultless) (hplayable : ∀ item ∈ items, item.IsPlayable flag)
    (hfirst : (w.takeAll (playedBack flag items).1).Gives first w')
    (hsecond : (w'.close (playedBack flag items).2).Gives second last) :
    ∃ after, present w (shell.replaying items flag shell.console)
        = .ok (playedBack flag items).2 after ∧
      ∀ c, after.console.printed c = shell.console.printed c
        ++ (if c = .out then first ++ second else [])
        ++ reportOn shell.session.settings (playedBack flag items).2 c := by
  obtain ⟨came, rest, flag', htake, hcame⟩ := takeEvents_recording shell w hplayable
    (Nat.lt_succ_self items.length) hfirst.whole hshell
  rw [hfirst.last, hfirst.texts] at htake
  have hpresent : present w (shell.replaying items flag shell.console)
      = (takeEvents (items.length + 1) w >>= conclusion)
          (shell.replaying items flag shell.console) := rfl
  have hget : (get : ShellM Shell) (shell.replaying rest flag' (shell.console.putAll first))
      = .ok (shell.replaying rest flag' (shell.console.putAll first))
          (shell.replaying rest flag' (shell.console.putAll first)) := rfl
  have hproduce := produceAll_eq shell rest flag' hsecond (hshell.putAll first)
  obtain ⟨k, htell, hprinted⟩ := tellOutcome_eq shell rest flag' (playedBack flag items).2
    ((hshell.putAll first).putAll second)
  refine ⟨shell.replaying rest flag' k, ?_, ?_⟩
  · rw [hpresent, bind_of_ok htake, conclusion, bind_of_ok hget]
    have houtcome : came.getD (missingOutcome
        (shell.replaying rest flag' (shell.console.putAll first)).source.flag?)
          = (playedBack flag items).2 := hcame
    dsimp only
    rw [houtcome]
    have hclose : (if (playedBack flag items).2.isSuccess then w'.finish else w'.abort)
        = w'.close (playedBack flag items).2 := rfl
    rw [hclose, bind_of_ok hproduce, bind_of_ok htell]
    rfl
  · intro c
    have hfaultless := hshell.putAll first
    show k.printed c = _
    rw [hprinted, hfaultless.printed_putAll, hshell.printed_putAll]
    by_cases hc : c = .out <;> simp [hc]

end Shell

/-! ## Tables -/

section Tables

variable {settings : Settings} {schema : Schema}

/-- **A table that is ended or broken off** is left out, or it is the whole table
    of the rows that have come. -/
theorem Writer.gives_close {bs : List Batch} (outcome : Outcome Binary64) (hs : schema ≠ [])
    (hb : HaveSchema schema bs) (hrows : ∀ row ∈ rowsOf bs, row.length = schema.length)
    (hdraw : ∀ row ∈ rowsOf bs, (tableFor settings).canDraw row = true) :
    ∃ first w second last, ((create settings .table).takeAll bs).Gives first w ∧
      (w.close outcome).Gives second last ∧
      (first ++ second = [] ∨
        first ++ second = (tableFor settings).wholeTable schema (rowsOf bs)) := by
  by_cases hne : bs = []
  · subst hne
    refine ⟨[], create settings .table, [], ?_⟩
    cases outcome <;> exact ⟨_, Production.gives_done _, Production.gives_done _, .inl rfl⟩
  · have hall := gives_takeAll_table hs hne hb hrows hdraw
    obtain ⟨texts, last, hclose, hwhole⟩ :=
      TableDrawing.gives_close (tableFor settings) outcome.isSuccess hs hrows
    refine ⟨_, _, texts, table last, hall, ?_, hwhole⟩
    rw [close]
    cases hsuccess : outcome.isSuccess with
    | true =>
      rw [hsuccess] at hclose
      exact hclose.map table
    | false =>
      rw [hsuccess] at hclose
      exact hclose.map table

/-- **A table is closed**, also when the statement fails.  Whatever the look-ahead,
    the batches, and the way in which the events end: what is printed before the
    report on the outcome is nothing, or it is a closed box, in which every line
    is as long as its columns, three characters between them for each, and two at
    the ends, one of which ends the line. -/
theorem table_is_closed {shell : Shell} {flag : Option Cancellation} {items : List Recorded}
    (hshell : shell.console.IsFaultless) (hplayable : ∀ item ∈ items, item.IsPlayable flag)
    (hmax : 3 ≤ shell.session.settings.maxWidth) (hs : schema ≠ [])
    (hbatches : ∀ b, .event (.batch b) ∈ items → b.schema = schema ∧
      ∀ row ∈ b.rows, row.length = schema.length ∧
        (Writer.tableFor shell.session.settings).canDraw row = true) :
    ∃ (box : List Text) (after : Shell),
      Shell.present (.create shell.session.settings .table)
          (shell.replaying items flag shell.console) = .ok (playedBack flag items).2 after ∧
      (box = [] ∨ (Writer.tableFor shell.session.settings).IsBox 2 schema
        (rowsOf (playedBack flag items).1) box) ∧
      ∀ c, after.console.printed c = shell.console.printed c ++ (if c = .out then box else [])
        ++ Shell.reportOn shell.session.settings (playedBack flag items).2 c := by
  have hschema : HaveSchema schema (playedBack flag items).1 := by
    intro b hb
    exact (hbatches b (mem_of_mem_playedBack hb)).1
  have hrow : ∀ row ∈ rowsOf (playedBack flag items).1, row.length = schema.length ∧
      (Writer.tableFor shell.session.settings).canDraw row = true := by
    intro row hrow
    obtain ⟨b, hb, hrow⟩ := List.mem_flatMap.1 hrow
    exact (hbatches b (mem_of_mem_playedBack hb)).2 row hrow
  have hrows := fun row hmem => (hrow row hmem).1
  obtain ⟨first, w, second, last, hfirst, hsecond, hbox⟩ :=
    Writer.gives_close (playedBack flag items).2 hs hschema hrows fun row hmem => (hrow row hmem).2
  obtain ⟨after, hpresent, hprinted⟩ := Shell.present_recording hshell hplayable hfirst hsecond
  refine ⟨first ++ second, after, hpresent, ?_, hprinted⟩
  rcases hbox with hbox | hbox
  · exact .inl hbox
  · rw [hbox]
    exact .inr (TableDrawing.isBox_wholeTable hmax hs hrows)

end Tables

/-- Two rows of a result that then fails. -/
@[irreducible] def failingResult : List Recorded :=
  recordedResult [⟨Shell.numberColumn, [[.int 1]]⟩, ⟨Shell.numberColumn, [[.int 22]]⟩]
    (.failure { message := "disk full".toList } .zero)

/-- A shell that draws the rows of a table as they come. -/
@[irreducible] def drawingShell : Shell :=
  { Shell.freshShell with session := { settings := { lookaheadRows := 0 } } }

/-- The table of a result that fails after two rows is closed. -/
theorem table_is_closed_failing :
    ∃ (box : List Text) (after : Shell),
      Shell.present (.create drawingShell.session.settings .table)
          (drawingShell.replaying failingResult none drawingShell.console)
        = .ok (.failure { message := "disk full".toList } .zero) after ∧
      (box = [] ∨ (Writer.tableFor drawingShell.session.settings).IsBox 2 Shell.numberColumn
        [[.int 1], [.int 22]] box) ∧
      ∀ c, after.console.printed c = drawingShell.console.printed c
        ++ (if c = .out then box else [])
        ++ Shell.reportOn drawingShell.session.settings
          (.failure { message := "disk full".toList } .zero) c := by
  have hshell : drawingShell.console.IsFaultless := by
    unfold drawingShell
    exact Shell.isFaultless_freshShell
  have hplayable : ∀ item ∈ failingResult, item.IsPlayable none := by
    unfold failingResult recordedResult
    simp [Recorded.IsPlayable]
  have hmax : 3 ≤ drawingShell.session.settings.maxWidth := by
    unfold drawingShell
    decide
  have hs : Shell.numberColumn ≠ [] := by
    unfold Shell.numberColumn
    simp
  have hbatches : ∀ b, .event (.batch b) ∈ failingResult → b.schema = Shell.numberColumn ∧
      ∀ row ∈ b.rows, row.length = Shell.numberColumn.length ∧
        (Writer.tableFor drawingShell.session.settings).canDraw row = true := by
    unfold failingResult recordedResult Shell.numberColumn drawingShell
    simp [TableDrawing.canDraw, Writer.tableFor, defaultNullMarker]
  have hplayed : playedBack none failingResult
      = ([⟨Shell.numberColumn, [[.int 1]]⟩, ⟨Shell.numberColumn, [[.int 22]]⟩],
          .failure { message := "disk full".toList } .zero) := by
    unfold failingResult
    rfl
  have hclosed := table_is_closed hshell hplayable hmax hs hbatches
  rw [hplayed] at hclosed
  exact hclosed

/-- A result of one number. -/
@[irreducible] def oneNumber : List Recorded :=
  recordedResult [⟨Shell.numberColumn, [[.int 1]]⟩] (.success 1 .zero)

/-- The character that ends a line counts as well: with one character at the ends
    of a line instead of two, the table of a single number is no such box. -/
theorem table_lines_end_counts :
    ¬ ∃ (box : List Text) (after : Shell),
      Shell.present (.create Shell.freshShell.session.settings .table)
          (Shell.freshShell.replaying oneNumber none Shell.freshShell.console)
        = .ok (.success 1 .zero) after ∧
      (box = [] ∨ (Writer.tableFor Shell.freshShell.session.settings).IsBox 1 Shell.numberColumn
        [[.int 1]] box) ∧
      ∀ c, after.console.printed c = Shell.freshShell.console.printed c
        ++ (if c = .out then box else [])
        ++ Shell.reportOn Shell.freshShell.session.settings (.success 1 .zero) c := by
  have hs : Shell.numberColumn ≠ [] := by
    unfold Shell.numberColumn
    simp
  have hplayable : ∀ item ∈ oneNumber, item.IsPlayable none := by
    unfold oneNumber recordedResult
    simp [Recorded.IsPlayable]
  have hplayed : playedBack none oneNumber
      = ([⟨Shell.numberColumn, [[.int 1]]⟩], .success 1 .zero) := by
    unfold oneNumber
    rfl
  have hrows : ∀ row ∈ ([[.int 1]] : List Row), row.length = Shell.numberColumn.length := by
    unfold Shell.numberColumn
    simp
  let new := Writer.tableFor Shell.freshShell.session.settings
  have hall : ((Writer.create Shell.freshShell.session.settings .table).takeAll
      (playedBack none oneNumber).1).Gives (new.written Shell.numberColumn [[.int 1]])
        (.table (new.standing Shell.numberColumn [[.int 1]])) := by
    rw [hplayed]
    refine Writer.gives_takeAll_table hs (by simp) (by simp [HaveSchema]) hrows ?_
    intro row _
    rfl
  obtain ⟨texts, last, hfinish, hwhole⟩ :=
    TableDrawing.gives_finish new hs (.inl (by simp)) hrows
  have hclose : (Writer.close (playedBack none oneNumber).2
      (.table (new.standing Shell.numberColumn [[.int 1]]))).Gives texts (.table last) := by
    rw [hplayed]
    exact hfinish.map Writer.table
  obtain ⟨after', hpresent', hprinted'⟩ :=
    Shell.present_recording Shell.isFaultless_freshShell hplayable hall hclose
  rw [hplayed] at hpresent' hprinted'
  rintro ⟨box, after, hpresent, hbox, hprinted⟩
  rw [hpresent'] at hpresent
  obtain ⟨-, rfl⟩ := EStateM.Result.ok.inj hpresent
  have hout := (hprinted' .out).symm.trans (hprinted .out)
  have hsame : new.wholeTable Shell.numberColumn [[.int 1]] = box := by
    rw [← hwhole]
    exact List.append_cancel_left (List.append_cancel_right hout)
  rcases hbox with hbox | hbox
  · rw [hbox] at hsame
    simp [TableDrawing.wholeTable] at hsame
  · exact absurd (hbox.ends_eq hs) (by decide)

end SqlShell
