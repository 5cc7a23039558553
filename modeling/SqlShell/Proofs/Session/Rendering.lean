import SqlShell.Proofs.Output.Fitting
import SqlShell.Proofs.Session.Ledger
import SqlShell.Session.Presentation

/-! # Rendering a Recorded Result

    What is seen of a result does not depend on **the batches it comes in**.

    * **`seen`** is how an action ends, and the console then.
    * **`seen_takeBatches`**: taking the events of a recording is taking its
      batches as a writer does, one step for each event.
    * **`rendering_ignores_batches`** is the result, for every format and every
      outcome. -/

namespace SqlShell

/-! ## Writing to an output that does not fail -/

namespace Console

/-- **The console after some texts** have been written to the standard output. -/
def putAll (k : Console) (texts : List Text) : Console :=
  texts.foldl (fun k text => (k.put .out text).2) k

theorem IsFaultless.putAll {k : Console} (h : k.IsFaultless) (texts : List Text) :
    (k.putAll texts).IsFaultless := by
  induction texts generalizing k with
  | nil => exact h
  | cons text texts ih => exact ih (h.put .out text).2.1

theorem putAll_append (k : Console) (texts texts' : List Text) :
    k.putAll (texts ++ texts') = (k.putAll texts).putAll texts' :=
  List.foldl_append

end Console

/-! ## Recordings -/

/-- The events of a result that comes in some batches and ends with an outcome. -/
def recordedResult (bs : List Batch) (outcome : Outcome Binary64) : List Recorded :=
  bs.map (fun b => .event (.batch b)) ++ [.event (.completed outcome)]

namespace Shell

variable {α : Type}

/-- **What is seen of an action**: how it ends, and the console then. -/
def seen (action : ShellM α) (shell : Shell) : Except Exit α × Console :=
  match action shell with
  | .ok a after => (.ok a, after.console)
  | .error e after => (.error e, after.console)

/-- The shell with another recording, and other things on the console. -/
def replaying (shell : Shell) (items : List Recorded) (flag : Option Cancellation)
    (console : Console) : Shell :=
  { shell with source := .recording items flag, console }

/-- The batch is taken by the writer, or dropped because the flag is raised. -/
def accept (raised : Bool) (w : Writer) (b : Batch) : Production Writer :=
  if raised then .done w else w.batch b

/-- The same for some batches, one after the other. -/
def acceptAll (raised : Bool) (w : Writer) (bs : List Batch) : Production Writer :=
  Production.forEach (accept raised) w bs

theorem acceptAll_eq (raised : Bool) (w : Writer) (bs : List Batch) :
    acceptAll raised w bs = if raised then .done w else w.takeAll bs := by
  cases raised with
  | false => rfl
  | true =>
    induction bs with
    | nil => rfl
    | cons b bs ih =>
      rw [acceptAll, Production.forEach, accept, if_pos rfl, Production.done_andThen]
      exact ih

/-- What is done behind an action that returns. -/
theorem bind_of_ok {β : Type} {action : ShellM α} {next : α → ShellM β} {shell after : Shell}
    {a : α} (h : action shell = .ok a after) : (action >>= next) shell = next a after := by
  show EStateM.bind action next shell = _
  rw [EStateM.bind, h]

theorem bind_of_error {β : Type} {action : ShellM α} {next : α → ShellM β} {shell after : Shell}
    {e : Exit} (h : action shell = .error e after) :
    (action >>= next) shell = .error e after := by
  show EStateM.bind action next shell = _
  rw [EStateM.bind, h]

theorem bind_congr_state {β : Type} {action action' : ShellM α} {next : α → ShellM β}
    {shell shell' : Shell} (h : action shell = action' shell') :
    (action >>= next) shell = (action' >>= next) shell' := by
  show EStateM.bind action next shell = EStateM.bind action' next shell'
  rw [EStateM.bind, h]
  rfl

section Rendering

variable {shell : Shell} {flag : Option Cancellation} {k : Console}

/-- **A production is written** as a whole. -/
theorem writeSteps_eq {σ : Type} (last : σ) (crash : Option Crash) (steps : List (σ × Text))
    (items : List Recorded) (hk : k.IsFaultless) :
    writeSteps last crash steps (shell.replaying items flag k)
      = .ok (last, crash.map .crash)
          (shell.replaying items flag (k.putAll (steps.map Prod.snd))) := by
  induction steps generalizing k with
  | nil => rfl
  | cons step steps ih =>
    obtain ⟨s, text⟩ := step
    obtain ⟨hnone, hput, -⟩ := hk.put .out text
    have hfirst : put .out text (shell.replaying items flag k)
        = .ok none (shell.replaying items flag (k.put .out text).2) := by
      show EStateM.Result.ok (k.put .out text).1 _ = _
      rw [hnone]
      rfl
    rw [writeSteps]
    rw [bind_of_ok hfirst]
    exact ih hput

/-- **One event on**: the batch is written, and the next event is asked for. -/
theorem takeEvents_batch (fuel : Nat) (w : Writer) (b : Batch) (items : List Recorded)
    (hk : k.IsFaultless) :
    takeEvents (fuel + 1) w (shell.replaying (.event (.batch b) :: items) flag k)
      = match (accept (EventSource.recording [] flag).isRaised w b).crash with
        | none =>
          takeEvents fuel (accept (EventSource.recording [] flag).isRaised w b).last
            (shell.replaying items flag
              (k.putAll (accept (EventSource.recording [] flag).isRaised w b).texts))
        | some c => .error (.crashed c)
            (shell.replaying items flag
              (k.putAll (accept (EventSource.recording [] flag).isRaised w b).texts)) := by
  have hnext : nextEvent (shell.replaying (.event (.batch b) :: items) flag k)
      = .ok (.event (.batch b)) (shell.replaying items flag k) := rfl
  have hidle : interlude (shell.replaying items flag k)
      = .ok () (shell.replaying items flag k) := rfl
  have hget : (get : ShellM Shell) (shell.replaying items flag k)
      = .ok (shell.replaying items flag k) (shell.replaying items flag k) := rfl
  have hraised : (shell.replaying items flag k).source.isRaised
      = (EventSource.recording [] flag).isRaised := rfl
  rw [takeEvents, bind_of_ok hnext]
  dsimp only
  rw [bind_of_ok hidle, bind_of_ok hget, hraised]
  cases (EventSource.recording [] flag).isRaised with
  | true => rfl
  | false =>
    have hwrite : produce (w.batch b) (shell.replaying items flag k)
        = .ok ((w.batch b).last, (w.batch b).crash.map .crash)
            (shell.replaying items flag (k.putAll (w.batch b).texts)) :=
      writeSteps_eq _ _ _ _ hk
    show (produce (w.batch b) >>= _) (shell.replaying items flag k) = _
    rw [bind_of_ok hwrite]
    show _ = match (w.batch b).crash with
      | none => takeEvents fuel (w.batch b).last
          (shell.replaying items flag (k.putAll (w.batch b).texts))
      | some c => .error (.crashed c) (shell.replaying items flag (k.putAll (w.batch b).texts))
    cases (w.batch b).crash <;> rfl

/-- **All the batches**, one after the other: they are written as the writer
    makes them, and the outcome comes behind them. -/
theorem seen_takeBatches (fuel : Nat) (w : Writer) (bs : List Batch) (outcome : Outcome Binary64)
    (hk : k.IsFaultless) (next : Writer × Option (Outcome Binary64) → ShellM α) :
    seen (takeEvents (bs.length + 1 + fuel) w >>= next)
        (shell.replaying (recordedResult bs outcome) flag k)
      = match (acceptAll (EventSource.recording [] flag).isRaised w bs).crash with
        | none =>
          seen (next ((acceptAll (EventSource.recording [] flag).isRaised w bs).last, some outcome))
            (shell.replaying [] flag
              (k.putAll (acceptAll (EventSource.recording [] flag).isRaised w bs).texts))
        | some c => (.error (.crashed c),
            k.putAll (acceptAll (EventSource.recording [] flag).isRaised w bs).texts) := by
  induction bs generalizing w k with
  | nil =>
    have htake : takeEvents (0 + 1 + fuel) w
        (shell.replaying (recordedResult [] outcome) flag k)
          = .ok (w, some outcome) (shell.replaying [] flag k) := by
      rw [Nat.add_comm (0 + 1) fuel]
      rfl
    unfold seen
    rw [List.length_nil, bind_of_ok htake]
    rfl
  | cons b bs ih =>
    have hfuel : (b :: bs).length + 1 + fuel = bs.length + 1 + fuel + 1 := by
      rw [List.length_cons]
      omega
    have hall : acceptAll (EventSource.recording [] flag).isRaised w (b :: bs)
        = (accept (EventSource.recording [] flag).isRaised w b).andThen fun w =>
            acceptAll (EventSource.recording [] flag).isRaised w bs := rfl
    have hstep : takeEvents (bs.length + 1 + fuel + 1) w
        (shell.replaying (.event (.batch b) :: recordedResult bs outcome) flag k) = _ :=
      takeEvents_batch (bs.length + 1 + fuel) w b (recordedResult bs outcome) hk
    rw [hfuel, hall]
    show seen _ (shell.replaying (.event (.batch b) :: recordedResult bs outcome) flag k) = _
    generalize accept (EventSource.recording [] flag).isRaised w b = p at hstep ⊢
    cases hcrash : p.crash with
    | some c =>
      rw [hcrash] at hstep
      rw [Production.andThen_of_crash hcrash, hcrash]
      unfold seen
      rw [bind_of_error hstep]
      rfl
    | none =>
      rw [hcrash] at hstep
      unfold seen
      rw [bind_congr_state hstep]
      have hrest := ih p.last (hk.putAll p.texts)
      unfold seen at hrest
      rw [hrest, Production.crash_andThen hcrash, Production.last_andThen hcrash,
        (Production.gives hcrash).texts_andThen, Console.putAll_append]

/-- What is done once the outcome has come. -/
def conclusion (reply : Writer × Option (Outcome Binary64)) : ShellM (Outcome Binary64) := do
  let outcome := reply.2.getD (missingOutcome (← get).source.flag?)
  produceAll (if outcome.isSuccess then reply.1.finish else reply.1.abort)
  tellOutcome outcome
  pure outcome

/-- **A presentation** takes the batches and concludes. -/
theorem seen_present (w : Writer) (bs : List Batch) (outcome : Outcome Binary64)
    (hk : k.IsFaultless) :
    seen (present w) (shell.replaying (recordedResult bs outcome) flag k)
      = match (acceptAll (EventSource.recording [] flag).isRaised w bs).crash with
        | none =>
          seen (conclusion
              ((acceptAll (EventSource.recording [] flag).isRaised w bs).last, some outcome))
            (shell.replaying [] flag
              (k.putAll (acceptAll (EventSource.recording [] flag).isRaised w bs).texts))
        | some c => (.error (.crashed c),
            k.putAll (acceptAll (EventSource.recording [] flag).isRaised w bs).texts) := by
  have hbound : (shell.replaying (recordedResult bs outcome) flag k).replyBound
      = bs.length + 1 + 1 := by
    show (recordedResult bs outcome).length + 1 = _
    rw [recordedResult, List.length_append, List.length_map]
    rfl
  have hpresent : present w (shell.replaying (recordedResult bs outcome) flag k)
      = (takeEvents (bs.length + 1 + 1) w >>= conclusion)
          (shell.replaying (recordedResult bs outcome) flag k) := by
    rw [← hbound]
    rfl
  rw [← seen_takeBatches 1 w bs outcome hk conclusion]
  unfold seen
  rw [hpresent]

/-- **The conclusion** returns the outcome, unless the writer breaks down. -/
theorem seen_conclusion {w : Writer} (outcome : Outcome Binary64)
    (hshell : shell.console.IsFaultless) (hfinish : w.finish.crash = none) :
    (seen (conclusion (w, some outcome)) shell).1 = .ok outcome := by
  have hwhole : (if outcome.isSuccess then w.finish else w.abort).crash = none := by
    split
    · exact hfinish
    · exact w.whole_abort
  have hproduce : Calm core (produceAll (if outcome.isSuccess then w.finish else w.abort))
      (· = .ok ()) := by
    refine (calm_writeSteps _ _ _).then ?_
    rw [hwhole]
    exact calm_pure ()
  have hcalm : Calm core (conclusion (w, some outcome)) (· = .ok outcome) := by
    refine calm_get ?_
    intro _
    exact hproduce.then ((calm_tellOutcome outcome).then (calm_pure outcome))
  have hended := hcalm shell hshell
  unfold Ensures at hended
  unfold seen
  cases hrun : conclusion (w, some outcome) shell with
  | ok a after =>
    rw [hrun] at hended
    exact hended.2.2
  | error e after =>
    rw [hrun] at hended
    exact hended.2.2

end Rendering

/-- **What is seen of a result does not depend on its batches.**  Whatever the
    writer of a format is told, and however the result ends: two recordings with
    the same columns and the same rows, which end with the same outcome, show the
    same on either output and end in the same way.  If there is a marker for
    missing values they return the outcome. -/
theorem rendering_ignores_batches (settings : Settings) (format : ResultFormat) (shell : Shell)
    (flag : Option Cancellation) (outcome : Outcome Binary64) {schema : Schema}
    {bs bs' : List Batch} (hshell : shell.console.IsFaultless) (hne : bs ≠ []) (hne' : bs' ≠ [])
    (hs : HaveSchema schema bs) (hs' : HaveSchema schema bs') (hrows : rowsOf bs = rowsOf bs')
    (hwide : ∀ row ∈ rowsOf bs, row.length = schema.length) :
    seen (present (.create settings format))
        (shell.replaying (recordedResult bs outcome) flag shell.console)
      = seen (present (.create settings format))
          (shell.replaying (recordedResult bs' outcome) flag shell.console) ∧
    (settings.nullMarker.isSome = true → ∃ console,
      seen (present (.create settings format))
        (shell.replaying (recordedResult bs outcome) flag shell.console)
          = (.ok outcome, console)) := by
  have hall := Writer.takeAll_eq_batch (.create settings format) hne hs
  have hall' := Writer.takeAll_eq_batch (.create settings format) hne' hs'
  constructor
  · rw [seen_present _ _ _ hshell, seen_present _ _ _ hshell, acceptAll_eq, acceptAll_eq, hall,
      hall', hrows]
  · intro hmarker
    have hfit : ∀ row ∈ rowsOf bs, row.length ≤ schema.length := by
      intro row hrow
      exact Nat.le_of_eq (hwide row hrow)
    have hwhole : (acceptAll (EventSource.recording [] flag).isRaised (.create settings format)
        bs).crash = none ∧ (acceptAll (EventSource.recording [] flag).isRaised
          (.create settings format) bs).last.finish.crash = none := by
      rw [acceptAll_eq, hall]
      split
      case isTrue => cases format <;> exact ⟨rfl, rfl⟩
      case isFalse => exact Writer.whole_batch format hmarker hfit
    rw [seen_present _ _ _ hshell, hwhole.1]
    exact ⟨_, Prod.ext (seen_conclusion outcome (hshell.putAll _) hwhole.2) rfl⟩

/-- A column of numbers. -/
@[irreducible] def numberColumn : Schema := [⟨"n".toList, "INTEGER".toList⟩]

/-- Two numbers, in one batch. -/
@[irreducible] def twoAtOnce : List Batch := [⟨numberColumn, [[.int 1], [.int 2]]⟩]

/-- The same numbers, with an empty batch between them. -/
@[irreducible] def oneByOne : List Batch :=
  [⟨numberColumn, [[.int 1]]⟩, ⟨numberColumn, []⟩, ⟨numberColumn, [[.int 2]]⟩]

/-- A table that keeps one row back is drawn the same in either case. -/
theorem rendering_ignores_batches_lookahead :
    ∃ console,
      seen (present (.create { lookaheadRows := 1 } .table))
        (freshShell.replaying (recordedResult twoAtOnce (.success 2 .zero)) none freshShell.console)
          = (.ok (.success 2 .zero), console) ∧
      seen (present (.create { lookaheadRows := 1 } .table))
        (freshShell.replaying (recordedResult oneByOne (.success 2 .zero)) none freshShell.console)
          = (.ok (.success 2 .zero), console) := by
  have hs : HaveSchema numberColumn twoAtOnce := by
    unfold twoAtOnce HaveSchema
    simp
  have hs' : HaveSchema numberColumn oneByOne := by
    unfold oneByOne HaveSchema
    simp
  have hrows : rowsOf twoAtOnce = rowsOf oneByOne := by
    unfold twoAtOnce oneByOne
    rfl
  have hwide : ∀ row ∈ rowsOf twoAtOnce, row.length = numberColumn.length := by
    unfold twoAtOnce numberColumn
    simp [rowsOf]
  obtain ⟨hsame, hreturns⟩ := rendering_ignores_batches { lookaheadRows := 1 } .table freshShell
    none (.success 2 .zero) isFaultless_freshShell (by unfold twoAtOnce; simp)
    (by unfold oneByOne; simp)
    hs hs' hrows hwide
  obtain ⟨console, hconsole⟩ := hreturns rfl
  exact ⟨console, hconsole, hsame ▸ hconsole⟩

end Shell

end SqlShell
