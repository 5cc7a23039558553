import SqlShell.Proofs.Session.Following
import SqlShell.Session.Run

/-! # What Leaves the Buffer Alone

    A request that is handled leaves the buffer as it is: only lines go into it.

    * **`Unbuffered`** are the actions that leave the buffer alone.
    * **`unbuffered_handle`** says that the handling of a request is one. -/

namespace SqlShell.Shell

variable {α β : Type} {action : ShellM α}

/-- **The action leaves the buffer alone**, however it ends. -/
abbrev Unbuffered (action : ShellM α) : Prop := Keeps Shell.buffer action

theorem detached_buffer : Detached Shell.buffer :=
  ⟨⟨fun _ _ _ => rfl, fun _ _ => rfl⟩, fun _ _ => rfl, fun _ _ => rfl⟩

/-! ## Small actions -/

theorem unbuffered_put (c : Channel) (text : Text) : Unbuffered (put c text) := fun _ => rfl

theorem unbuffered_note (n : Notice) : Unbuffered (note n) := keeps_note n fun _ => rfl

theorem unbuffered_enter (e : Entry) : Unbuffered (enter e) := keeps_enter e fun _ => rfl

theorem unbuffered_write (c : Channel) (text : Text) : Unbuffered (write c text) :=
  keeps_write (unbuffered_put c) text

theorem unbuffered_flush : Unbuffered flush := keeps_flush fun _ _ => rfl

theorem unbuffered_enterPhase (phase : Phase) : Unbuffered (enterPhase phase) :=
  keeps_enterPhase detached_buffer.toUnaware (fun _ _ => rfl) phase

theorem unbuffered_countError : Unbuffered countError := keeps_modify fun _ => rfl

theorem Unbuffered.followedBy {last : ShellM Unit} (h : Unbuffered action)
    (hlast : Unbuffered last) : Unbuffered (followedBy action last) := by
  refine h.attempt.bind ?_
  intro ended
  refine hlast.bind ?_
  intro _
  split
  · exact keeps_pure _
  · exact keeps_throw _

/-! ## Presenting -/

theorem unbuffered_writeSteps {σ : Type} (last : σ) (crash : Option Crash)
    (steps : List (σ × Text)) : Unbuffered (writeSteps last crash steps) := by
  induction steps with
  | nil => exact keeps_pure _
  | cons step rest ih =>
    refine (unbuffered_put .out step.2).bind ?_
    intro fault
    split
    · exact ih
    · exact keeps_pure _

theorem unbuffered_produceAll {σ : Type} (p : Production σ) : Unbuffered (produceAll p) := by
  refine (unbuffered_writeSteps p.last p.crash p.steps).bind ?_
  rintro ⟨s, lapse⟩
  cases lapse with
  | none => exact keeps_pure _
  | some lapse => exact keeps_throw _

theorem unbuffered_interlude : Unbuffered interlude := by
  apply keeps_modify
  intro shell
  dsimp only
  split <;> rfl

theorem unbuffered_interrupted : Unbuffered interrupted := by
  refine keeps_get.bind ?_
  intro shell
  split
  · exact keeps_throw _
  · exact keeps_modify fun _ => rfl

/-- **The events of a statement are taken** without a look at the buffer. -/
theorem unbuffered_takeEvents (fuel : Nat) (w : Writer) : Unbuffered (takeEvents fuel w) := by
  induction fuel generalizing w with
  | zero => exact keeps_pure _
  | succ fuel ih =>
    refine detached_buffer.keeps_nextEvent.bind ?_
    intro reply
    split
    · exact keeps_pure _
    · exact keeps_throw _
    · exact keeps_throw _
    · exact unbuffered_interrupted.bind fun _ => ih w
    · exact keeps_pure _
    · refine unbuffered_interlude.bind fun _ => keeps_get.bind ?_
      intro shell
      split
      · exact ih w
      · refine (unbuffered_writeSteps _ _ _).bind ?_
        intro written
        split
        · exact ih _
        · exact unbuffered_interrupted.bind fun _ => ih _
        · exact keeps_throw _

theorem unbuffered_tellOutcome (outcome : Outcome Binary64) : Unbuffered (tellOutcome outcome) := by
  refine keeps_get.bind ?_
  intro shell
  split
  · exact keeps_pure _
  · exact unbuffered_write _ _

theorem unbuffered_present (w : Writer) : Unbuffered (present w) := by
  refine keeps_get.bind fun _ => (unbuffered_takeEvents _ w).bind ?_
  rintro ⟨w, came⟩
  refine keeps_get.bind fun _ => (unbuffered_produceAll _).bind fun _ => ?_
  exact (unbuffered_tellOutcome _).bind fun _ => keeps_pure _

/-! ## Requests -/

theorem unbuffered_conclude (outcome : Outcome Binary64) : Unbuffered (conclude outcome) := by
  refine detached_buffer.keeps_closeEvents.bind ?_
  intro _
  dsimp only
  split
  · exact unbuffered_countError.bind fun _ => unbuffered_flush
  · exact unbuffered_flush

theorem unbuffered_reportCrash (c : Crash) : Unbuffered (reportCrash c) :=
  (unbuffered_note _).bind fun _ => unbuffered_countError.bind fun _ => unbuffered_write _ _

theorem unbuffered_executeStatement (statement : Text) :
    Unbuffered (executeStatement statement) := by
  have hclose : Unbuffered closeEvents := detached_buffer.keeps_closeEvents
  have hshow : Unbuffered showResult := by
    refine (unbuffered_enterPhase _).bind fun _ => ?_
    refine Keeps.bind (keeps_get.bind fun _ => keeps_pure _) fun w => unbuffered_present w
  refine Keeps.bind (fun _ => rfl) fun _ => (unbuffered_enter _).bind fun _ => ?_
  refine (unbuffered_enterPhase _).bind fun _ => Keeps.bind (fun _ => rfl) fun _ => ?_
  refine hshow.attempt.bind ?_
  intro ended
  split
  · exact unbuffered_conclude _
  · exact keeps_throw _
  · exact Unbuffered.followedBy (keeps_throw _) hclose
  · refine Keeps.bind (fun _ => rfl) fun _ => ?_
    refine (unbuffered_tellOutcome _).attempt.bind ?_
    intro told
    split
    · exact unbuffered_conclude _
    · exact Unbuffered.followedBy (keeps_throw _) hclose
  · exact Unbuffered.followedBy (unbuffered_reportCrash _) hclose

theorem unbuffered_perform (c : ShellCommand) : Unbuffered (perform c) := by
  refine keeps_get.bind ?_
  intro shell
  split
  · exact unbuffered_countError.bind fun _ => unbuffered_write _ _
  · exact Keeps.bind (fun _ => rfl) fun _ => keeps_writeAll (unbuffered_put _) _

/-- **A request that is handled leaves the buffer alone.** -/
theorem unbuffered_handle (input : Input) : Unbuffered (handle input) := by
  refine (unbuffered_enterPhase _).bind fun _ => ?_
  cases input with
  | empty => exact keeps_pure _
  | command c => exact unbuffered_perform c
  | statement text => exact unbuffered_executeStatement text

end SqlShell.Shell
