import SqlShell.Proofs.Execution.Attending
import SqlShell.Proofs.Execution.Progress

/-! # Attending Comes to an End

    A control that attends to its statement has an event or has ended before its
    moves are used up, whatever its surroundings do, as long as the engine does
    not block.

    * **`Live`** is the invariant: the parties are in order, and the engine keeps
      nobody waiting for ever.
    * **`movesLeft`** counts the moves that the control can still make.  Each
      round of four moves costs a wait that is laid down or an item, and the
      worker has only so many items to bring.
    * **`movesLeft_advance`**: every move of the control lowers the count.
    * **`Live.exists_finished`**: so a statement that is live can be brought to its
      end without anybody cancelling it or leaving it. -/

namespace SqlShell

variable {τ : Type}

/-- The moves of the control until it waits again. -/
def Control.movesLeft : Control → Nat
  | .timing _ => 3
  | .observing _ => 2
  | .handling _ => 1
  | .waiting | .yielded | .draining | .finished => 0

/-- **A move that goes on**: of the worker, of the control that does not wait in
    vain, or of a consumer that asks for the next event.  Nobody raises the flag,
    and nobody leaves. -/
def Move.goesOn : Move τ → Bool
  | .work | .take | .checkTime _ | .observe | .handle _ | .resume => true
  | _ => false

namespace Running

/-! ## What keeps the parties going -/

/-- **The statement is live**: its parties are in order, and the engine is not
    blocked unless it has been told to stop. -/
structure Live (r : Running τ) : Prop where
  orderly : Orderly r
  once : StopsOnce r
  capacity : 0 < r.capacity
  unblocked : r.stream.ending = .blocked → 0 < r.stops

theorem live_begun (s : Surroundings τ) (statement : Text) (c : Cancellation)
    {stream : ResultStream} (h : stream.ending ≠ .blocked) : Live (s.begun statement c stream) where
  orderly := ⟨fun _ => rfl, fun h => absurd h (by simp [Surroundings.begun]), Nat.zero_le _⟩
  once := by constructor <;> simp [Surroundings.begun]
  capacity := by
    simp only [Surroundings.begun, Surroundings.capacity]
    omega
  unblocked hb := absurd hb h

theorem Live.transition {r r' : Running τ} {signals : List (Signal τ)}
    (h : Transition r r' signals) (l : Live r) : Live r' where
  orderly := l.orderly.transition h
  once := l.once.transition h
  capacity := h.capacity_eq ▸ l.capacity
  unblocked := by
    intro hb
    -- Another ending comes only from an engine that has been told to stop.
    have hstops : 0 < r.stops := by
      cases h with
      | swerve batches ending h => exact h
      | _ => exact l.unblocked hb
    exact Nat.lt_of_lt_of_le hstops h.stops_le

theorem Live.steps [Timescale τ] {r : Running τ} (l : Live r) (ms : List (Move τ)) :
    Live (r.steps ms).1 :=
  steps_invariant (P := fun r _ => Live r) l (fun _ _ _ _ t l => l.transition t) ms

/-! ## The items that are left -/

/-- **The items that the worker can still bring**, at the most.  Under a raised
    flag it does not go on with the batches of the stream. -/
def itemsToCome (r : Running τ) : Nat :=
  match r.worker, r.flag.isRaised with
  | .pulling, false => r.stream.batches.length + 1
  | .holding _, false | .putting _, false | .refused _, false => r.stream.batches.length + 2
  | .putting _, true => 2
  | .pulling, true | .holding _, true | .refused _, true => 1
  | .closing _, _ | .reporting _, _ => 1
  | .returned, _ => 0

/-- The items that can still come out of the channel, at the most. -/
def itemsLeft (r : Running τ) : Nat := r.channel.length + r.itemsToCome

theorem itemsToCome_le (r : Running τ) : r.itemsToCome ≤ r.stream.batches.length + 2 := by
  unfold itemsToCome
  split <;> omega

/-- A raised flag makes no more of them. -/
theorem itemsToCome_raise (reason : Text) (r : Running τ) :
    (r.raise reason).itemsToCome ≤ r.itemsToCome := by
  have hf : (r.raise reason).flag.isRaised = true := Cancellation.isRaised_raise reason r.flag
  have hw : (r.raise reason).worker = r.worker := rfl
  unfold itemsToCome
  rw [hf, hw]
  cases r.worker <;> cases r.flag.isRaised <;> simp

theorem itemsLeft_raise (reason : Text) (r : Running τ) :
    (r.raise reason).itemsLeft ≤ r.itemsLeft :=
  Nat.add_le_add_left (itemsToCome_raise reason r) _

/-- **No move makes items** that could not have come before. -/
theorem Transition.itemsLeft_le {r r' : Running τ} {signals : List (Signal τ)}
    (h : Transition r r' signals) (once : StopsOnce r) : r'.itemsLeft ≤ r.itemsLeft := by
  cases h with
  | pull b rest hw hs =>
    cases hf : r.flag.isRaised <;> simp [itemsLeft, itemsToCome, hw, hf, hs]
  | exhaust v hw hs =>
    cases hf : r.flag.isRaised <;> simp [itemsLeft, itemsToCome, hw, hf, hs]
  | offer b hw hf | giveUp b hw hf =>
    cases hwk : r.worker <;> simp_all [itemsLeft, itemsToCome, Worker.inHand]
  | refuse b hw =>
    cases hf : r.flag.isRaised <;> cases hwk : r.worker <;>
      simp_all [itemsLeft, itemsToCome, Worker.inHand]
  | put b hw hroom =>
    cases hf : r.flag.isRaised <;>
      · simp only [itemsLeft, itemsToCome, hw, hf, List.length_append, List.length_singleton]
        omega
  | shut v fault hw => simp [itemsLeft, itemsToCome, hw]
  | report v hw hroom => simp [itemsLeft, itemsToCome, hw]
  | swerve batches ending h =>
    -- An engine that has been told to stop has no more say in what comes.
    have hf := once.raised h
    cases hw : r.worker <;> simp [itemsLeft, itemsToCome, hf, hw]
  | raise | interrupt | timeout | abandon => exact itemsLeft_raise _ r
  | take item rest hc hch | drain b rest hc hch | drained v rest hc hch =>
    simp only [itemsLeft, hch, List.length_cons]
    exact Nat.add_le_add_right (Nat.le_succ _) _
  | _ => exact Nat.le_refl _

theorem Live.itemsLeft_steps [Timescale τ] {r : Running τ} (l : Live r) (ms : List (Move τ)) :
    (r.steps ms).1.itemsLeft ≤ r.itemsLeft := by
  refine (steps_invariant (P := fun r' _ => Live r' ∧ r'.itemsLeft ≤ r.itemsLeft)
    ⟨l, Nat.le_refl _⟩ ?_ ms).2
  intro r' past r'' signals t h
  exact ⟨h.1.transition t, Nat.le_trans (t.itemsLeft_le h.1.once) h.2⟩

/-! ## The moves that are left -/

/-- **The moves that the control can still make**, at the most. -/
def movesLeft (s : Surroundings τ) (r : Running τ) : Nat :=
  4 * (s.waits.length + r.itemsLeft) + r.control.movesLeft

/-- There are always enough moves. -/
theorem movesLeft_lt_enoughMoves (s : Surroundings τ) (r : Running τ) :
    movesLeft s r < r.enoughMoves s := by
  have hcontrol : r.control.movesLeft ≤ 3 := by
    cases r.control <;> simp [Control.movesLeft]
  have hitems := r.itemsToCome_le
  unfold movesLeft enoughMoves itemsLeft
  omega

/-- A wait that is over without an item costs a round at most. -/
theorem movesLeft_received (s : Surroundings τ) (r : Running τ) :
    movesLeft s (r.received none) ≤ movesLeft s r + 3 := by
  unfold received
  cases hc : r.control <;>
    simp [movesLeft, itemsLeft, itemsToCome, hc, Control.movesLeft]

theorem movesLeft_raise (s : Surroundings τ) (reason : Text) (r : Running τ) :
    movesLeft s (r.raise reason) ≤ movesLeft s r := by
  have hitems := Nat.add_le_add_left (itemsLeft_raise reason r) s.waits.length
  exact Nat.add_le_add_right (Nat.mul_le_mul_left 4 hitems) _

theorem isWaiting_congr {r r' : Running τ} (h : r'.control = r.control) :
    r'.isWaiting = r.isWaiting := by
  unfold isWaiting
  rw [h]

section Moves

variable [Timescale τ] (s : Surroundings τ) {r : Running τ}

/-- An item that comes out of the channel makes them fewer. -/
theorem movesLeft_take (hw : r.isWaiting = true) (hch : r.channel ≠ []) :
    movesLeft s (r.step .take).1 < movesLeft s r := by
  obtain ⟨item, rest, hitem⟩ := List.exists_cons_of_ne_nil hch
  have htake : (r.step .take).1 = { r with channel := rest }.received (some item) := by
    simp only [step, hw, if_true, hitem, closing_fst]
  rw [htake]
  revert hw
  unfold isWaiting received
  cases hc : r.control <;> intro hw
  case waiting =>
    simp only [movesLeft, itemsLeft, itemsToCome, hitem, hc, Control.movesLeft, List.length_cons]
    omega
  case draining =>
    cases item <;> simp [movesLeft, itemsLeft, itemsToCome, hitem, hc, Control.movesLeft]
  all_goals cases hw

/-- What the other parties do makes them no more. -/
theorem movesLeft_interludes (l : Live r) (is : List Interlude) :
    movesLeft s (r.steps (is.map Interlude.move)).1 ≤ movesLeft s r := by
  unfold movesLeft
  rw [(steps_interludes is r).2]
  have hitems := l.itemsLeft_steps (is.map Interlude.move)
  omega

/-- Neither does a worker that works ahead. -/
theorem movesLeft_workAhead (l : Live r) (fuel : Nat) :
    movesLeft s (workAhead fuel r) ≤ movesLeft s r := by
  obtain ⟨is, his⟩ := workAhead_eq fuel r
  rw [his]
  exact movesLeft_interludes s l is

theorem workAhead_control (fuel : Nat) (r : Running τ) :
    (workAhead fuel r).control = r.control := by
  obtain ⟨is, his⟩ := workAhead_eq fuel r
  rw [his]
  exact (steps_interludes is r).2

/-- **The item that the worker brings** to a control that waits makes them fewer. -/
theorem movesLeft_take_workAhead (l : Live r) (hw : r.isWaiting = true) :
    (workAhead stepsToItem r).channel ≠ [] ∧
      movesLeft s ((workAhead stepsToItem r).step .take).1 < movesLeft s r := by
  have hitem : (workAhead stepsToItem r).channel ≠ [] := by
    by_cases hch : r.channel = []
    · refine workAhead_channel l.capacity (worker_of_isWaiting l.orderly hw hch) ?_
        (Worker.stepsLeft_le _)
      rintro ⟨⟨-, -, hblocked⟩, hstops⟩
      have := l.unblocked hblocked
      omega
    · rwa [workAhead_of_channel hch]
  have hwait := (isWaiting_congr (workAhead_control stepsToItem r)).trans hw
  exact ⟨hitem, Nat.lt_of_lt_of_le (movesLeft_take s hwait hitem) (movesLeft_workAhead s l _)⟩

/-- **A wait lowers the count.**  It uses up a wait that is laid down; when none
    is left, it brings an item. -/
theorem movesLeft_wait (l : Live r) (hw : r.isWaiting = true) :
    movesLeft (r.wait s).1 (r.wait s).2.1 < movesLeft s r := by
  cases hs : s.waits with
  | nil =>
    obtain ⟨hitem, htake⟩ := movesLeft_take_workAhead s l hw
    have hsame : ({ s with waits := [] } : Surroundings τ) = s := by rw [← hs]
    simp only [wait, hs, List.isEmpty_iff, if_neg hitem, hsame]
    exact htake
  | cons first rest =>
    have hrest (r' : Running τ) :
        movesLeft { s with waits := rest } r' + 4 = movesLeft s r' := by
      simp only [movesLeft, hs, List.length_cons]
      omega
    have hempty (r' : Running τ) (hr' : movesLeft s r' ≤ movesLeft s r) :
        movesLeft { s with waits := rest } (r'.received none) < movesLeft s r := by
      have := movesLeft_received s r'
      have := hrest (r'.received none)
      omega
    cases first with
    | item =>
      simp only [wait, hs]
      split
      case isTrue => exact hempty _ (movesLeft_workAhead s l _)
      case isFalse =>
        have := (movesLeft_take_workAhead s l hw).2
        have := hrest ((workAhead stepsToItem r).step .take).1
        omega
    | empty =>
      simp only [wait, hs]
      exact hempty r (Nat.le_refl _)
    | interrupt =>
      simp only [wait, hs, step]
      split
      case h_1 => exact hempty _ (movesLeft_raise s interruptReason r)
      case h_2 =>
        have hless := hrest r
        dsimp only
        omega

theorem Live.advance (l : Live r) : Live (r.advance s).2.1 := by
  obtain ⟨is, m, hadv⟩ := advance_eq s r
  rw [hadv]
  exact (l.steps _).transition (step_transition _ m)

/-- The control's moves between two waits bring it nearer to the next one. -/
theorem movesLeft_checkTime {item : Option Item} (hc : r.control = .timing item) (now : τ) :
    (r.step (.checkTime now)).1.control.movesLeft < r.control.movesLeft := by
  simp [step, hc, Control.movesLeft]

theorem movesLeft_observe {item : Option Item} (hc : r.control = .observing item) :
    (r.step .observe).1.control.movesLeft < r.control.movesLeft := by
  simp only [step, hc]
  split <;> simp [Control.movesLeft]

theorem movesLeft_handle {item : Option Item} (hc : r.control = .handling item) (now : τ) :
    (r.step (.handle now)).1.control.movesLeft < r.control.movesLeft := by
  match item with
  | none | some (.finished v) => simp [step, handle, hc, Control.movesLeft]
  | some (.batch b) =>
    simp only [step, handle, hc]
    split <;> simp [Control.movesLeft]

/-- A move that is no wait lowers the count if it brings the control nearer to one. -/
theorem movesLeft_step (l : Live r) (m : Move τ)
    (hm : (r.step m).1.control.movesLeft < r.control.movesLeft) :
    movesLeft s (r.step m).1 < movesLeft s r := by
  have hitems := (step_transition r m).itemsLeft_le l.once
  unfold movesLeft
  omega

/-- **Every move of the control lowers the count.** -/
theorem movesLeft_advance (l : Live r) (hr : r.isAtRest = false) :
    movesLeft (r.advance s).1 (r.advance s).2.1 < movesLeft s r := by
  obtain ⟨-, hcontrol⟩ := steps_interludes (s.interludes s.moves) r
  have hothers := movesLeft_interludes s l (s.interludes s.moves)
  have hl := l.steps ((s.interludes s.moves).map Interlude.move)
  unfold advance interlude
  dsimp only
  generalize (r.steps ((s.interludes s.moves).map Interlude.move)).1 = r' at *
  have hmove (s' : Surroundings τ) (m : Move τ) (hs : s'.waits = s.waits)
      (hm : (r'.step m).1.control.movesLeft < r'.control.movesLeft) :
      movesLeft s' (r'.step m).1 < movesLeft s r := by
    have hstep := movesLeft_step s hl m hm
    unfold movesLeft at *
    rw [hs]
    omega
  split
  case h_1 hc | h_2 hc =>
    have hwait : r'.isWaiting = true := by
      unfold isWaiting
      rw [hc]
    exact Nat.lt_of_lt_of_le (movesLeft_wait _ hl hwait) hothers
  case h_3 item hc => exact hmove _ _ (by split <;> rfl) (movesLeft_checkTime hc _)
  case h_4 item hc => exact hmove _ _ rfl (movesLeft_observe hc)
  case h_5 v hc => exact hmove _ _ rfl (movesLeft_handle hc _)
  case h_6 item hv hc => exact hmove _ _ rfl (movesLeft_handle hc _)
  case h_7 hc | h_8 hc =>
    -- The control is at rest, and so it was before.
    unfold isAtRest at hr
    rw [← hcontrol, hc] at hr
    cases hr

/-- So a statement stays live behind a move, and has fewer of them left. -/
theorem Live.of_advance (l : Live r) (hr : r.isAtRest = false) {s' : Surroundings τ}
    {r' : Running τ} {signals : List (Signal τ)} (hadv : r.advance s = (s', r', signals)) :
    Live r' ∧ movesLeft s' r' < movesLeft s r := by
  have hlive := l.advance s
  have hless := movesLeft_advance s l hr
  rw [hadv] at hlive hless
  exact ⟨hlive, hless⟩

end Moves

/-! ## The way to the end -/

section Ending

variable [Timescale τ] {r : Running τ}

/-- The worker brings an item to a control that waits, and the control takes it. -/
theorem Live.nearer_of_isWaiting (s : Surroundings τ) (l : Live r) (hw : r.isWaiting = true) :
    ∃ ms : List (Move τ), (∀ m ∈ ms, m.goesOn = true) ∧
      movesLeft s (r.steps ms).1 < movesLeft s r := by
  obtain ⟨n, hn⟩ := workAhead_eq_work stepsToItem r
  have htake := (movesLeft_take_workAhead s l hw).2
  refine ⟨List.replicate n .work ++ [.take], ?_, ?_⟩
  · intro m hm
    rcases List.mem_append.1 hm with hm | hm
    · rw [List.eq_of_mem_replicate hm]
      rfl
    · rw [List.mem_singleton.1 hm]
      rfl
  · rwa [steps_append, steps_singleton, ← hn]

/-- **A live statement that has not ended gets nearer to its end.** -/
theorem Live.nearer (s : Surroundings τ) (l : Live r) (hc : r.control ≠ .finished) :
    ∃ ms : List (Move τ), (∀ m ∈ ms, m.goesOn = true) ∧
      movesLeft s (r.steps ms).1 < movesLeft s r := by
  have hone (m : Move τ) (hgoes : m.goesOn = true)
      (hm : (r.step m).1.control.movesLeft < r.control.movesLeft) :
      ∃ ms : List (Move τ), (∀ m ∈ ms, m.goesOn = true) ∧
        movesLeft s (r.steps ms).1 < movesLeft s r := by
    refine ⟨[m], by simpa using hgoes, ?_⟩
    rw [steps_singleton]
    exact movesLeft_step s l m hm
  cases hcontrol : r.control with
  | waiting | draining =>
    apply l.nearer_of_isWaiting s
    simp [isWaiting, hcontrol]
  | timing item => exact hone (.checkTime r.start) rfl (movesLeft_checkTime hcontrol _)
  | observing item => exact hone .observe rfl (movesLeft_observe hcontrol)
  | handling item => exact hone (.handle r.start) rfl (movesLeft_handle hcontrol _)
  | yielded =>
    -- The consumer asks for the next event, and the control waits for an item.
    have hresumed : (r.step .resume).1 = { r with control := .waiting } := by
      simp [step, hcontrol]
    have hsame : movesLeft s (r.step .resume).1 = movesLeft s r := by
      rw [hresumed]
      simp [movesLeft, itemsLeft, itemsToCome, hcontrol, Control.movesLeft]
    have hwaiting : (r.step .resume).1.isWaiting = true := by
      rw [hresumed]
      rfl
    obtain ⟨ms, hgoes, hless⟩ :=
      (l.transition (step_transition r .resume)).nearer_of_isWaiting s hwaiting
    refine ⟨.resume :: ms, ?_, ?_⟩
    · simpa [Move.goesOn] using hgoes
    · rw [← hsame]
      exact hless
  | finished => exact absurd hcontrol hc

/-- **A live statement can be brought to its end** by moves that go on. -/
theorem Live.exists_finished (l : Live r) :
    ∃ ms : List (Move τ), (∀ m ∈ ms, m.goesOn = true) ∧ (r.steps ms).1.control = .finished := by
  -- In any surroundings each round makes the moves fewer that are left.
  have s : Surroundings τ := { reading := fun _ => r.start }
  induction hn : movesLeft s r using Nat.strongRecOn generalizing r with
  | ind n ih =>
    by_cases hc : r.control = .finished
    · exact ⟨[], nofun, hc⟩
    obtain ⟨ms, hgoes, hless⟩ := l.nearer s hc
    obtain ⟨ms', hgoes', hfinished⟩ := ih _ (hn ▸ hless) (l.steps ms) rfl
    refine ⟨ms ++ ms', ?_, ?_⟩
    · intro m hm
      exact (List.mem_append.1 hm).elim (hgoes m) (hgoes' m)
    · rwa [steps_append]

end Ending

end Running

end SqlShell
