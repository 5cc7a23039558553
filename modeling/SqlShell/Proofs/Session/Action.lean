import SqlShell.Session.Events

/-! # Actions of the Shell

    Postconditions of actions, and frames.

    - `Ensures` says how an action ends from a state, early or not, and what
      the shell is like then;
    - `Returns` says what it leads to if it does not end early;
    - `Keeps` says that an action leaves a view of the shell as it was;
    - `Console.printed` is the view that a user has of an output;
    - `ensures_attend_succ` says what one move of a statement leads to. -/

namespace SqlShell

namespace Shell

variable {α β γ : Type}

/-! ## Postconditions -/

/-- **What an action leads to** from a state of the shell: `Q` holds of the way
    in which it ends and of the shell afterwards. -/
def Ensures (action : ShellM α) (shell : Shell) (Q : Except Exit α → Shell → Prop) : Prop :=
  match action shell with
  | .ok a shell => Q (.ok a) shell
  | .error e shell => Q (.error e) shell

section Ensures

variable {shell shell' : Shell} {action : ShellM α} {Q Q' : Except Exit α → Shell → Prop}

theorem Ensures.mono (h : Ensures action shell Q) (hQ : ∀ ended shell, Q ended shell →
    Q' ended shell) : Ensures action shell Q' := by
  revert h
  unfold Ensures
  split <;> exact hQ _ _

theorem Ensures.and (h : Ensures action shell Q) (h' : Ensures action shell Q') :
    Ensures action shell fun ended shell => Q ended shell ∧ Q' ended shell := by
  revert h h'
  unfold Ensures
  split <;> exact And.intro

/-- An action does the next one unless it ends early. -/
theorem ensures_bind {next : α → ShellM β} {Q : Except Exit β → Shell → Prop} :
    Ensures (action >>= next) shell Q ↔ Ensures action shell fun ended shell =>
      match ended with
      | .ok a => Ensures (next a) shell Q
      | .error e => Q (.error e) shell := by
  simp only [Ensures, bind, EStateM.bind]
  cases action shell <;> rfl

@[simp] theorem ensures_pure (a : α) : Ensures (pure a) shell Q ↔ Q (.ok a) shell := Iff.rfl

@[simp] theorem ensures_throw (e : Exit) : Ensures (throw e) shell Q ↔ Q (.error e) shell :=
  Iff.rfl

@[simp] theorem ensures_get {Q : Except Exit Shell → Shell → Prop} :
    Ensures get shell Q ↔ Q (.ok shell) shell := Iff.rfl

@[simp] theorem ensures_set {Q : Except Exit PUnit → Shell → Prop} :
    Ensures (set shell') shell Q ↔ Q (.ok ⟨⟩) shell' := Iff.rfl

@[simp] theorem ensures_modify {f : Shell → Shell} {Q : Except Exit PUnit → Shell → Prop} :
    Ensures (modify f) shell Q ↔ Q (.ok ⟨⟩) (f shell) := Iff.rfl

@[simp] theorem ensures_modifyGet {f : Shell → α × Shell} :
    Ensures (modifyGet f) shell Q ↔ Q (.ok (f shell).1) (f shell).2 := Iff.rfl

/-- An attempt tells how its action has ended. -/
@[simp] theorem ensures_attempt {Q : Except Exit (Except Exit α) → Shell → Prop} :
    Ensures (attempt action) shell Q ↔
      Ensures action shell fun ended shell => Q (.ok ended) shell := by
  simp only [Ensures, attempt]
  cases action shell <;> rfl

end Ensures

/-! ## Actions that return -/

/-- **If an action returns**, `Q` holds of what it returns and of the shell then. -/
def Returns (action : ShellM α) (shell : Shell) (Q : α → Shell → Prop) : Prop :=
  ∀ a after, action shell = .ok a after → Q a after

section Returns

variable {shell : Shell} {action : ShellM α} {Q : α → Shell → Prop}

theorem Ensures.returns {P : Except Exit α → Shell → Prop} (h : Ensures action shell P)
    (hQ : ∀ a after, P (.ok a) after → Q a after) : Returns action shell Q := by
  intro a after hok
  refine hQ a after ?_
  simpa only [Ensures, hok] using h

theorem returns_pure {a : α} (h : Q a shell) : Returns (pure a) shell Q := by
  intro b after hok
  have hok : EStateM.Result.ok a shell = .ok b after := hok
  cases hok
  exact h

theorem returns_throw (e : Exit) : Returns (throw e) shell Q := by
  intro a after hok
  have hok : EStateM.Result.error e shell = .ok a after := hok
  cases hok

theorem Returns.bind {next : α → ShellM β} {Q' : β → Shell → Prop} (h : Returns action shell Q)
    (h' : ∀ a after, Q a after → Returns (next a) after Q') :
    Returns (action >>= next) shell Q' := by
  intro b last hok
  simp only [Bind.bind, EStateM.bind] at hok
  split at hok
  case h_1 a after ha => exact h' a after (h a after ha) b last hok
  case h_2 => cases hok

theorem Ensures.bind_returns {P : Except Exit α → Shell → Prop} {next : α → ShellM β}
    {Q' : β → Shell → Prop} (h : Ensures action shell P)
    (h' : ∀ a after, P (.ok a) after → Returns (next a) after Q') :
    Returns (action >>= next) shell Q' :=
  (h.returns fun _ _ => id).bind h'

/-- **An action returns and passes a test**, which can be run. -/
def passes (action : ShellM α) (shell : Shell) (test : α → Shell → Bool) : Bool :=
  match action shell with
  | .ok a after => test a after
  | .error _ _ => false

theorem exists_of_passes (action : ShellM α) (shell : Shell) (test : α → Shell → Bool)
    (h : passes action shell test = true) :
    ∃ a after, action shell = .ok a after ∧ test a after = true := by
  unfold passes at h
  split at h
  case h_1 a after ha => exact ⟨a, after, ha, h⟩
  case h_2 => cases h

theorem returns_get {next : Shell → ShellM β} {Q' : β → Shell → Prop}
    (h : Returns (next shell) shell Q') : Returns (get >>= next) shell Q' := h

end Returns

/-! ## Frames -/

/-- **An action keeps a view** of the shell, however it ends. -/
def Keeps (view : Shell → γ) (action : ShellM α) : Prop :=
  ∀ shell, Ensures action shell fun _ shell' => view shell' = view shell

section Keeps

variable {view : Shell → γ} {action : ShellM α}

theorem keeps_pure (a : α) : Keeps view (pure a : ShellM α) := fun _ => rfl

theorem keeps_throw (e : Exit) : Keeps view (throw e : ShellM α) := fun _ => rfl

theorem keeps_get : Keeps view (get : ShellM Shell) := fun _ => rfl

theorem keeps_modify {f : Shell → Shell} (h : ∀ shell, view (f shell) = view shell) :
    Keeps view (modify f : ShellM PUnit) := h

theorem keeps_modifyGet {f : Shell → α × Shell} (h : ∀ shell, view (f shell).2 = view shell) :
    Keeps view (modifyGet f : ShellM α) := h

theorem Keeps.bind {next : α → ShellM β} (h : Keeps view action)
    (h' : ∀ a, Keeps view (next a)) : Keeps view (action >>= next) := by
  intro shell
  rw [ensures_bind]
  refine (h shell).mono ?_
  intro ended shell₁ h₁
  -- An action that ends early leaves the next one out.
  cases ended with
  | ok a => exact (h' a shell₁).mono fun _ _ h₂ => h₂.trans h₁
  | error e => exact h₁

theorem Keeps.attempt (h : Keeps view action) : Keeps view (attempt action) := fun shell =>
  ensures_attempt.2 (h shell)

end Keeps

/-! ## What shows on an output -/

end Shell

/-- The text that an entry shows on an output, if it writes one there. -/
def Entry.printed? (c : Channel) : Entry → Option Text
  | .written c' text => if c' = c then some text else none
  | _ => none

namespace Console

/-- **The texts written to each output**, in order. -/
def printed (k : Console) (c : Channel) : List Text := k.entries.filterMap (Entry.printed? c)

theorem printed_congr {k k' : Console} (h : k'.transcript = k.transcript) :
    k'.printed = k.printed := by
  funext c
  rw [printed, printed, entries, entries, h]

theorem printed_enter (e : Entry) (k : Console) (c : Channel) :
    (k.enter e).printed c = k.printed c ++ (e.printed? c).toList := by
  cases h : e.printed? c <;> simp [printed, entries, enter, h]

/-- Nothing is printed by an entry that is no text. -/
theorem printed_enter_of_none {e : Entry} (h : ∀ c, e.printed? c = none) (k : Console) :
    (k.enter e).printed = k.printed := by
  funext c
  simp [printed_enter, h]

theorem transcript_setSink (c : Channel) (s : Sink) (k : Console) :
    (k.setSink c s).transcript = k.transcript := by
  cases c <;> rfl

/-- A text that is written shows on its output, and one that is not does not. -/
theorem printed_put (c : Channel) (text : Text) (k : Console) (c' : Channel) :
    (k.put c text).2.printed c'
      = k.printed c' ++ if (k.put c text).1 = none ∧ c = c' then [text] else [] := by
  cases h : (k.sink c).writeFault (k.sink c).writes with
  | none =>
    simp only [put, h, printed_enter, printed_congr (transcript_setSink _ _ _)]
    by_cases hc : c = c' <;> simp [Entry.printed?, hc]
  | some f =>
    simp only [put, h, printed_enter, printed_congr (transcript_setSink _ _ _)]
    simp [Entry.printed?]

theorem printed_flush (c : Channel) (k : Console) : (k.flush c).2.printed = k.printed := by
  cases h : (k.sink c).flushFault (k.sink c).flushes with
  | none =>
    simp only [flush, h]
    exact printed_congr (transcript_setSink _ _ _)
  | some f =>
    simp only [flush, h]
    rw [printed_enter_of_none fun _ => rfl]
    exact printed_congr (transcript_setSink _ _ _)

theorem transcript_complain (f : SinkFault) (k : Console) :
    (k.complain f).2.transcript = k.transcript := by
  unfold complain
  split
  · rfl
  · dsimp only
    split <;> rfl

theorem printed_complain (f : SinkFault) (k : Console) : (k.complain f).2.printed = k.printed :=
  printed_congr (transcript_complain f k)

/-- Notices are not printed. -/
theorem printed_note (n : Notice) (k : Console) : (k.note n).2.printed = k.printed := by
  have noted (echoed : Bool) (k' : Console) (h : k'.transcript = k.transcript) :
      (k'.enter (.noted n echoed)).printed = k.printed :=
    (printed_enter_of_none (fun _ => rfl) k').trans (printed_congr h)
  unfold note
  split
  case isFalse => exact noted false k rfl
  case isTrue =>
    dsimp only
    split
    case h_1 f _ => exact (printed_complain f _).trans (noted false _ rfl)
    -- It shows on the error output as a notice, not as a text of the shell.
    case h_2 =>
      have flushed := (printed_flush .err _).trans (noted true
        { k with err := { k.err with writes := k.err.writes + 1 } } rfl)
      split
      case h_1 f k' hk =>
        rw [hk] at flushed
        exact (printed_complain f k').trans flushed
      case h_2 k' hk =>
        rw [hk] at flushed
        exact flushed

end Console

/-! ## Small actions -/

namespace Shell

/-- **What a user can tell of a shell** besides the state of its statement: what
    has been printed, and the session. -/
def face (shell : Shell) : (Channel → List Text) × Session :=
  (shell.console.printed, shell.session)

variable {γ : Type} {view : Shell → γ}

/-- An action on the console keeps a view that does not see what it does. -/
theorem keeps_enter (e : Entry) (h : ∀ shell : Shell,
    view { shell with console := shell.console.enter e } = view shell) : Keeps view (enter e) :=
  keeps_modify h

theorem keeps_note (n : Notice) (h : ∀ shell : Shell,
    view { shell with console := (shell.console.note n).2 } = view shell) :
    Keeps view (note n) := by
  refine (keeps_modifyGet h).bind ?_
  intro fault
  split
  · exact keeps_pure _
  · exact keeps_throw _
  · exact keeps_throw _

theorem keeps_flush (h : ∀ (c : Channel) (shell : Shell),
    view { shell with console := (shell.console.flush c).2 } = view shell) : Keeps view flush := by
  have hsink (c : Channel) : Keeps view (flushSink c) := by
    refine (keeps_modifyGet fun shell => h c shell).bind ?_
    intro fault
    split
    · exact keeps_pure _
    · exact keeps_throw _
  exact (hsink .out).bind fun _ => hsink .err

section Writing

variable {c : Channel} (hput : ∀ text, Keeps view (put c text))

include hput

theorem keeps_write (text : Text) : Keeps view (write c text) := by
  refine (hput text).bind ?_
  intro fault
  split
  · exact keeps_pure _
  · exact keeps_throw _

theorem keeps_writeAll (texts : List Text) : Keeps view (writeAll c texts) := by
  induction texts with
  | nil => exact keeps_pure _
  | cons text rest ih => exact (keeps_write hput text).bind fun _ => ih

end Writing

/-- **A write** adds its text to its output, unless it fails. -/
theorem ensures_put (c : Channel) (text : Text) (shell : Shell) :
    Ensures (put c text) shell fun ended shell' => ∃ fault,
      ended = .ok fault ∧ shell'.source = shell.source ∧ shell'.session = shell.session ∧
      ∀ c', shell'.console.printed c' = shell.console.printed c' ++
        if fault = none ∧ c = c' then [text] else [] :=
  ⟨_, rfl, rfl, rfl, Console.printed_put c text shell.console⟩

/-! ## Moves of a statement -/

section Attending

variable {last : Running Binary64 → ShellM (Reply Binary64)} {fuel : Nat} {r : Running Binary64}
  {shell : Shell} {Q : Except Exit (Reply Binary64) → Shell → Prop}

/-- A control that is at rest is not attended to any more. -/
theorem attend_of_isAtRest (hrest : r.isAtRest = true) :
    attend last fuel r = pure .exhausted := by
  unfold attend
  rw [if_pos hrest]

theorem attend_zero (hrest : r.isAtRest = false) : attend last 0 r = last r := by
  simp [attend, hrest]

/-- **One move of the control.** Either it breaks down over its look at the clock, or
    the move is made and the notices of it are given. With an event in it that is the
    reply, and otherwise the control goes on. A notice that cannot be given ends the
    statement. -/
theorem ensures_attend_succ (hrest : r.isAtRest = false)
    (hbreak : ∀ c, r.checkFault? shell.surroundings = some c → Ensures (failCheck c) shell Q)
    (hmove : ∀ around r' signals, r.checkFault? shell.surroundings = none →
      r.advance shell.surroundings = (around, r', signals) →
      Ensures (signalAll signals)
        { shell with surroundings := around, source := .execution (.running r') }
        fun told after => match told with
          | .error e => Ensures (closeEvents >>= fun _ => throw e) after Q
          | .ok () => match eventOf? signals with
            | some e => Q (.ok (.event e)) after
            | none => Ensures (attend last fuel r') after Q) :
    Ensures (attend last (fuel + 1) r) shell Q := by
  unfold attend
  rw [if_neg (by simp [hrest])]
  dsimp only
  rw [ensures_bind, ensures_get]
  dsimp only
  split
  case h_1 c hc => exact hbreak c hc
  case h_2 hnone =>
    rw [ensures_bind, advance, ensures_modifyGet]
    rcases hadv : r.advance shell.surroundings with ⟨around, r', signals⟩
    dsimp only
    rw [ensures_bind, ensures_attempt]
    refine (hmove around r' signals hnone hadv).mono ?_
    intro told after htold
    cases told with
    | error e => exact htold
    | ok =>
      cases he : eventOf? signals with
      | some e => simpa only [he, ensures_pure] using htold
      | none => simpa only [he] using htold

end Attending

end Shell

end SqlShell
