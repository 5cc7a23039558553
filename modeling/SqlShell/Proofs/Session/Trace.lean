import SqlShell.Proofs.Execution.Completion
import SqlShell.Proofs.Session.Ledger

/-! # The Trace of a Session

    What an action adds to the transcript when any write and any flush may fail.

    * **Kinds of entries**: faults, the milestones of a statement and of the end
      of a session, and the entries that tell whether the shell is in the course
      of a statement.
    * **`Console.GivesNotices`**: no notice is lost, so that only the texts of
      the shell can meet with a fault.
    * **`Shell.Murmurs`**: only the transcript has grown, and nothing has been
      written. -/

namespace SqlShell

/-! ## Kinds of entries -/

/-- The fault of an output that an entry tells of. -/
def Entry.fault? : Entry → Option SinkFault
  | .unwritten _ f | .unflushed _ f => some f
  | _ => none

/-- A text that the user has struck off by an interruption. -/
def Entry.isStruck : Entry → Bool
  | .unwritten _ .interrupt => true
  | _ => false

/-- **The milestones** of a statement and of the end of a session. -/
def Entry.isMilestone : Entry → Bool
  | .recorded _ | .offered _ | .submitted _ | .executed _ | .saved _ | .engineClosed
  | .inputClosed => true
  | _ => false

/-- No text is written, and no output fails. -/
def Entry.isSilent : Entry → Bool
  | .written _ _ | .unwritten _ _ | .unflushed _ _ => false
  | _ => true

/-- Whether a notice takes the shell into the course of a statement or out of it. -/
def Notice.presents? : Notice → Option Bool
  | .phase _ .dispatching | .unexpected => some false
  | _ => none

/-- **Whether an entry takes the shell into the course of a statement** or out of
    it; most of them do neither. -/
def Entry.presents? : Entry → Option Bool
  | .recorded _ => some true
  | .asked _ => some false
  | .noted n _ => n.presents?
  | _ => none

/-- **The shell is in the course of a statement** after some entries: the
    statement has been recorded, nothing has been asked for since, and the shell
    has not turned to another request or met with a breakdown. -/
def isPresenting (entries : List Entry) : Bool :=
  (entries.filterMap Entry.presents?).getLast?.getD false

theorem isPresenting_append (l l' : List Entry) :
    isPresenting (l ++ l') = ((l'.filterMap Entry.presents?).getLast?).getD (isPresenting l) := by
  rw [isPresenting, List.filterMap_append, List.getLast?_append]
  cases (l'.filterMap Entry.presents?).getLast? <;> rfl

/-- Entries that change nothing about it. -/
theorem isPresenting_append_of_none {l l' : List Entry} (h : ∀ e ∈ l', e.presents? = none) :
    isPresenting (l ++ l') = isPresenting l := by
  rw [isPresenting_append, List.filterMap_eq_nil_iff.2 h]
  rfl

theorem isPresenting_concat {l : List Entry} {e : Entry} {b : Bool} (h : e.presents? = some b) :
    isPresenting (l ++ [e]) = b := by
  simp [isPresenting_append, h]

theorem Entry.fault?_of_isSilent {e : Entry} (h : e.isSilent = true) : e.fault? = none := by
  cases e <;> first | rfl | cases h

theorem Entry.fault?_of_isStruck {e : Entry} (h : e.isStruck = true) :
    e.fault? = some .interrupt := by
  unfold Entry.isStruck at h
  split at h
  case h_1 => rfl
  case h_2 => cases h

/-! ## Outputs that may fail -/

namespace Console

variable {k : Console}

/-- **What never changes of a console**: which writes and flushes fail, and
    whether notices show. -/
def nature (k : Console) : (Channel → (Nat → Option SinkFault) × (Nat → Option SinkFault)) × Bool :=
  (fun c => ((k.sink c).writeFault, (k.sink c).flushFault), k.echoesNotices)

/-- **An entry is no fault**, or a fault of an output as it is. -/
def Allows (k : Console) : Entry → Prop
  | .unwritten c f => ∃ n, (k.sink c).writeFault n = some f
  | .unflushed c f => ∃ n, (k.sink c).flushFault n = some f
  | _ => True

/-- **Notices are given**: if they show, the error output does not fail. -/
def GivesNotices (k : Console) : Prop := k.echoesNotices = true → k.err.IsFaultless

theorem allows_congr {k' : Console} (h : k'.nature = k.nature) (e : Entry) :
    k'.Allows e ↔ k.Allows e := by
  have hsink (c : Channel) : (k'.sink c).writeFault = (k.sink c).writeFault ∧
      (k'.sink c).flushFault = (k.sink c).flushFault :=
    Prod.mk.inj (congrFun (congrArg Prod.fst h) c)
  cases e with
  | unwritten c f => simp only [Allows, (hsink c).1]
  | unflushed c f => simp only [Allows, (hsink c).2]
  | _ => rfl

theorem allows_of_fault? {e : Entry} (h : e.fault? = none) : k.Allows e := by
  cases e with
  | unwritten | unflushed => cases h
  | _ => trivial

/-- Whether an output fails is part of the nature of its console. -/
theorem sink_isFaultless_congr {k' : Console} (h : k'.nature = k.nature) (c : Channel) :
    (k'.sink c).IsFaultless ↔ (k.sink c).IsFaultless := by
  obtain ⟨hwrite, hflush⟩ := Prod.mk.inj (congrFun (congrArg Prod.fst h) c)
  refine ⟨fun h => ⟨fun n => ?_, fun n => ?_⟩, fun h => ⟨fun n => ?_, fun n => ?_⟩⟩
  · rw [← hwrite, h.write]
  · rw [← hflush, h.flush]
  · rw [hwrite, h.write]
  · rw [hflush, h.flush]

theorem isFaultless_congr {k' : Console} (h : k'.nature = k.nature) :
    k'.IsFaultless ↔ k.IsFaultless :=
  ⟨fun hk => ⟨(sink_isFaultless_congr h .out).1 hk.out, (sink_isFaultless_congr h .err).1 hk.err⟩,
    fun hk => ⟨(sink_isFaultless_congr h .out).2 hk.out, (sink_isFaultless_congr h .err).2 hk.err⟩⟩

theorem givesNotices_congr {k' : Console} (h : k'.nature = k.nature) :
    k'.GivesNotices ↔ k.GivesNotices := by
  have hechoes : k'.echoesNotices = k.echoesNotices := congrArg Prod.snd h
  have herr : k'.err.IsFaultless ↔ k.err.IsFaultless := sink_isFaultless_congr h .err
  rw [GivesNotices, GivesNotices, hechoes, herr]

theorem IsFaultless.givesNotices (h : k.IsFaultless) : k.GivesNotices := fun _ => h.err

theorem nature_setSink {c : Channel} {s : Sink} (hwrite : s.writeFault = (k.sink c).writeFault)
    (hflush : s.flushFault = (k.sink c).flushFault) : (k.setSink c s).nature = k.nature := by
  refine Prod.ext (funext fun c' => ?_) ?_
  · cases c <;> cases c' <;> simp [nature, setSink, sink] at hwrite hflush ⊢ <;>
      exact ⟨hwrite, hflush⟩
  · cases c <;> rfl

/-- **A write** adds its text, or tells of the fault. -/
theorem put_eq (c : Channel) (text : Text) (k : Console) :
    (k.put c text).2.nature = k.nature ∧
      match (k.put c text).1 with
      | none => (k.put c text).2.entries = k.entries ++ [.written c text]
      | some f => (k.put c text).2.entries = k.entries ++ [.unwritten c f] ∧
          k.Allows (.unwritten c f) := by
  have hnature := nature_setSink (k := k) (c := c)
    (s := { k.sink c with writes := (k.sink c).writes + 1 }) rfl rfl
  have hsame := transcript_setSink c { k.sink c with writes := (k.sink c).writes + 1 } k
  have hentries (e : Entry) : ((k.setSink c { k.sink c with writes := (k.sink c).writes + 1 }).enter
      e).entries = k.entries ++ [e] := by
    rw [entries_enter, entries, hsame, entries]
  cases h : (k.sink c).writeFault (k.sink c).writes with
  | none =>
    simp only [put, h]
    exact ⟨hnature, hentries _⟩
  | some f =>
    simp only [put, h]
    exact ⟨hnature, hentries _, _, h⟩

/-- **A flush** adds nothing, or tells of the fault. -/
theorem flush_eq (c : Channel) (k : Console) :
    (k.flush c).2.nature = k.nature ∧
      match (k.flush c).1 with
      | none => (k.flush c).2.entries = k.entries
      | some f => (k.flush c).2.entries = k.entries ++ [.unflushed c f] ∧
          k.Allows (.unflushed c f) := by
  have hnature := nature_setSink (k := k) (c := c)
    (s := { k.sink c with flushes := (k.sink c).flushes + 1 }) rfl rfl
  have hsame := transcript_setSink c { k.sink c with flushes := (k.sink c).flushes + 1 } k
  cases h : (k.sink c).flushFault (k.sink c).flushes with
  | none =>
    simp only [flush, h]
    exact ⟨hnature, by rw [entries, hsame, entries]⟩
  | some f =>
    simp only [flush, h]
    refine ⟨hnature, ?_, _, h⟩
    rw [entries_enter, entries, hsame, entries]

/-- **A notice is given** if notices are. -/
theorem note_eq (h : k.GivesNotices) (n : Notice) :
    (k.note n).1 = none ∧ (k.note n).2.nature = k.nature ∧
      ∃ echoed, (k.note n).2.entries = k.entries ++ [.noted n echoed] := by
  cases he : k.echoesNotices with
  | false =>
    refine ⟨?_, ?_, false, ?_⟩
    · simp [note, he]
    · simp only [note, he]
      rfl
    · simp only [note, he]
      exact entries_enter _ k
  | true =>
    -- Showing the notice takes a write and a flush of the error output.
    have herr := h he
    refine ⟨?_, ?_, true, ?_⟩ <;>
      simp only [note, he, if_true, herr.write, Console.flush, sink, enter, herr.flush]
    · refine Prod.ext (funext fun c => ?_) he.symm
      cases c <;> rfl
    · simp [entries, setSink]

end Console

/-! ## Writes -/

namespace Shell

/-- **A write** leaves its text in the transcript, or the fault that keeps it from
    being written. -/
theorem traces_put (c : Channel) (text : Text) (shell : Shell) :
    Ensures (put c text) shell fun ended after => ∃ fault k, ended = .ok fault ∧
      after = { shell with console := k } ∧ k.nature = shell.console.nature ∧
      match fault with
      | none => k.entries = shell.console.entries ++ [.written c text]
      | some f => k.entries = shell.console.entries ++ [.unwritten c f] ∧
          shell.console.Allows (.unwritten c f) := by
  obtain ⟨hnature, hput⟩ := Console.put_eq c text shell.console
  rw [put, ensures_modifyGet]
  exact ⟨_, _, rfl, rfl, hnature, hput⟩

/-- **A flush** leaves nothing in the transcript but a fault. -/
theorem traces_flushSink (c : Channel) (shell : Shell) :
    Ensures (flushSink c) shell fun ended after => ∃ fault k,
      after = { shell with console := k } ∧ k.nature = shell.console.nature ∧
      match fault with
      | none => ended = Except.ok () ∧ k.entries = shell.console.entries
      | some f => ended = Except.error (exitOf f) ∧
          k.entries = shell.console.entries ++ [Entry.unflushed c f] ∧
          shell.console.Allows (Entry.unflushed c f) := by
  obtain ⟨hnature, hflush⟩ := Console.flush_eq c shell.console
  rw [flushSink, ensures_bind, ensures_modifyGet]
  dsimp only
  generalize shell.console.flush c = flushed at hnature hflush ⊢
  obtain ⟨fault, k⟩ := flushed
  cases fault with
  | none => exact ⟨none, k, rfl, hnature, rfl, hflush⟩
  | some f => exact ⟨some f, k, rfl, hnature, rfl, hflush⟩

end Shell

/-! ## Notices -/

namespace Shell

variable {shell after last : Shell} {miles miles' : List Entry}

/-- **Only the transcript has grown**, by silent entries with these milestones. -/
def Murmurs (miles : List Entry) (shell after : Shell) : Prop :=
  ∃ k more, after = { shell with console := k } ∧ k.nature = shell.console.nature ∧
    k.entries = shell.console.entries ++ more ∧
    (∀ e ∈ more, e.isSilent = true ∧ e.presents? = none) ∧
    more.filter Entry.isMilestone = miles

theorem murmurs_refl (shell : Shell) : Murmurs [] shell shell :=
  ⟨shell.console, [], rfl, rfl, (List.append_nil _).symm, nofun, rfl⟩

theorem Murmurs.trans (h : Murmurs miles shell after) (h' : Murmurs miles' after last) :
    Murmurs (miles ++ miles') shell last := by
  obtain ⟨k, more, rfl, hnature, hentries, hsilent, rfl⟩ := h
  obtain ⟨k', more', rfl, hnature', hentries', hsilent', rfl⟩ := h'
  refine ⟨k', more ++ more', rfl, hnature'.trans hnature, ?_, ?_, List.filter_append ..⟩
  · rw [hentries', hentries, List.append_assoc]
  · intro e he
    exact (List.mem_append.1 he).elim (hsilent e) (hsilent' e)

theorem Murmurs.givesNotices (h : Murmurs miles shell after)
    (hnotices : shell.console.GivesNotices) : after.console.GivesNotices := by
  obtain ⟨k, more, rfl, hnature, -⟩ := h
  exact (Console.givesNotices_congr hnature).2 hnotices

/-- **A notice is given**, if notices are. -/
theorem ensures_note (n : Notice) (hnotices : shell.console.GivesNotices) :
    Ensures (note n) shell fun ended after => ended = .ok () ∧
      ∃ k echoed, after = { shell with console := k } ∧ k.nature = shell.console.nature ∧
        k.entries = shell.console.entries ++ [.noted n echoed] := by
  obtain ⟨hnone, hnature, echoed, hentries⟩ := Console.note_eq hnotices n
  rw [note, ensures_bind, ensures_modifyGet]
  dsimp only
  rw [hnone]
  exact ⟨rfl, _, echoed, rfl, hnature, hentries⟩

theorem murmurs_note {n : Notice} (hn : n.presents? = none)
    (hnotices : shell.console.GivesNotices) :
    Ensures (note n) shell fun ended after => ended = .ok () ∧ Murmurs [] shell after := by
  refine (ensures_note n hnotices).mono ?_
  rintro ended after ⟨hended, k, echoed, hafter, hnature, hentries⟩
  refine ⟨hended, k, _, hafter, hnature, hentries, ?_, rfl⟩
  intro e he
  obtain rfl := List.mem_singleton.1 he
  exact ⟨rfl, hn⟩

/-- An entry that is silent. -/
theorem murmurs_enter {e : Entry} (hsilent : e.isSilent = true) (hpresents : e.presents? = none)
    (shell : Shell) : Ensures (enter e) shell fun ended after =>
      ended = .ok () ∧ Murmurs ([e].filter Entry.isMilestone) shell after := by
  refine ⟨rfl, _, [e], rfl, rfl, Console.entries_enter e _, ?_, rfl⟩
  intro e' he
  obtain rfl := List.mem_singleton.1 he
  exact ⟨hsilent, hpresents⟩

/-- Silent actions one after the other. -/
theorem Murmurs.bind {action : ShellM Unit} {next : Unit → ShellM Unit}
    (hnotices : shell.console.GivesNotices)
    (h : Ensures action shell fun ended after => ended = .ok () ∧ Murmurs miles shell after)
    (hnext : ∀ later : Shell, later.console.GivesNotices → Ensures (next ()) later
      fun ended after => ended = .ok () ∧ Murmurs miles' later after) :
    Ensures (action >>= next) shell fun ended after =>
      ended = .ok () ∧ Murmurs (miles ++ miles') shell after := by
  rw [ensures_bind]
  refine h.mono ?_
  rintro _ later ⟨rfl, hlater⟩
  refine (hnext later (hlater.givesNotices hnotices)).mono ?_
  rintro ended after ⟨hended, hafter⟩
  exact ⟨hended, hlater.trans hafter⟩

end Shell

/-! ## Signals -/

/-- The milestone that a signal is. -/
def Signal.milestone? {τ : Type} : Signal τ → Option Entry
  | .offered statement => some (.offered statement)
  | .submitted statement => some (.submitted statement)
  | .closed report => some (.executed report)
  | _ => none

theorem Notice.presents?_ofSignal? {s : Signal Binary64} {n : Notice}
    (h : Notice.ofSignal? s = some n) : n.presents? = none := by
  cases s <;> cases h <;> rfl

/-- The milestones of a move are the reports that it gives. -/
theorem Running.Transition.milestones {τ : Type} {r r' : Running τ} {signals : List (Signal τ)}
    (h : Running.Transition r r' signals) : signals.filterMap Signal.milestone?
      = (signals.filterMap Signal.report?).map Entry.executed := by
  have hitem (item : Item) :
      (Running.Item.signals item : List (Signal τ)).filterMap Signal.milestone? = [] ∧
      (Running.Item.signals item : List (Signal τ)).filterMap Signal.report? = [] := by
    unfold Running.Item.signals
    split <;> exact ⟨rfl, rfl⟩
  cases h with
  | take item => simp [hitem]
  | complete v elapsed => cases r.outcome v elapsed <;> rfl
  | drained v =>
    simp only [List.filterMap_append, hitem]
    rfl
  | _ => rfl

namespace Shell

/-- **A signal is silent**, and leaves its milestone. -/
theorem murmurs_signal {shell : Shell} (s : Signal Binary64)
    (hnotices : shell.console.GivesNotices) :
    Ensures (signal s) shell fun ended after =>
      ended = .ok () ∧ Murmurs s.milestone?.toList shell after := by
  have hnote {later : Shell} (hlater : later.console.GivesNotices) :
      Ensures ((Notice.ofSignal? s).elim (pure ()) note) later fun ended after =>
        ended = .ok () ∧ Murmurs [] later after := by
    cases hn : Notice.ofSignal? s with
    | some n => exact murmurs_note (Notice.presents?_ofSignal? hn) hlater
    | none => exact ⟨rfl, murmurs_refl later⟩
  cases s with
  | offered | submitted | closed =>
    exact Murmurs.bind hnotices (murmurs_enter rfl rfl shell) fun _ hlater => hnote hlater
  | event | broken | cancelling | failed | succeeded => exact hnote hnotices

theorem murmurs_signalAll {shell : Shell} (signals : List (Signal Binary64))
    (hnotices : shell.console.GivesNotices) :
    Ensures (signalAll signals) shell fun ended after =>
      ended = .ok () ∧ Murmurs (signals.filterMap Signal.milestone?) shell after := by
  induction signals generalizing shell with
  | nil => exact ⟨rfl, murmurs_refl shell⟩
  | cons s rest ih =>
    have h : Ensures (signalAll (s :: rest)) shell fun ended after => ended = .ok () ∧
        Murmurs (s.milestone?.toList ++ rest.filterMap Signal.milestone?) shell after :=
      Murmurs.bind hnotices (murmurs_signal s hnotices) fun _ hlater => ih hlater
    rw [List.filterMap_cons]
    cases hs : s.milestone? <;> simpa [hs] using h

end Shell

end SqlShell
