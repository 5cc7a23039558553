import SqlShell.Proofs.Session.Closing

/-! # Interruptions

    An interruption costs the command that it strikes and not the session, if it
    strikes a prompt, a wait, or a text of a statement in its course.

    * **`IsEndurable`** says so of the interruptions in a transcript.
    * **`interruption_endured`**: with such an interruption a session comes to its
      exit code, and deals with every request of its input. -/

namespace SqlShell

/-- **Outputs are only interrupted**, and only in writes. -/
def Console.OnlyInterrupted (k : Console) : Prop :=
  ∀ e, k.Allows e → e.fault? = none ∨ e.isStruck = true

/-- **One interruption that can be endured**: at most one text is struck off, and
    this is shielded. -/
def IsEndurable (writesPrompts : Bool) (entries : List Entry) : Prop :=
  entries.countP Entry.isStruck ≤ 1 ∧ ∀ earlier e later, entries = earlier ++ e :: later →
    e.isStruck = true → IsShielded writesPrompts earlier e

/-! ## Running the specification -/

/-- A line of input is asked for. -/
def Entry.isQuestion : Entry → Bool
  | .asked _ => true
  | _ => false

theorem isShielded_iff (writesPrompts : Bool) (before : List Entry) (e : Entry) :
    IsShielded writesPrompts before e ↔ e.isStruck = true ∧ (isPresenting before = true ∨
      writesPrompts = true ∧ before.getLast?.any Entry.isQuestion = true) := by
  have hquestion : (∃ earlier prompt, before = earlier ++ [.asked prompt]) ↔
      before.getLast?.any Entry.isQuestion = true := by
    constructor
    · rintro ⟨earlier, prompt, rfl⟩
      simp [Entry.isQuestion]
    · intro h
      obtain ⟨e, he, hasked⟩ := (Option.any_eq_true _ _).1 h
      obtain ⟨earlier, rfl⟩ := List.getLast?_eq_some_iff.1 he
      cases e with
      | asked prompt => exact ⟨earlier, prompt, rfl⟩
      | _ => cases hasked
  rw [IsShielded, hquestion]

instance (writesPrompts : Bool) (before : List Entry) (e : Entry) :
    Decidable (IsShielded writesPrompts before e) :=
  decidable_of_iff' _ (isShielded_iff writesPrompts before e)

theorem isEndurable_iff (writesPrompts : Bool) (entries : List Entry) :
    IsEndurable writesPrompts entries ↔ entries.countP Entry.isStruck ≤ 1 ∧
      ∀ i : Fin entries.length, entries[i].isStruck = true →
        IsShielded writesPrompts (entries.take i) entries[i] := by
  refine and_congr_right fun _ => ⟨fun h i hi => ?_, ?_⟩
  · refine h _ _ (entries.drop (i + 1)) ?_ hi
    have hdrop := List.drop_eq_getElem_cons i.isLt
    exact (List.take_append_drop i entries).symm.trans (by rw [hdrop]; rfl)
  · rintro h earlier e later rfl he
    have hat := h ⟨earlier.length, by simp⟩
    simp only [Fin.getElem_fin, List.getElem_append_right (Nat.le_refl _), Nat.sub_self,
      List.getElem_cons_zero, List.take_left'] at hat
    exact hat he

instance (writesPrompts : Bool) (entries : List Entry) :
    Decidable (IsEndurable writesPrompts entries) :=
  decidable_of_iff' _ (isEndurable_iff writesPrompts entries)

namespace Shell

variable {past added : List Entry} {before after : Shell} {chapters : List Chapter}
  {ended : Except Exit Unit}

/-- **What can be endured does not end a session.** -/
theorem AmountsTo.endured (h : AmountsTo False [] before chapters added ended after)
    (hk : before.console.OnlyInterrupted) (hadded : IsEndurable before.writesPrompts added) :
    ended = .ok () := by
  obtain ⟨hcount, hshielded⟩ := hadded
  have hstruck (e : Entry) (he : e ∈ added) (hf : e.fault? ≠ none) : e.isStruck = true :=
    (hk e (h.allowed e he)).resolve_left hf
  have hends := h.ends
  match ended with
  | .ok () => rfl
  | .error (.outputLost f) =>
    obtain ⟨earlier, e, later, rfl, -, hf, -⟩ := hends
    have hinterrupted := e.fault?_of_isStruck (hstruck e (by simp) (by simp [hf]))
    rw [hf] at hinterrupted
    cases hinterrupted
  | .error .interrupted =>
    obtain ⟨earlier, e, later, rfl, hf, hfirst⟩ := hends
    have he := hstruck e (by simp) (by simp [hf])
    obtain ⟨e', he', hf'⟩ := hfirst (by simpa using hshielded earlier e later rfl he)
    -- The interruption would be the second one.
    have hpos : 0 < earlier.countP Entry.isStruck :=
      List.countP_pos_iff.2 ⟨e', he', hstruck e' (by simp [he']) hf'⟩
    rw [List.countP_append, List.countP_cons_of_pos he] at hcount
    omega
  | .error (.crashed c) => exact hends.elim
  | .error .stalled =>
    have htwo := (h.stalled rfl).2
    omega

/-- **An interruption does not end a session** if it can be endured, whatever the
    input holds and however the engine answers, as long as notices are given, the
    history file does not break down and the engine does not hold a statement up:
    the session comes to its exit code, and every request of the input has been dealt
    with until the session was left. A prompt that is interrupted counts as an
    interruption before its line. -/
theorem interruption_endured (format : InitialFormat) (failOnError : Bool)
    (input : List InputLine) (shell : Shell) {f : ResultFormat} (hformat : format.resolve = .ok f)
    (hinput : ∀ c, .crash c ∉ input) (hsinks : shell.console.OnlyInterrupted)
    (hnotices : shell.console.GivesNotices) (hlimit : shell.surroundings.limitFault = none)
    (hfile : shell.historyFile.NeverBreaks) :
    Ensures (start format failOnError input) shell fun ended after =>
      (ended = .error .stalled ∧ ∃ statement, shell.engine.HoldsUp statement after) ∨
      ∃ input' chapters stopped last added closing,
        Unfolds False [] { shell with session := { shell.session with format := f } } chapters added
          stopped last ∧
        after.console.entries = shell.console.entries ++ (added ++ closing) ∧
        Interrupted input input' ∧
        (input' = input ∨ shell.writesPrompts = true ∧ ∃ e ∈ added, e.isStruck = true) ∧
        (IsEndurable shell.writesPrompts (added ++ closing) →
          (∃ code, ended = .ok code) ∧
          Serves (requestsFrom shell.buffer input') chapters (.ok ()) last) := by
  have hbreak (c : Channel) (f : WriteFault) : ¬ shell.console.Allows (.unwritten c (.fault f)) :=
    fun hallowed => by simpa [Entry.fault?, Entry.isStruck] using hsinks _ hallowed
  have hfit : Fit False [] shell := fit_nil hnotices hlimit fun _ => hbreak
  refine (told_start failOnError hformat (fun c hc => absurd hc (hinput c)) hfit).mono ?_
  rintro ended after (⟨hheld, hstalled⟩ | ⟨c, htells⟩)
  · exact .inl ⟨hstalled hfile, hheld⟩
  refine .inr ⟨c.input, c.chapters, c.stopped, c.last, c.entries, c.closing, htells.unfolds,
    htells.transcript, htells.interrupted, htells.same, ?_⟩
  rintro ⟨hcount, hshielded⟩
  have hadded : IsEndurable shell.writesPrompts c.entries := by
    refine ⟨?_, fun earlier e later hsplit => ?_⟩
    · rw [List.countP_append] at hcount
      omega
    · exact hshielded earlier e (later ++ c.closing) (by simp [hsplit])
  have hstopped := htells.unfolds.amountsTo.endured hsinks hadded
  have hended := htells.ended hfile
  have hserves := htells.serves
  rw [hstopped] at hended hserves
  exact ⟨⟨_, hended⟩, hserves⟩

/-- A shell with a table of one row for every statement, of which the fourth text is
    interrupted. -/
@[irreducible] def strickenShell : Shell where
  console.out.writeFault := fun n => if n = 3 then some .interrupt else none
  engine :=
    { submit := fun _ _ => .accepted
        { batches := [⟨[⟨"x".toList, "INTEGER".toList⟩], [[.int 1]]⟩], ending := .complete } }
  surroundings := { reading := fun _ => Binary64.zero }

/-- The input of a session in which a row is struck off. -/
@[irreducible] def strickenInput : List InputLine := [.line "select 1;".toList, .line "help".toList]

/-- **A row that is struck off** costs its statement and no more: the session comes to
    its exit code, and the command after it is carried out. -/
theorem interruption_endured_row : InitialFormat.resolve (.known .table) = .ok .table ∧
    (∀ c, .crash c ∉ strickenInput) ∧ strickenShell.console.OnlyInterrupted ∧
    strickenShell.console.GivesNotices ∧ strickenShell.surroundings.limitFault = none ∧
    strickenShell.historyFile.NeverBreaks ∧
    Ensures (start (.known .table) true strickenInput) strickenShell fun ended after =>
      (∃ e ∈ after.console.entries, e.isStruck = true) ∧ (∃ code, ended = .ok code) ∧
      ∃ chapters last, Serves (requestsFrom strickenShell.buffer strickenInput) chapters (.ok ())
        last := by
  have hinput : ∀ c, .crash c ∉ strickenInput := by
    unfold strickenInput
    simp
  have hsinks : strickenShell.console.OnlyInterrupted := by
    unfold strickenShell
    intro e hallowed
    cases e with
    | unwritten c f =>
      obtain ⟨n, hn⟩ := hallowed
      cases c with
      | out =>
        have hn : (if n = 3 then some SinkFault.interrupt else none) = some f := hn
        split at hn <;> cases hn
        exact .inr rfl
      | err => cases hn
    | unflushed c f =>
      obtain ⟨n, hn⟩ := hallowed
      cases c <;> cases hn
    | _ => exact .inl rfl
  have hnotices : strickenShell.console.GivesNotices := by
    unfold strickenShell
    exact nofun
  have hfile : strickenShell.historyFile.NeverBreaks := by
    unfold strickenShell
    exact nofun
  have hplain : strickenShell.surroundings.limitFault = none ∧
      strickenShell.writesPrompts = false ∧ strickenShell.console.entries = [] := by
    unfold strickenShell
    exact ⟨rfl, rfl, rfl⟩
  have htrace : passes (start (.known .table) true strickenInput) strickenShell
      (fun _ after => decide (IsEndurable false after.console.entries) &&
        after.console.entries.any Entry.isStruck) = true := by
    unfold strickenShell strickenInput
    decide +kernel
  have hblocks : ¬ strickenShell.engine.Blocks := by
    unfold strickenShell
    rintro ⟨history, statement, stream, h, hblocked⟩
    cases h
    cases hblocked
  refine ⟨rfl, hinput, hsinks, hnotices, hplain.1, hfile, ?_⟩
  obtain ⟨code, last, hrun, htest⟩ := exists_of_passes _ _ _ htrace
  simp only [Bool.and_eq_true, decide_eq_true_eq, List.any_eq_true] at htest
  have hendured := interruption_endured (.known .table) true strickenInput strickenShell rfl
    hinput hsinks hnotices hplain.1 hfile
  unfold Ensures at hendured ⊢
  rw [hrun] at hendured ⊢
  refine ⟨htest.2, ?_⟩
  rcases hendured with ⟨-, statement, hheld⟩ |
    ⟨input', chapters, stopped, last', added, closing, -, hentries, -, hsame, hserves⟩
  · exact absurd hheld.engine_blocks hblocks
  rw [hplain.2.2, List.nil_append] at hentries
  rw [← hentries, hplain.2.1] at hserves
  obtain ⟨hcode, hserved⟩ := hserves htest.1
  refine ⟨hcode, chapters, last', ?_⟩
  rcases hsame with rfl | ⟨hwrites, -⟩
  · exact hserved
  · rw [hplain.2.1] at hwrites
    cases hwrites

/-- A shell in which the first text is interrupted. -/
def startledShell : Shell :=
  { completingShell with
    console.out.writeFault := fun n => if n = 0 then some .interrupt else none }

/-- **An interruption of the answer to a command** ends the session: the statement on
    the next line is not submitted. -/
theorem interrupted_answer_escapes : ∃ after,
    start (.known .table) false [.line "help".toList, .line "select 1;".toList] startledShell
      = .error .interrupted after ∧
    after.console.entries.countP Entry.isStruck = 1 ∧
    .submitted "select 1".toList ∉ after.console.entries := by
  obtain ⟨e, after, hrun, htest⟩ := exists_of_breaksOff
    (start (.known .table) false [.line "help".toList, .line "select 1;".toList]) startledShell
    (fun e after => e = .interrupted && after.console.entries.countP Entry.isStruck = 1 &&
      decide (.submitted "select 1".toList ∉ after.console.entries)) (by decide +kernel)
  simp only [Bool.and_eq_true, decide_eq_true_eq] at htest
  obtain ⟨⟨rfl, hcount⟩, hsubmitted⟩ := htest
  exact ⟨after, hrun, hcount, hsubmitted⟩

end Shell

end SqlShell
