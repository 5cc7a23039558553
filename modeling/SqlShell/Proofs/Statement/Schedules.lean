import Mathlib.Data.List.Forall2
import SqlShell.Proofs.Statement.Coherence

/-! # When Statements Are Taken

    Lines go into the buffer, and statements are taken out of it, at once or later, while
    other lines have come.  That makes no difference to the statements, but for what
    stands in front of them: the buffer forgets idle text when it has scanned all it has,
    and if a line is there by then that goes on with a statement, the idle text is kept
    in front.

    * **`Agree`** is what two ways to take the statements of a text have in common.
      Idle text in front of the text is no obstacle to it (`agree_preface`).
    * **`agree_append`**: the statements of a text may be taken before more text comes.
    * **`Lags`** is the invariant of a schedule: what has been taken, and what could be
      taken now, agrees with what has been taken at once.
    * **`schedule_does_not_matter`** says so of all schedules. -/

namespace SqlShell

/-- The lines among some calls. -/
def linesOf (cs : List Call) : List Text :=
  cs.filterMap fun
    | .addLine line => some line
    | .next => none

/-- **The same end of the input**, but for idle text in front of what is left: something
    of the same kind is open, or there is a last statement, or there is nothing. -/
inductive EndAlike :
    Except Unterminated (Option Text) → Except Unterminated (Option Text) → Prop where
  | unterminated {e e' : Unterminated} (state : e.state = e'.state)
      (text : IsPrefaced e.text e'.text) : EndAlike (.error e) (.error e')
  | statement {s t : Text} (h : IsPrefaced s t) : EndAlike (.ok (some s)) (.ok (some t))
  | nothing : EndAlike (.ok none) (.ok none)

namespace StatementBuffer

/-- **Calls one after the other**, and the statements that they bring. -/
def answers (a : StatementBuffer) : List Call → List Text × StatementBuffer
  | [] => ([], a)
  | c :: cs =>
    let (text?, a') := a.answer c
    let (texts, last) := a'.answers cs
    (text?.toList ++ texts, last)

theorem answers_concat (a : StatementBuffer) (cs : List Call) (c : Call) :
    a.answers (cs ++ [c])
      = ((a.answers cs).1 ++ ((a.answers cs).2.answer c).1.toList,
        ((a.answers cs).2.answer c).2) := by
  induction cs generalizing a with
  | nil => simp [answers]
  | cons first cs ih => simp [answers, ih]

/-! ## Agreement -/

/-- The same buffer, but for idle text in front. -/
structure Trails (a b : StatementBuffer) : Prop where
  text : IsPrefaced a.text b.text
  mode : a.mode = b.mode
  content : a.content = b.content

/-- **The same statements and the same rest**, but for idle text in front of them. -/
structure Agree (r r' : List Text × StatementBuffer) : Prop where
  texts : List.Forall₂ IsPrefaced r.1 r'.1
  rest : Trails r.2 r'.2

theorem prefaced_refl (ts : List Text) : List.Forall₂ IsPrefaced ts ts :=
  List.forall₂_same.2 fun s _ => .refl s

theorem prefaced_trans {ts us vs : List Text} (h : List.Forall₂ IsPrefaced ts us)
    (h' : List.Forall₂ IsPrefaced us vs) : List.Forall₂ IsPrefaced ts vs := by
  induction h' generalizing ts with
  | nil => exact h
  | cons huv _ ih =>
    cases h with
    | cons htu h => exact .cons (htu.trans huv) (ih h)

namespace Agree

theorem refl (r : List Text × StatementBuffer) : Agree r r where
  texts := prefaced_refl r.1
  rest := ⟨.refl _, rfl, rfl⟩

theorem trans {r r' r'' : List Text × StatementBuffer} (h : Agree r r') (h' : Agree r' r'') :
    Agree r r'' where
  texts := prefaced_trans h.texts h'.texts
  rest := ⟨h.rest.text.trans h'.rest.text, h.rest.mode.trans h'.rest.mode,
    h.rest.content.trans h'.rest.content⟩

/-- Statements that agree may stand in front. -/
theorem append {ts ts' : List Text} {r r' : List Text × StatementBuffer}
    (hts : List.Forall₂ IsPrefaced ts ts') (h : Agree r r') :
    Agree (ts ++ r.1, r.2) (ts' ++ r'.1, r'.2) :=
  ⟨List.rel_append hts h.texts, h.rest⟩

end Agree

/-! ## The statements of a text -/

section Pieces

variable {s : Text} {mode : ScanMode} {content : Bool}

theorem drain_of_scannedTo (h : ScannedTo s mode content) :
    drain { empty with waiting := s } = ([], held s mode content) := by
  rw [drain_next, next_of_scannedTo h]

/-- The statement in front of a cut comes first, if there is one. -/
theorem drain_of_semicolon (h : ScannedTo s .normal content) (r : Text) :
    drain { empty with waiting := s ++ ';' :: r }
      = ((if content then [Text.trim s] else []) ++ (drain { empty with waiting := r }).1,
        (drain { empty with waiting := r }).2) := by
  rw [drain_next, next_of_semicolon h]
  cases content with
  | true => rfl
  | false => exact (drain_next { empty with waiting := r }).symm

/-- A text with content is not blank. -/
theorem not_allBlank (h : ScannedTo s mode content) (hs : mode.isOpen = true ∨ content = true) :
    Text.allBlank s = false := by
  by_contra hblank
  rw [Bool.not_eq_false] at hblank
  obtain ⟨rfl, rfl⟩ := h.of_allBlank hblank
  rcases hs with hs | hs <;> cases hs

end Pieces

/-- **Idle text in front** of a text is no obstacle to its statements. -/
theorem agree_preface {lead : Text} (hlead : IsIdle lead) (s : Text) :
    Agree (drain { empty with waiting := lead ++ s }) (drain { empty with waiting := s }) := by
  induction s using cuts_induction with
  | uncut s mode content h =>
    rw [drain_of_scannedTo h, drain_of_scannedTo (h.preface hlead)]
    refine ⟨.nil, ?_⟩
    unfold held
    split
    · refine ⟨⟨lead, hlead, ?_⟩, rfl, rfl⟩
      simp [text]
    · exact ⟨.refl _, rfl, rfl⟩
  | cut s content r h _ =>
    rw [← List.append_assoc, drain_of_semicolon h, drain_of_semicolon (h.preface hlead)]
    refine .append ?_ (.refl _)
    cases content with
    | true => exact .cons (hlead.isPrefaced_trim (not_allBlank h (.inr rfl))) .nil
    | false => exact .nil

/-- **More text may come before or after** the statements of a text are taken. -/
theorem agree_append (s t : Text) :
    Agree (drain { empty with waiting := s ++ t })
      ((drain { empty with waiting := s }).1
          ++ (drain { empty with waiting := (drain { empty with waiting := s }).2.text ++ t }).1,
        (drain { empty with waiting := (drain { empty with waiting := s }).2.text ++ t }).2) := by
  induction s using cuts_induction with
  | uncut s mode content h =>
    rw [drain_of_scannedTo h]
    rcases held_cases h with ⟨-, htext, -⟩ | ⟨hheld, rfl, rfl⟩
    · rw [htext]
      exact .refl _
    · -- What has been forgotten is idle.
      rw [hheld]
      exact agree_preface (isIdle_iff.2 h) t
  | cut s content r h ih =>
    rw [List.append_assoc, List.cons_append, drain_of_semicolon h, drain_of_semicolon h]
    have hall := ih.append (prefaced_refl (if content then [Text.trim s] else []))
    rw [← List.append_assoc] at hall
    exact hall

/-! ## Schedules -/

/-- A buffer that has no statement to give is at rest. -/
theorem atRest_of_next {a b : StatementBuffer} (h : a.next = (none, b)) : b.AtRest := by
  unfold next at h
  split at h
  · cases h
  · obtain rfl := (Prod.mk.inj h).2
    split
    case isTrue hbegun =>
      refine ⟨rfl, fun hidle => ?_⟩
      rw [inProgress] at hidle
      rw [hidle] at hbegun
      cases hbegun
    case isFalse => exact atRest_empty

/-- The next statement may be taken before all the others are. -/
theorem drain_eq_next (a : StatementBuffer) :
    a.drain = (a.next.1.toList ++ a.next.2.drain.1, a.next.2.drain.2) := by
  rw [drain_next]
  match hnext : a.next with
  | (some text, b) => rfl
  | (none, b) =>
    rw [(atRest_of_next hnext).drain_eq]
    rfl

theorem drain_spec (s : Text) (hs : EndsLine s) :
    (drain { empty with waiting := s }).2.Coherent ∧
      (drain { empty with waiting := s }).2.AtRest := by
  induction s using cuts_induction with
  | uncut s mode content h =>
    rw [drain_of_scannedTo h]
    exact ⟨(held_spec h hs).1, atRest_of_next (next_of_scannedTo h)⟩
  | cut s content r h ih =>
    rw [drain_of_semicolon h]
    exact ih hs.of_semicolon

/-- **The invariant of a schedule**: what has been taken, together with what could be
    taken now, agrees with what has been taken at once. -/
structure Lags (lazy eager : List Text × StatementBuffer) : Prop where
  coherent : lazy.2.Coherent
  coherentEager : eager.2.Coherent
  atRest : eager.2.AtRest
  agree : Agree (lazy.1 ++ lazy.2.drain.1, lazy.2.drain.2) eager

theorem lags_empty : Lags ([], empty) ([], empty) where
  coherent := coherent_empty
  coherentEager := coherent_empty
  atRest := atRest_empty
  agree := by
    rw [atRest_empty.drain_eq]
    exact .refl _

/-- A statement that is taken could have been taken before. -/
theorem Agree.next {ts : List Text} {a : StatementBuffer} {eager : List Text × StatementBuffer}
    (h : Agree (ts ++ a.drain.1, a.drain.2) eager) :
    Agree (ts ++ a.next.1.toList ++ a.next.2.drain.1, a.next.2.drain.2) eager := by
  rw [drain_eq_next, ← List.append_assoc] at h
  exact h

/-- **A line more** agrees with the statements of that line. -/
theorem Lags.addText {ts us : List Text} {a b : StatementBuffer} (h : Lags (ts, a) (us, b))
    (line : Text) :
    Agree (ts ++ (drain { a with waiting := a.waiting ++ Text.dropLineEnd line ++ ['\n'] }).1,
        (drain { a with waiting := a.waiting ++ Text.dropLineEnd line ++ ['\n'] }).2)
      (us ++ (b.takeLine line).1, (b.takeLine line).2) := by
  obtain ⟨hcoherent, hcoherentEager, hrest, htexts, ⟨lead, hlead, htext⟩, -, -⟩ := h
  dsimp only at hcoherent hcoherentEager hrest htexts htext
  set x := Text.dropLineEnd line ++ ['\n'] with hx
  -- Both buffers go by their texts.
  have hlazy : drain { a with waiting := a.waiting ++ Text.dropLineEnd line ++ ['\n'] }
      = drain { empty with waiting := a.text ++ x } := by
    rw [(hcoherent.addText _).drain_eq]
    simp [text, hx]
  have heager : b.takeLine line = drain { empty with waiting := b.text ++ x } := by
    have hwaiting : { b with waiting := x }
        = { b with waiting := b.waiting ++ Text.dropLineEnd line ++ ['\n'] } := by
      rw [hrest.scanned, hx]
      rfl
    rw [hrest.takeLine_eq, ← hx, hwaiting, (hcoherentEager.addText _).drain_eq]
    simp [text, hx]
  have hsplit := agree_append a.text x
  rw [← hcoherent.drain_eq, htext, List.append_assoc] at hsplit
  rw [hlazy, heager]
  set behind := drain { empty with waiting := lead ++ (b.text ++ x) }
  have hfront : Agree (ts ++ (drain { empty with waiting := a.text ++ x }).1,
      (drain { empty with waiting := a.text ++ x }).2) (ts ++ a.drain.1 ++ behind.1, behind.2) := by
    rw [List.append_assoc]
    exact hsplit.append (prefaced_refl ts)
  exact hfront.trans ((agree_preface hlead (b.text ++ x)).append htexts)

/-- Taking a line's statements leaves a coherent buffer at rest. -/
theorem AtRest.takeLine_spec {a : StatementBuffer} (h : a.AtRest) (hcoherent : a.Coherent)
    (line : Text) : (a.takeLine line).2.Coherent ∧ (a.takeLine line).2.AtRest := by
  have hlonger := hcoherent.addText (Text.dropLineEnd line)
  rw [h.scanned, List.nil_append] at hlonger
  rw [h.takeLine_eq, hlonger.drain_eq]
  exact drain_spec _ hlonger.endsLine

/-- **One call on**, the invariant holds: a line that comes is scanned at once by the one,
    and when a statement is wanted by the other. -/
theorem Lags.answer {lazy eager : List Text × StatementBuffer} (h : Lags lazy eager) {c : Call}
    (hc : ∀ line, c = .addLine line → Text.allBlank line = false) :
    Lags (lazy.1 ++ (lazy.2.answer c).1.toList, (lazy.2.answer c).2)
      (eager.1 ++ (eager.2.takeLines (linesOf [c])).1, (eager.2.takeLines (linesOf [c])).2) := by
  cases c with
  | next =>
    have hnone : eager.2.takeLines (linesOf [.next]) = ([], eager.2) := rfl
    rw [hnone, List.append_nil]
    exact ⟨h.coherent.next, h.coherentEager, h.atRest, h.agree.next⟩
  | addLine line =>
    have hone : eager.2.takeLines (linesOf [.addLine line]) = eager.2.takeLine line :=
      takeLines_singleton eager.2 line
    have hline : lazy.2.answer (.addLine line)
        = next { lazy.2 with
            waiting := lazy.2.waiting ++ Text.dropLineEnd line ++ ['\n'] } :=
      addLine_eq_next (.inr (hc line rfl))
    obtain ⟨hcoherent, hrest⟩ := h.atRest.takeLine_spec h.coherentEager line
    rw [hone, hline]
    exact ⟨(h.coherent.addText _).next, hcoherent, hrest, (h.addText line).next⟩

theorem linesOf_append (cs ds : List Call) : linesOf (cs ++ ds) = linesOf cs ++ linesOf ds :=
  List.filterMap_append

/-- **The invariant** holds behind any number of calls. -/
theorem lags_answers (cs : List Call)
    (hlines : ∀ line, .addLine line ∈ cs → Text.allBlank line = false) :
    Lags (empty.answers cs) (empty.takeLines (linesOf cs)) := by
  induction cs using List.reverseRecOn with
  | nil => exact lags_empty
  | append_singleton cs c ih =>
    have hfront := ih fun line hline => hlines line (List.mem_append_left _ hline)
    have hlast : ∀ line, c = .addLine line → Text.allBlank line = false := by
      rintro line rfl
      exact hlines line (by simp)
    rw [answers_concat, linesOf_append, takeLines_append]
    exact hfront.answer hlast

/-- Buffers that differ in idle text only end the input alike. -/
theorem Trails.endAlike {a b : StatementBuffer} (h : Trails a b) (hb : b.Coherent)
    (hrest : b.AtRest) : EndAlike a.finish b.finish := by
  obtain ⟨⟨lead, hlead, htext⟩, hmode, hcontent⟩ := h
  have hscanned : ScannedTo b.text b.mode b.content := by
    rw [StatementBuffer.text, hrest.scanned, List.append_nil]
    exact hb.scannedTo_before
  have htrim (hbegun : b.mode.isOpen = true ∨ b.content = true) :
      IsPrefaced (Text.trim a.text) (Text.trim b.text) := by
    rw [htext]
    exact hlead.isPrefaced_trim (not_allBlank hscanned hbegun)
  rw [finish, finish, hmode, hcontent]
  by_cases hopen : b.mode.isOpen = true
  · rw [if_pos hopen, if_pos hopen]
    exact .unterminated rfl (htrim (.inl hopen))
  · rw [if_neg hopen, if_neg hopen]
    cases hbegun : b.content with
    | true => exact .statement (htrim (.inr hbegun))
    | false => exact .nothing

/-- **When statements are taken does not matter.**  Lines that are not blank go in, and in
    between statements are asked for, as often as one likes; at the end all that are left
    are taken.  Then there are as many as if all had been taken behind each line, in the
    same order and each the same but for idle text in front of it, and the input ends in
    the same way. -/
theorem schedule_does_not_matter (cs : List Call)
    (hlines : ∀ line, .addLine line ∈ cs → Text.allBlank line = false) :
    let (taken, a) := empty.answers cs
    let (left, last) := a.drain
    let (texts, b) := empty.takeLines (linesOf cs)
    List.Forall₂ IsPrefaced (taken ++ left) texts ∧ EndAlike last.close.1 b.close.1 := by
  have h := lags_answers cs hlines
  exact ⟨h.agree.texts, h.agree.rest.endAlike h.coherentEager h.atRest⟩

/-- A comment goes before the statement that comes with the next line, if no statement has
    been asked for in between. -/
theorem schedule_does_not_matter_late :
    let cs : List Call := [.addLine "select 1; -- one".toList,
      .addLine "select 2; select 'three".toList, .next]
    let rest : StatementBuffer :=
      { before := " select 'three\n".toList.reverse, mode := .singleQuoted false, content := true }
    (∀ line, .addLine line ∈ cs → Text.allBlank line = false) ∧
      empty.answers cs = (["select 1".toList, "-- one\nselect 2".toList], rest) ∧
      rest.drain = ([], rest) ∧
      empty.takeLines (linesOf cs) = (["select 1".toList, "select 2".toList], rest) ∧
      List.Forall₂ IsPrefaced ["select 1".toList, "-- one\nselect 2".toList]
        ["select 1".toList, "select 2".toList] ∧
      EndAlike rest.close.1 rest.close.1 := by
  intro cs rest
  have hlines : ∀ line, .addLine line ∈ cs → Text.allBlank line = false := by
    intro line hline
    simp only [cs, List.mem_cons, Call.addLine.injEq, List.not_mem_nil, reduceCtorEq,
      or_false] at hline
    rcases hline with rfl | rfl <;> decide +kernel
  have hlazy : empty.answers cs = (["select 1".toList, "-- one\nselect 2".toList], rest) := by
    decide +kernel
  have hdrain : rest.drain = ([], rest) := by decide +kernel
  have heager : empty.takeLines (linesOf cs)
      = (["select 1".toList, "select 2".toList], rest) := by
    decide +kernel
  have h := schedule_does_not_matter cs hlines
  rw [hlazy, heager] at h
  dsimp only at h
  rw [hdrain] at h
  exact ⟨hlines, hlazy, hdrain, heager, h⟩

end StatementBuffer

end SqlShell
