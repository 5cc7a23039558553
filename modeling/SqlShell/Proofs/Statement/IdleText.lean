import SqlShell.Proofs.Statement.Commands
import SqlShell.Proofs.Statement.Tokens

/-! # Blanks and Comments

    What stands in front of a statement and is no part of it: blanks and comments.
    They leave the scanner as they have found it, and so it makes no difference to
    what follows whether they are there.

    * **`ScannedTo`** says how the scanner stands behind a text without cuts, and
      **`cuts_induction`** takes any text apart at its cuts.
    * **`IsIdle`** is the grammar of blanks and comments; `isIdle_iff` says that they
      are the texts with neither cut nor content that leave nothing open.
    * **`IsPrefaced`** relates two texts of which one has idle text in front. -/

namespace SqlShell

open Text (IsTrimmed)

/-! ## Texts without cuts -/

/-- **A text without cuts**, and how the scanner stands behind it: in which mode, and
    whether there has been content. -/
structure ScannedTo (s : Text) (mode : ScanMode) (content : Bool) : Prop where
  uncut : ∀ p ∈ reading [] .normal s, p.isCut = false
  mode : modeAfter .normal (reading [] .normal s) = mode
  content : hasContent (reading [] .normal s) = content

/-- A text that is empty or ends with a line feed. -/
def EndsLine (s : Text) : Prop := ∀ c ∈ s.getLast?, c = '\n'

theorem endsLine_nil : EndsLine [] := nofun

theorem endsLine_concat (s : Text) : EndsLine (s ++ ['\n']) := by
  intro c hc
  simpa using hc.symm

/-- What is behind a semicolon ends with the line feed that ends the text. -/
theorem EndsLine.of_semicolon {s r : Text} (h : EndsLine (s ++ ';' :: r)) : EndsLine r := by
  intro c hc
  apply h c
  rw [List.getLast?_append, List.getLast?_cons, Option.mem_def.1 hc]
  rfl

namespace ScannedTo

variable {s x : Text} {mode : ScanMode} {content : Bool}

theorem nil : ScannedTo [] .normal false := ⟨nofun, rfl, rfl⟩

/-- The scanner takes all of the text. -/
theorem scan_eq (h : ScannedTo s mode content) :
    scan [] .normal false s = .pending s.reverse mode content := by
  have hscan := scan_append_of_uncut (y := []) false h.uncut fun _ _ _ _ _ => rfl
  rw [h.mode, h.content, List.append_nil, List.append_nil, Bool.false_or] at hscan
  exact hscan

/-- A semicolon behind the text ends it: it is a statement, if it has content. -/
theorem scan_semicolon (h : ScannedTo s .normal content) (r : Text) :
    scan [] .normal false (s ++ ';' :: r)
      = if content then .statement (Text.trim s) r else scan [] .normal false r := by
  have hcut : scan s.reverse .normal content (';' :: r)
      = if content then .statement (Text.trim s.reverse.reverse) r
        else scan [] .normal false r :=
    scan_cons (p := ⟨[';'], .normal, .cut⟩) content rfl rfl
  rw [scan_uncut false r h.uncut h.mode, h.content, Bool.false_or, List.append_nil, hcut,
    List.reverse_reverse]

/-- Behind its last line the scanner goes on where it stands. -/
theorem scan_append (h : ScannedTo x mode content) (hx : EndsLine x) (y : Text) :
    scan [] .normal false (x ++ y) = scan x.reverse mode content y := by
  have hlast : ∀ past m, ∀ c ∈ x.getLast?,
      (pieceAt past m c none).mode = modeAfter .normal (reading [] .normal x) →
        pieceAt past m c y.head? = pieceAt past m c none := by
    intro past m c hc _
    rw [hx c hc]
    have hone : (pieceAt past m '\n' ([] : Text).head?).text = ['\n'] := by
      rcases text_pieceAt past m '\n' none with ⟨d, hd, -⟩ | h
      · cases hd
      · exact h
    exact alike_newline [] y past m hone
  have hscan := scan_append_of_uncut (y := y) false h.uncut hlast
  rwa [h.mode, h.content, List.append_nil, Bool.false_or] at hscan

/-- At the end of a line no comment that ends with the line is open. -/
theorem mode_ne_lineComment (h : ScannedTo s mode content) (hs : EndsLine s) :
    mode ≠ .lineComment := by
  rw [← h.mode]
  cases hlast : s.getLast? with
  | none =>
    rw [List.getLast?_eq_none_iff.1 hlast]
    decide
  | some c =>
    rw [hs c hlast] at hlast
    exact modeAfter_ne_lineComment [] .normal s hlast

/-- Of blanks there comes nothing. -/
theorem of_allBlank (h : ScannedTo s mode content) (hs : Text.allBlank s = true) :
    mode = .normal ∧ content = false := by
  have hblank : ∀ p ∈ reading [] .normal s, p.isBlank = true := by
    have hall := List.all_eq_true.1 hs
    intro p hp
    refine List.all_eq_true.2 fun c hc => hall c ?_
    rw [← textOf_reading [] .normal s]
    exact List.mem_flatMap.2 ⟨p, hp, hc⟩
  rw [← h.mode, ← h.content]
  exact ⟨mode_of_blanks (List.append_nil _).symm hblank (by decide),
    hasContent_of_blanks isTaken_of_mem hblank⟩

end ScannedTo

/-- What stands in front of the first cut is a text without cuts. -/
theorem scannedTo_of_cut {s : Text} {ps qs : List Piece} {p : Piece}
    (hread : reading [] .normal s = ps ++ p :: qs) (hp : p.isCut = true)
    (hfront : ∀ q ∈ ps, q.isCut = false) :
    s = textOf ps ++ ';' :: textOf qs ∧ ScannedTo (textOf ps) .normal (hasContent ps) := by
  have hsemicolon : textOf (p :: qs) = ';' :: textOf qs := by
    have hmem : p ∈ reading [] .normal s := by
      rw [hread]
      simp
    obtain ⟨past, mode, c, next, rfl⟩ := isTaken_of_mem p hmem
    rw [textOf_cons, (eq_of_isCut hp).1]
    rfl
  have hs : s = textOf ps ++ ';' :: textOf qs := by
    rw [← textOf_reading [] .normal s, hread, textOf_append, hsemicolon]
  have hclosed : modeAfter .normal ps = .normal := mode_of_cut hread hp
  -- Without the cut behind it, it is read as it is with it.
  have halone : reading [] .normal (textOf ps) = ps := by
    have hwhole : reading [] .normal (textOf ps ++ textOf (p :: qs)) = ps ++ p :: qs := by
      rw [hsemicolon, ← hread, ← hs]
    have hinert : IsInert ';' := by
      unfold IsInert
      decide
    refine (reading_trimmed hwhole ?_ hsemicolon hinert).1
    rw [hclosed]
    rfl
  refine ⟨hs, ?_, ?_, ?_⟩
  · rwa [halone]
  · rw [halone, hclosed]
  · rw [halone]

/-- **A text falls apart at its cuts.**  What holds of the texts without cuts, and of a
    text if it holds of what stands behind its first cut, holds of every text. -/
theorem cuts_induction {P : Text → Prop}
    (uncut : ∀ s mode content, ScannedTo s mode content → P s)
    (cut : ∀ s content r, ScannedTo s .normal content → P r → P (s ++ ';' :: r))
    (s : Text) : P s := by
  cases hfirst : (reading [] .normal s).find? Piece.isCut with
  | none =>
    refine uncut s _ _ ⟨?_, rfl, rfl⟩
    simpa using List.find?_eq_none.1 hfirst
  | some p =>
    obtain ⟨hp, ps, qs, hread, hfront⟩ := List.find?_eq_some_iff_append.1 hfirst
    obtain ⟨hs, hscanned⟩ := scannedTo_of_cut hread hp (by simpa using hfront)
    have hlength : (textOf qs).length < s.length := by
      rw [hs, List.length_append, List.length_cons]
      omega
    rw [hs]
    exact cut _ _ _ hscanned (cuts_induction uncut cut (textOf qs))
termination_by s.length

/-! ## The grammar of blanks and comments -/

/-- **Blanks and comments**, and nothing else.  A comment that ends with the line comes
    with the line feed. -/
inductive IsIdle : Text → Prop where
  | nil : IsIdle []
  | blank {c : Char} {s : Text} (hc : Text.isBlank c = true) (hs : IsIdle s) : IsIdle (c :: s)
  | lineComment {body s : Text} (hbody : '\n' ∉ body) (hs : IsIdle s) :
    IsIdle ('-' :: '-' :: (body ++ '\n' :: s))
  | blockComment {body s : Text} (hbody : Text.occursIn ['*', '/'] body = false) (hs : IsIdle s) :
    IsIdle ('/' :: '*' :: (body ++ '*' :: '/' :: s))

namespace IsIdle

variable {s t : Text}

theorem of_allBlank (h : Text.allBlank s = true) : IsIdle s := by
  induction s with
  | nil => exact .nil
  | cons c s ih =>
    obtain ⟨hc, hs⟩ := List.forall_mem_cons.1 (List.all_eq_true.1 h)
    exact .blank hc (ih (List.all_eq_true.2 hs))

theorem append (hs : IsIdle s) (ht : IsIdle t) : IsIdle (s ++ t) := by
  induction hs with
  | nil => exact ht
  | blank hc _ ih => exact .blank hc ih
  | lineComment hbody _ ih =>
    simp only [List.cons_append, List.append_assoc]
    exact .lineComment hbody ih
  | blockComment hbody _ ih =>
    simp only [List.cons_append, List.append_assoc]
    exact .blockComment hbody ih

theorem trimStart (h : IsIdle s) : IsIdle (Text.trimStart s) := by
  induction h with
  | nil => exact .nil
  | blank hc _ ih => rwa [Text.trimStart, List.dropWhile_cons_of_pos hc]
  | lineComment hbody hs => exact .lineComment hbody hs
  | blockComment hbody hs => exact .blockComment hbody hs

/-- No word reaches out of idle text. -/
theorem wordBreak (h : IsIdle s) {past : Text} (hpast : WordBreak past) :
    WordBreak (s.reverse ++ past) := by
  induction h generalizing past with
  | nil => exact hpast
  | blank hc _ ih =>
    obtain ⟨halnum, hu⟩ := Text.isAlphanumeric_of_isBlank hc
    rw [List.reverse_cons, List.append_assoc]
    exact ih (wordBreak_cons past halnum hu)
  | @lineComment body s _ _ ih =>
    have h := ih (wordBreak_cons (body.reverse ++ '-' :: '-' :: past)
      (by decide +kernel : Text.isAlphanumeric '\n' = false) (by decide))
    simpa using h
  | @blockComment body s _ _ ih =>
    have h := ih (wordBreak_cons ('*' :: (body.reverse ++ '*' :: '/' :: past))
      (by decide +kernel : Text.isAlphanumeric '/' = false) (by decide))
    simpa using h

end IsIdle

/-! ## Idle text is no obstacle to the scanner -/

/-- The piece neither ends a statement nor adds content to it. -/
def Piece.IsPassed (p : Piece) : Prop := p.isCut = false ∧ p.isContent = false

theorem Piece.IsSilent.isPassed {p : Piece} (h : p.IsSilent) : p.IsPassed := ⟨h.1.1, h.2⟩

namespace TakesAs

variable {P Q : Piece → Prop} {past x y rest : Text} {mode middle last : ScanMode}

theorem imp (h : TakesAs P past mode x rest last) (hPQ : ∀ p, P p → Q p) :
    TakesAs Q past mode x rest last := by
  obtain ⟨ps, hps, hall, hlast⟩ := h
  exact ⟨ps, hps, fun p hp => hPQ p (hall p hp), hlast⟩

theorem append (hx : TakesAs P past mode x (y ++ rest) middle)
    (hy : TakesAs P (x.reverse ++ past) middle y rest last) :
    TakesAs P past mode (x ++ y) rest last := by
  obtain ⟨ps, hps, hpall, rfl⟩ := hx
  obtain ⟨qs, hqs, hqall, rfl⟩ := hy
  exact ⟨ps ++ qs, hps.append hqs, List.forall_mem_append.2 ⟨hpall, hqall⟩,
    modeAfter_append _ _ _⟩

end TakesAs

/-- Idle text is taken in pieces that are neither cuts nor content. -/
theorem IsIdle.takesAs {s : Text} (h : IsIdle s) (past rest : Text) :
    TakesAs Piece.IsPassed past .normal s rest .normal := by
  induction h generalizing past with
  | nil => exact .nil
  | blank hc _ ih => exact .one (pieceAt_blank hc past _) rfl ⟨rfl, rfl⟩ (ih _)
  | @lineComment body s hbody _ ih =>
    refine .two (p := ⟨['-', '-'], .lineComment, .filler⟩) rfl rfl ⟨rfl, rfl⟩ ?_
    refine ((takesAs_lineComment hbody _ _).imp fun _ => Piece.IsSilent.isPassed).append ?_
    exact .one (pieceAt_newline rfl _ _) rfl ⟨rfl, rfl⟩ (ih _)
  | @blockComment body s hbody _ ih =>
    refine .two (p := ⟨['/', '*'], .blockComment, .filler⟩) rfl rfl ⟨rfl, rfl⟩ ?_
    have hcomment := (takesAs_blockComment hbody ('*' :: '/' :: past) (s ++ rest)).imp
      fun _ => Piece.IsSilent.isPassed
    have hall := hcomment.append (ih _)
    rwa [List.append_assoc] at hall

/-- **Idle text in front of a text without cuts** changes nothing. -/
theorem ScannedTo.preface {lead s : Text} {mode : ScanMode} {content : Bool} (hlead : IsIdle lead)
    (hs : ScannedTo s mode content) : ScannedTo (lead ++ s) mode content := by
  obtain ⟨ps, htakes, hpassed, hnormal⟩ := hlead.takesAs [] s
  have hread : reading [] .normal (lead ++ s) = ps ++ reading [] .normal s := by
    have hpast := reading_of_wordBreak (hlead.wordBreak wordBreak_nil) [] .normal s
    rw [List.nil_append] at hpast
    rw [htakes, hnormal, hpast]
  have hnone : hasContent ps = false := by
    rw [hasContent, List.any_eq_false]
    intro p hp
    simp [(hpassed p hp).2]
  refine ⟨?_, ?_, ?_⟩
  · rw [hread]
    exact List.forall_mem_append.2 ⟨fun p hp => (hpassed p hp).1, hs.uncut⟩
  · rw [hread, modeAfter_append, hnormal, hs.mode]
  · rw [hread, hasContent_append, hnone, hs.content, Bool.false_or]

/-- What is idle in each mode: blanks and comments, or the rest of a comment and then
    blanks and comments. -/
def IsIdleFrom : ScanMode → Text → Prop
  | .normal, s => IsIdle s
  | .lineComment, s => ∃ body r, s = body ++ '\n' :: r ∧ '\n' ∉ body ∧ IsIdle r
  | .blockComment, s =>
    ∃ body r, s = body ++ '*' :: '/' :: r ∧ Text.occursIn ['*', '/'] body = false ∧ IsIdle r
  | .singleQuoted _, _ | .doubleQuoted, _ => True

/-- In front of idle text a piece that is neither a cut nor content is idle too. -/
theorem isIdleFrom_cons {past : Text} {mode : ScanMode} {c : Char} {s r : Text} {p : Piece}
    (hp : pieceAt past mode c s.head? = p) (hr : c :: s = p.text ++ r) (hpassed : p.IsPassed)
    (h : IsIdleFrom p.mode r) : IsIdleFrom mode (c :: s) := by
  subst hp
  generalize hnext : s.head? = next at hr hpassed h
  fun_cases pieceAt past mode c next
  all_goals simp only [pieceAt] at hr hpassed h
  -- What opens a literal or ends a statement is not passed over.
  case case1 | case2 => cases hpassed.2
  case case5 => cases hpassed.1
  case case7 | case8 | case9 | case10 | case11 => trivial
  case case3 =>
    obtain ⟨body, s, rfl, hbody, hs⟩ := h
    rw [hr]
    exact .lineComment hbody hs
  case case4 =>
    obtain ⟨body, s, rfl, hbody, hs⟩ := h
    rw [hr]
    exact .blockComment hbody hs
  case case6 =>
    have hblank : Text.isBlank c = true := by
      by_contra hblank
      rw [if_neg hblank] at hpassed
      cases hpassed.2
    rw [hr]
    exact .blank hblank h
  case case12 =>
    rw [hr]
    exact ⟨[], r, rfl, by simp, h⟩
  case case13 hc =>
    obtain ⟨body, s, rfl, hbody, hs⟩ := h
    rw [hr]
    refine ⟨c :: body, s, rfl, ?_, hs⟩
    rw [List.mem_cons, not_or]
    exact ⟨Ne.symm hc, hbody⟩
  case case14 =>
    rw [hr]
    exact ⟨[], r, rfl, rfl, h⟩
  case case15 hstar =>
    obtain ⟨body, s', rfl, hbody, hs⟩ := h
    obtain rfl : s = body ++ '*' :: '/' :: s' := (List.cons.inj hr).2
    refine ⟨c :: body, s', rfl, ?_, hs⟩
    rw [Text.occursIn, hbody, Bool.or_false]
    -- The mark that closes the comment does not begin with `c`.
    cases body with
    | nil => simp [List.isPrefixOf]
    | cons d body =>
      by_contra hmark
      have hcd : '*' = c ∧ '/' = d := by simpa [List.isPrefixOf] using hmark
      apply hstar hcd.1.symm
      rw [← hnext, hcd.2]
      rfl

/-- **What has neither cut nor content, and leaves nothing open, is idle.** -/
theorem isIdleFrom_of_passed (past : Text) (mode : ScanMode) (s : Text)
    (hpassed : ∀ p ∈ reading past mode s, p.IsPassed)
    (hclosed : modeAfter mode (reading past mode s) = .normal) : IsIdleFrom mode s := by
  induction past, mode, s using reading_induction with
  | nil past mode =>
    obtain rfl : mode = .normal := hclosed
    exact .nil
  | cons past mode c s p r hp hr ih =>
    rw [reading_cons hp hr] at hpassed hclosed
    rw [modeAfter_cons] at hclosed
    obtain ⟨hfirst, hpassed⟩ := List.forall_mem_cons.1 hpassed
    exact isIdleFrom_cons hp hr hfirst (ih hpassed hclosed)

/-- **Idle texts** are those that the scanner takes without a cut, without content and
    without anything left open. -/
theorem isIdle_iff {s : Text} : IsIdle s ↔ ScannedTo s .normal false := by
  constructor
  · intro h
    have hscanned := ScannedTo.nil.preface h
    rwa [List.append_nil] at hscanned
  · intro h
    refine isIdleFrom_of_passed [] .normal s ?_ h.mode
    have hnone := List.any_eq_false.1 h.content
    intro p hp
    exact ⟨h.uncut p hp, by simpa using hnone p hp⟩

/-! ## The same behind idle text -/

/-- **The same text, with blanks and comments in front** of it. -/
def IsPrefaced (s t : Text) : Prop := ∃ lead, IsIdle lead ∧ s = lead ++ t

theorem IsPrefaced.refl (s : Text) : IsPrefaced s s := ⟨[], .nil, rfl⟩

theorem IsPrefaced.trans {s t u : Text} (hst : IsPrefaced s t) (htu : IsPrefaced t u) :
    IsPrefaced s u := by
  obtain ⟨lead, hlead, rfl⟩ := hst
  obtain ⟨others, hothers, rfl⟩ := htu
  exact ⟨lead ++ others, hlead.append hothers, (List.append_assoc _ _ _).symm⟩

/-- What is idle in front of a text is idle in front of what trimming leaves of it. -/
theorem IsIdle.isPrefaced_trim {lead t : Text} (hlead : IsIdle lead)
    (ht : Text.allBlank t = false) : IsPrefaced (Text.trim (lead ++ t)) (Text.trim t) := by
  obtain ⟨a, m, b, rfl, ha, hb, hhead, hlast⟩ := Text.exists_inner Text.isBlank t
  have ha : Text.allBlank a = true := List.all_eq_true.2 ha
  have hb : Text.allBlank b = true := List.all_eq_true.2 hb
  have hm : m ≠ [] := by
    rintro rfl
    rw [Text.allBlank, List.all_append, List.nil_append, Bool.and_eq_false_iff] at ht
    rcases ht with hna | hnb
    · exact Bool.noConfusion (ha.symm.trans hna)
    · exact Bool.noConfusion (hb.symm.trans hnb)
  have htrimmed : IsTrimmed m := ⟨hhead, hlast⟩
  rw [Text.trim_append ha htrimmed hm hb, ← List.append_assoc]
  have hfront : IsIdle (lead ++ a) := hlead.append (.of_allBlank ha)
  by_cases hblank : Text.allBlank (lead ++ a) = true
  · rw [Text.trim_append hblank htrimmed hm hb]
    exact .refl m
  · rw [Bool.not_eq_true] at hblank
    have hend : ∀ c ∈ (Text.trimStart (lead ++ a) ++ m).getLast?, Text.isBlank c = false := by
      rw [List.getLast?_append_of_ne_nil _ hm]
      exact hlast
    refine ⟨Text.trimStart (lead ++ a), hfront.trimStart, ?_⟩
    rw [Text.trim, Text.trimStart_append_of_not_blank hblank, ← List.append_assoc,
      Text.trimEnd_append hb hend]

end SqlShell
