import SqlShell.Proofs.Launch.Framing
import SqlShell.Proofs.Session.Saving
import SqlShell.Proofs.Statement.Commands
import SqlShell.Proofs.Statement.Tokens

/-! # Replaying the History File

    The lines of a history file come in as statements again: the same number of
    them, in the same order, each on one line, **unless one of them holds a comment
    that ends with its line**. On one line such a comment takes in all that follows
    it, the semicolon at the end as well.

    * **`reading_onOneLine`**: without such a comment a statement is read in the same
      pieces once its line ends are blanks.
    * **`exists_reading_swallowed`**: with one, nothing is cut off its line.
    * **`replays_iff`** is the result. -/

namespace SqlShell

open Text (onOneLine)

/-! ## Line ends that become blanks -/

/-- The piece on one line. -/
def Piece.onOneLine (p : Piece) : Piece := { p with text := p.text.map blankForBreak }

/-- A comment is open behind it that ends with its line. -/
def Piece.isLineComment (p : Piece) : Bool := p.mode = .lineComment

/-- **A statement holds a comment that ends with its line.** -/
def HoldsLineComment (s : Text) : Prop := ∃ p ∈ reading [] .normal s, p.isLineComment = true

instance : DecidablePred HoldsLineComment := fun s =>
  inferInstanceAs (Decidable (∃ p ∈ reading [] .normal s, p.isLineComment = true))

theorem blankForBreak_eq_self {c : Char} (h : ¬ (c = '\r' ∨ c = '\n')) : blankForBreak c = c :=
  if_neg h

/-- No other character becomes one of the marks that the scanner looks for. -/
theorem blankForBreak_eq_iff {c d : Char} (hd : d ≠ ' ' ∧ d ≠ '\r' ∧ d ≠ '\n') :
    blankForBreak c = d ↔ c = d := by
  by_cases hc : c = '\r' ∨ c = '\n'
  · have hblank : blankForBreak c = ' ' := if_pos hc
    rw [hblank]
    constructor
    · exact fun h => absurd h.symm hd.1
    · intro h
      rw [h] at hc
      exact absurd hc (by simp [hd.2])
  · rw [blankForBreak_eq_self hc]

theorem escapeMark_map (past : Text) : escapeMark (past.map blankForBreak) = escapeMark past := by
  have hmark (c : Char) :
      (blankForBreak c = 'e' ∨ blankForBreak c = 'E') ↔ (c = 'e' ∨ c = 'E') := by
    rw [blankForBreak_eq_iff (by decide), blankForBreak_eq_iff (by decide)]
  have hword (c : Char) : (Text.isAlphanumeric (blankForBreak c) || decide (blankForBreak c = '_'))
      = (Text.isAlphanumeric c || decide (c = '_')) := by
    by_cases hc : c = '\r' ∨ c = '\n'
    · have hblank : blankForBreak c = ' ' := if_pos hc
      rw [hblank]
      rcases hc with hc | hc <;>
        · rw [hc]
          decide +kernel
    · rw [blankForBreak_eq_self hc]
  match past with
  | [] => rfl
  | [c] => simp only [List.map_cons, List.map_nil, escapeMark, hmark]
  | c :: d :: past => simp only [List.map_cons, escapeMark, hmark, hword]

/-- **A step of the scanner** does not tell a blank from the end of a line, but in a
    comment that ends with it. -/
theorem pieceAt_onOneLine {past : Text} {mode : ScanMode} {c : Char} {next : Option Char}
    (hmode : mode ≠ .lineComment) :
    pieceAt (past.map blankForBreak) mode (blankForBreak c) (next.map blankForBreak)
      = (pieceAt past mode c next).onOneLine := by
  by_cases hc : c = '\r' ∨ c = '\n'
  · have hblank : blankForBreak c = ' ' := if_pos hc
    rw [hblank]
    cases mode with
    | lineComment => exact absurd rfl hmode
    | normal =>
      have hisBlank : Text.isBlank c = true := by
        rcases hc with hc | hc <;>
          · rw [hc]
            decide
      rw [pieceAt_blank (by decide), pieceAt_blank hisBlank]
      simp [Piece.onOneLine, hblank]
    | singleQuoted | doubleQuoted | blockComment =>
      rcases hc with hc | hc <;> simp [hc, pieceAt, Piece.onOneLine, blankForBreak]
  · have hself := blankForBreak_eq_self hc
    have hnext (d : Char) (hd : d ≠ ' ' ∧ d ≠ '\r' ∧ d ≠ '\n') :
        next.map blankForBreak = some d ↔ next = some d := by
      cases next with
      | none => simp
      | some e => simp [blankForBreak_eq_iff hd]
    have hdash := hnext '-' (by decide)
    have hstar := hnext '*' (by decide)
    have hslash := hnext '/' (by decide)
    rw [hself]
    fun_cases pieceAt past mode c next
    case case1 => simp [pieceAt, Piece.onOneLine, escapeMark_map, hself]
    case case3 | case4 | case8 | case14 => rfl
    case case6 hq hd hs hdash hslash =>
      have hdash : ¬ (c = '-' ∧ next.map blankForBreak = some '-') := by
        intro h
        exact hdash h.1 ((hnext '-' (by decide)).1 h.2)
      have hslash : ¬ (c = '/' ∧ next.map blankForBreak = some '*') := by
        intro h
        exact hslash h.1 ((hnext '*' (by decide)).1 h.2)
      rw [pieceAt_other hq hd hs hdash hslash, Piece.onOneLine, List.map_singleton, hself]
    case case9 escapes hq hback =>
      have hplain : next = none ∨ (escapes = true → c ≠ '\\') := by
        cases next with
        | none => exact .inl rfl
        | some d =>
          refine .inr fun hescapes hc => ?_
          exact hback d hc rfl hescapes
      rcases hplain with hnone | hplain
      · rw [hnone]
        simp [pieceAt, Piece.onOneLine, hself]
      · rw [pieceAt_inString hq hplain, Piece.onOneLine, List.map_singleton, hself]
    case case15 hstar =>
      have hstar : c = '*' → next.map blankForBreak ≠ some '/' := by
        intro hc h
        exact hstar hc ((hnext '/' (by decide)).1 h)
      rw [pieceAt_inBlockComment hstar, Piece.onOneLine, List.map_singleton, hself]
    all_goals simp_all [pieceAt, Piece.onOneLine]

/-- **A text without such a comment** is read in the same pieces on one line. -/
theorem reading_onOneLine {past : Text} {mode : ScanMode} {s : Text} (hmode : mode ≠ .lineComment)
    (hs : ∀ p ∈ reading past mode s, p.isLineComment = false) :
    reading (past.map blankForBreak) mode (s.map blankForBreak)
      = (reading past mode s).map Piece.onOneLine := by
  induction past, mode, s using reading_induction with
  | nil past mode => rfl
  | cons past mode c s p r hp hr ih =>
    rw [reading_cons hp hr] at hs ⊢
    obtain ⟨hpiece, hrest⟩ := List.forall_mem_cons.1 hs
    have hstep : pieceAt (past.map blankForBreak) mode (blankForBreak c)
        (s.map blankForBreak).head? = p.onOneLine := by
      rw [List.head?_map, pieceAt_onOneLine hmode, hp]
    have htext : blankForBreak c :: s.map blankForBreak
        = p.onOneLine.text ++ r.map blankForBreak := by
      rw [← List.map_cons, hr, List.map_append]
      rfl
    -- The piece opens no such comment, so the induction goes on behind it.
    have hnext := ih (of_decide_eq_false hpiece) hrest
    rw [List.map_append, List.map_reverse] at hnext
    rw [List.map_cons, reading_cons hstep htext, List.map_cons]
    exact congrArg (p.onOneLine :: ·) hnext

theorem hasContent_map (ps : List Piece) :
    hasContent (ps.map Piece.onOneLine) = hasContent ps := by
  rw [hasContent, List.any_map]
  rfl

/-- No line ends within a line. -/
theorem isLineEnd_onOneLine (p : Piece) : p.onOneLine.isLineEnd = false := by
  apply decide_eq_false
  intro hline
  have hmem : '\n' ∈ onOneLine p.text := by
    show '\n' ∈ p.onOneLine.text
    rw [hline.1]
    exact List.mem_cons_self
  exact (Text.not_mem_onOneLine p.text).1 hmem

theorem modeAfter_map (mode : ScanMode) (ps : List Piece) :
    modeAfter mode (ps.map Piece.onOneLine) = modeAfter mode ps := by
  rw [modeAfter, List.getLast?_map, Option.map_map]
  rfl

theorem modeAfter_ne_of_forall {mode : ScanMode} {ps : List Piece} (hmode : mode ≠ .lineComment)
    (hps : ∀ p ∈ ps, p.isLineComment = false) : modeAfter mode ps ≠ .lineComment := by
  cases ps using List.reverseRecOn with
  | nil => exact hmode
  | append_singleton ps p =>
    rw [modeAfter_concat]
    exact of_decide_eq_false (hps p (List.mem_append_right _ List.mem_cons_self))

/-! ## A statement without such a comment -/

section Stable

variable {s : Text} {ps : List Piece} (h : IsStable s ps)

include h

theorem IsStable.isTrimmed_onOneLine : (onOneLine s).IsTrimmed := by
  have hsolid (c : Char) (hc : Text.isBlank c = false) :
      Text.isBlank (blankForBreak c) = false := by
    have hnone : ¬ (c = '\r' ∨ c = '\n') := by
      intro hbreak
      rcases hbreak with hbreak | hbreak <;>
        · rw [hbreak] at hc
          cases hc
    rw [blankForBreak_eq_self hnone]
    exact hc
  constructor
  · intro c hc
    rw [onOneLine, List.head?_map] at hc
    obtain ⟨d, hd, hdc⟩ := Option.map_eq_some_iff.1 hc
    rw [← hdc]
    exact hsolid d (h.trimmed.head d hd)
  · intro c hc
    rw [onOneLine, List.getLast?_map] at hc
    obtain ⟨d, hd, hdc⟩ := Option.map_eq_some_iff.1 hc
    rw [← hdc]
    exact hsolid d (h.trimmed.last d hd)

/-- Nothing is trimmed off a statement on one line. -/
theorem IsStable.trim_onOneLine : Text.trim (onOneLine s) = onOneLine s := by
  apply h.isTrimmed_onOneLine.trim_eq
  intro hnil
  exact h.ne_nil (List.map_eq_nil_iff.1 hnil)

/-- **On one line it is one command.** -/
theorem IsStable.isOneCommand (hs : ¬ HoldsLineComment s) : IsOneCommand (onOneLine s) := by
  have hnone : ∀ p ∈ reading [] .normal s, p.isLineComment = false := by
    intro p hp
    rw [← Bool.not_eq_true]
    exact fun hcomment => hs ⟨p, hp, hcomment⟩
  have hread : reading [] .normal (onOneLine s) = ps.map Piece.onOneLine := by
    have hread := reading_onOneLine (by decide) hnone
    rw [h.read] at hread
    exact hread
  constructor
  · rw [hread]
    intro p hp
    obtain ⟨q, hq, hqp⟩ := List.mem_map.1 hp
    rw [← hqp]
    exact h.uncut q hq
  · rw [h.read] at hnone
    have hline : modeAfter .normal ps ≠ .lineComment := modeAfter_ne_of_forall (by decide) hnone
    have hclosed := h.closed
    rw [hread, modeAfter_map]
    cases hmode : modeAfter .normal ps with
    | normal => rfl
    | lineComment => exact absurd hmode hline
    | singleQuoted | doubleQuoted | blockComment =>
      rw [hmode] at hclosed
      cases hclosed
  · rw [hread, hasContent_map, h.content]

end Stable

/-! ## A statement with such a comment -/

/-- It begins with two dashes. -/
theorem eq_of_isLineComment {past : Text} {mode : ScanMode} {c : Char} {next : Option Char}
    (hmode : mode ≠ .lineComment) (h : (pieceAt past mode c next).isLineComment = true) :
    mode = .normal ∧ c = '-' ∧ next = some '-' := by
  fun_cases pieceAt past mode c next <;> simp_all [pieceAt, Piece.isLineComment]

/-- **Such a comment takes in the rest of its line.** -/
theorem exists_reading_comment {body : Text} (hbody : '\n' ∉ body) (past : Text) :
    ∃ qs, (∀ q ∈ qs, q.IsSilent) ∧
      reading past .normal ('-' :: '-' :: (body ++ ['\n'])) = qs ++ [Piece.newline] := by
  obtain ⟨qs, htakes, hsilent, hlast⟩ := takesAs_lineComment hbody ('-' :: '-' :: past) ['\n']
  refine ⟨⟨['-', '-'], .lineComment, .filler⟩ :: qs, ?_, ?_⟩
  · intro q hq
    rcases List.mem_cons.1 hq with hq | hq
    · rw [hq]
      decide
    · exact hsilent q hq
  · have hline : reading past .normal ('-' :: '-' :: (body ++ ['\n']))
        = ⟨['-', '-'], .lineComment, .filler⟩
          :: reading ('-' :: '-' :: past) .lineComment (body ++ ['\n']) := reading_cons rfl rfl
    have hend (past : Text) : reading past .lineComment ['\n'] = [Piece.newline] := by
      rw [reading_cons (pieceAt_newline rfl past none) (List.append_nil ['\n']).symm]
      rfl
    rw [hline, htakes, hlast, hend]
    rfl

/-- **A statement with such a comment has its semicolon in it**: behind the pieces
    in front of the comment nothing is cut off, and nothing is content. -/
theorem exists_reading_swallowed {past : Text} {mode : ScanMode} {s : Text}
    (hmode : mode ≠ .lineComment) (hs : ∃ p ∈ reading past mode s, p.isLineComment = true) :
    ∃ front p rear qs, reading past mode s = front ++ p :: rear ∧ p.isLineComment = true ∧
      p.isContent = false ∧ (∀ q ∈ qs, q.IsSilent) ∧
      reading (past.map blankForBreak) mode (s.map blankForBreak ++ [';', '\n'])
        = front.map Piece.onOneLine ++ qs ++ [Piece.newline] := by
  induction past, mode, s using reading_induction with
  | nil past mode =>
    obtain ⟨p, hp, -⟩ := hs
    cases hp
  | cons past mode c s p r hp hr ih =>
    by_cases hcomment : p.isLineComment = true
    · obtain ⟨hnormal, hc, hnext⟩ := eq_of_isLineComment hmode (hp ▸ hcomment)
      obtain ⟨t, ht⟩ := List.head?_eq_some_iff.1 hnext
      subst hnormal hc ht
      have hdashes : p = ⟨['-', '-'], .lineComment, .filler⟩ := hp.symm
      have hbody : '\n' ∉ t.map blankForBreak ++ [';'] := by
        intro hmem
        rcases List.mem_append.1 hmem with hmem | hmem
        · exact (Text.not_mem_onOneLine t).1 hmem
        · exact absurd hmem (by decide)
      obtain ⟨qs, hsilent, hline⟩ := exists_reading_comment hbody (past.map blankForBreak)
      refine ⟨[], p, _, qs, reading_cons hp hr, hcomment, ?_, hsilent, ?_⟩
      · rw [hdashes]
        rfl
      · rw [List.append_assoc] at hline
        exact hline
    · have hmore : ∃ q ∈ reading (p.text.reverse ++ past) p.mode r, q.isLineComment = true := by
        rw [reading_cons hp hr] at hs
        obtain ⟨q, hq, hqcomment⟩ := hs
        rcases List.mem_cons.1 hq with hqp | hq
        · rw [hqp] at hqcomment
          exact absurd hqcomment hcomment
        · exact ⟨q, hq, hqcomment⟩
      have hpmode : p.mode ≠ .lineComment := fun h => hcomment (decide_eq_true h)
      obtain ⟨front, q, rear, qs, hread, hq, hqcontent, hsilent, hline⟩ := ih hpmode hmore
      refine ⟨p :: front, q, rear, qs, ?_, hq, hqcontent, hsilent, ?_⟩
      · rw [reading_cons hp hr, hread]
        rfl
      · -- The comment is still to come, so the lookahead is in the statement.
        have hahead : pieceAt (past.map blankForBreak) mode (blankForBreak c)
            (s.map blankForBreak ++ [';', '\n']).head? = p.onOneLine := by
          cases s with
          | nil =>
            rw [rest_eq_nil hp hr] at hmore
            obtain ⟨q, hq, -⟩ := hmore
            cases hq
          | cons d s =>
            rw [← hp, ← pieceAt_onOneLine hmode]
            rfl
        have htext : blankForBreak c :: (s.map blankForBreak ++ [';', '\n'])
            = p.onOneLine.text ++ (r.map blankForBreak ++ [';', '\n']) := by
          rw [← List.cons_append, ← List.map_cons, hr, List.map_append, List.append_assoc]
          rfl
        rw [List.map_append, List.map_reverse] at hline
        rw [List.map_cons, List.cons_append, reading_cons hahead htext, List.map_cons]
        exact congrArg (p.onOneLine :: ·) hline

/-- A line that begins in such a comment ends in front of all content. -/
theorem exists_lineEnd_before {past r : Text}
    (h : hasContent (reading past .lineComment r) = true) :
    ∃ q ∈ (reading past .lineComment r).takeWhile (!Piece.isContent ·), q.isLineEnd = true := by
  induction r generalizing past with
  | nil => cases h
  | cons c r ih =>
    by_cases hc : c = '\n'
    · rw [hc, reading_cons (pieceAt_newline rfl past r.head?) rfl]
      exact ⟨Piece.newline, List.mem_cons_self, rfl⟩
    · have hp : pieceAt past .lineComment c r.head? = ⟨[c], .lineComment, .filler⟩ := by
        simp [pieceAt]
      rw [reading_cons hp rfl] at h ⊢
      obtain ⟨q, hq, hline⟩ := ih h
      exact ⟨q, List.mem_cons_of_mem _ hq, hline⟩

/-- **The line of a statement with such a comment** is all one statement, which goes
    on behind it. -/
theorem exists_uncut_line {s : Text} {ps : List Piece} (h : IsStable s ps)
    (hs : HoldsLineComment s) :
    ∃ qs, reading [] .normal (savedLine s) = qs ∧ (∀ q ∈ qs, q.isCut = false) ∧
      hasContent qs = true ∧ kept qs = qs := by
  obtain ⟨front, p, rear, qs, hread, hp, hidle, hsilent, hline⟩ :=
    exists_reading_swallowed (by decide) hs
  rw [h.read] at hread
  -- A statement does not begin with a comment that ends with its line.
  have hfront : hasContent front = true := by
    by_contra hnone
    rw [Bool.not_eq_true] at hnone
    have hrear : hasContent rear = true := by
      have hcontent := h.content
      rw [hread, hasContent_append, hnone, hasContent, List.any_cons, hidle] at hcontent
      exact hcontent
    have hjoined : reading [] .normal s = (front ++ [p]) ++ rear := by
      rw [h.read, hread, List.append_cons]
    have hsuffix := reading_suffix hjoined
    rw [modeAfter_concat, of_decide_eq_true hp] at hsuffix
    rw [← hsuffix] at hrear
    obtain ⟨q, hq, hqline⟩ := exists_lineEnd_before hrear
    rw [hsuffix] at hq
    obtain ⟨dropped, -, -, -, hprompt⟩ := exists_kept ps
    have hidles : ∀ x ∈ front ++ [p], (!x.isContent) = true := by
      intro x hx
      rcases List.mem_append.1 hx with hx | hx
      · rw [hasContent, List.any_eq_false] at hnone
        simpa using hnone x hx
      · rw [List.mem_singleton.1 hx, hidle]
        rfl
    have hmem : q ∈ ps.takeWhile (!Piece.isContent ·) := by
      rw [hread, List.append_cons, List.takeWhile_append_of_pos hidles]
      exact List.mem_append_right _ hq
    rw [h.kept] at hprompt
    rw [hprompt q hmem] at hqline
    cases hqline
  have hbody : ∀ q ∈ front.map Piece.onOneLine ++ qs, q.isCut = false ∧ q.isLineEnd = false := by
    intro q hq
    rcases List.mem_append.1 hq with hq | hq
    · obtain ⟨x, hx, hxq⟩ := List.mem_map.1 hq
      rw [← hxq]
      exact ⟨h.uncut x (hread ▸ List.mem_append_left _ hx), isLineEnd_onOneLine x⟩
    · exact (hsilent q hq).1
  have hcontent : hasContent (front.map Piece.onOneLine ++ qs) = true := by
    rw [hasContent_append, hasContent_map, hfront]
    rfl
  refine ⟨_, hline, ?_, ?_, ?_⟩
  · intro q hq
    rcases List.mem_append.1 hq with hq | hq
    · exact (hbody q hq).1
    · rw [List.mem_singleton.1 hq]
      rfl
  · rw [hasContent_append, hcontent]
    rfl
  · have hkept := TokenBlocks.kept_append [] fun q hq => (hbody q hq).2
    rw [List.nil_append] at hkept
    rw [kept_concat, hcontent, hkept]
    rfl

/-- The first statement that comes out begins with all that was uncut. -/
theorem exists_first_statement {qs rest : List Piece} (huncut : ∀ q ∈ qs, q.isCut = false)
    (hcontent : hasContent qs = true) (hkept : kept qs = qs) :
    ∃ more others, ((qs ++ rest).splitOnP Piece.isCut).filterMap statement?
      = Text.trim (textOf qs ++ more) :: others := by
  obtain ⟨first, others, hsplit⟩ :=
    List.exists_cons_of_ne_nil (List.splitOnP_ne_nil Piece.isCut rest)
  have hall (l : List Piece) : kept (qs ++ l) = qs ++ l := by
    induction l using List.reverseRecOn with
    | nil => rw [List.append_nil, hkept]
    | append_singleton l p ih =>
      rw [← List.append_assoc, kept_concat, hasContent_append, hcontent, ih]
      rfl
  have hstatement : statement? (qs ++ first) = some (Text.trim (textOf qs ++ textOf first)) := by
    rw [statement?, hasContent_append, hcontent, hall, textOf_append]
    rfl
  rw [TokenBlocks.splitOnP_append_uncut huncut, hsplit, List.modifyHead_cons,
    List.filterMap_cons_some hstatement]
  exact ⟨_, _, rfl⟩

/-- A semicolon is not trimmed away. -/
theorem exists_trim_semicolon {x : Text} (hx : ∀ c ∈ x.head?, Text.isBlank c = false) (y : Text) :
    ∃ z, Text.trim (x ++ ';' :: y) = x ++ ';' :: z := by
  have hhead : ∀ c ∈ (x ++ ';' :: y).head?, Text.isBlank c = false := by
    cases x with
    | nil =>
      intro c hc
      obtain rfl : ';' = c := Option.some.inj hc
      decide
    | cons d x => exact hx
  have hstart : Text.trimStart (x ++ ';' :: y) = x ++ ';' :: y :=
    Text.trimStart_append (a := []) rfl hhead
  rw [Text.trim, hstart, Text.trimEnd, Text.dropEndWhile_append_of_exists x
    ⟨';', List.mem_cons_self, by decide⟩, Text.dropEndWhile_cons (by decide)]
  exact ⟨_, rfl⟩

namespace StatementBuffer

/-- **If the input ends well** its statements are those between the cuts, and the one
    behind the last of them. -/
theorem statements_of_ok {lines : List Text} {statements : List Text}
    (hlines : ∀ line ∈ lines, IsLine line) (h : statementsOfLines lines = .ok statements) :
    statements
      = ((reading [] .normal (textOfLines lines)).splitOnP Piece.isCut).filterMap statement? := by
  obtain ⟨hholds, hcompleted, hrest⟩ := takeLines_empty hlines
  rw [statementsOfLines_eq, hholds.finish hrest, ← hcompleted, completed, current] at h
  split at h
  case isTrue => cases h
  case isFalse =>
    have hne := List.splitOnP_ne_nil Piece.isCut (reading [] .normal (textOfLines lines))
    generalize (reading [] .normal (textOfLines lines)).splitOnP Piece.isCut = segments at h hne ⊢
    cases segments using List.reverseRecOn with
    | nil => exact absurd rfl hne
    | append_singleton done last =>
      rw [List.dropLast_concat, List.getLastD_concat] at h
      rw [← Except.ok.inj h, List.filterMap_append]
      cases hlast : statement? last <;> simp [hlast]

/-! ## The lines of a history file -/

/-- **A statement as the buffer gives it out**, for some lines that have come in. -/
def GivesOut (s : Text) : Prop :=
  ∃ lines, (∀ line ∈ lines, IsLine line) ∧
    (s ∈ (empty.takeLines lines).1 ∨ (empty.takeLines lines).2.finish = .ok (some s))

/-- **A statement without a comment that ends with its line** comes out of its line
    at once. -/
theorem takeLine_of_not_holds {s : Text} (h : GivesOut s) (hs : ¬ HoldsLineComment s) :
    empty.takeLine (savedLine s) = ([onOneLine s], empty) := by
  obtain ⟨lines, hlines, hgiven⟩ := h
  obtain ⟨ps, hstable⟩ := exists_isStable hlines hgiven
  have hline : savedLine s = commandLine [onOneLine s] ['\n'] := by
    simp [savedLine, commandLine]
  have hone : ∀ c ∈ [onOneLine s], IsOneCommand c := by
    intro c hc
    rw [List.mem_singleton.1 hc]
    exact hstable.isOneCommand hs
  rw [hline, takeLine_commands hone (by decide), List.map_singleton, hstable.trim_onOneLine]

/-- The line of a statement is a line. -/
theorem isLine_savedLine (s : Text) : IsLine (savedLine s) := by
  unfold IsLine
  rw [savedLine, List.append_cons, List.dropLast_concat]
  exact s.not_mem_onOneLine_semicolon.1

/-- **A statement with such a comment** never comes out as it was. -/
theorem statements_ne_of_holds {s : Text} (h : GivesOut s) (hs : HoldsLineComment s)
    {lines others : List Text} (hlines : ∀ line ∈ lines, IsLine line) :
    statementsOfLines ((savedLine s) :: lines) ≠ .ok (onOneLine s :: others) := by
  intro hok
  obtain ⟨given, hgiven, hout⟩ := h
  obtain ⟨ps, hstable⟩ := exists_isStable hgiven hout
  obtain ⟨qs, hread, huncut, hcontent, hkept⟩ := exists_uncut_line hstable hs
  have htext : textOfLines (savedLine s :: lines) = savedLine s ++ textOfLines lines := by
    have hdrop := dropLineEnd_concat s.not_mem_onOneLine_semicolon.2
    rw [List.append_assoc] at hdrop
    show Text.dropLineEnd (savedLine s) ++ ['\n'] ++ textOfLines lines = _
    rw [savedLine, show [';', '\n'] = [';'] ++ ['\n'] from rfl, hdrop,
      List.append_assoc (onOneLine s)]
  have hstatements := statements_of_ok (List.forall_mem_cons.2 ⟨isLine_savedLine s, hlines⟩) hok
  rw [htext, reading_append (by simp [savedLine]), hread] at hstatements
  obtain ⟨more, rest, hfirst⟩ := exists_first_statement huncut hcontent hkept
  rw [hfirst, ← hread, textOf_reading, savedLine, List.append_assoc] at hstatements
  -- The first statement that comes out goes on with the semicolon.
  obtain ⟨z, hz⟩ := exists_trim_semicolon hstable.isTrimmed_onOneLine.head (['\n'] ++ more)
  have hsame := (List.cons.inj hstatements).1.trans hz
  have hlength := congrArg List.length hsame
  rw [List.length_append, List.length_cons] at hlength
  omega

end StatementBuffer

/-- A line of a stream up to its end, and the lines behind it. -/
theorem streamLinesAfter_append {body : Text} (hbody : '\n' ∉ body) (line rest : Text) :
    Text.streamLinesAfter line (body ++ '\n' :: rest)
      = (line.reverse ++ body ++ ['\n']) :: Text.streamLines rest := by
  induction body generalizing line with
  | nil =>
    rw [List.nil_append, Text.streamLinesAfter, if_pos rfl, List.append_nil, List.reverse_cons]
    rfl
  | cons c body ih =>
    obtain ⟨hc, hbody⟩ : '\n' ≠ c ∧ '\n' ∉ body := by simpa using hbody
    rw [List.cons_append, Text.streamLinesAfter, if_neg hc.symm, ih hbody]
    simp

/-- The lines of a history file are those that have been written. -/
theorem streamLines_savedLines (statements : List Text) :
    Text.streamLines (savedLines statements) = statements.map savedLine := by
  induction statements with
  | nil => rfl
  | cons s statements ih =>
    have hline := streamLinesAfter_append s.not_mem_onOneLine_semicolon.1 [] (savedLines statements)
    have htext : savedLines (s :: statements)
        = onOneLine s ++ [';'] ++ '\n' :: savedLines statements := by
      simp [savedLines, savedLine]
    rw [List.map_cons, ← ih, htext, Text.streamLines, hline]
    rw [List.reverse_nil, List.nil_append, List.append_assoc]
    rfl

/-! ## Replaying -/

namespace StatementBuffer

/-- The statements of a history file come out line by line, up to the first that
    holds such a comment. -/
theorem takeLines_savedLines {recorded : List Text} (hrecorded : ∀ s ∈ recorded, GivesOut s)
    (hs : ∀ s ∈ recorded, ¬ HoldsLineComment s) :
    empty.takeLines (recorded.map savedLine) = (recorded.map onOneLine, empty) := by
  induction recorded with
  | nil => rfl
  | cons s recorded ih =>
    obtain ⟨hfirst, hrecorded⟩ := List.forall_mem_cons.1 hrecorded
    obtain ⟨hsfirst, hs⟩ := List.forall_mem_cons.1 hs
    rw [List.map_cons, takeLines_cons, takeLine_of_not_holds hfirst hsfirst, ih hrecorded hs]
    rfl

/-- **The lines of a history file give the statements** if and only if none of them
    holds such a comment. -/
theorem statements_savedLines_iff {recorded : List Text} (hrecorded : ∀ s ∈ recorded, GivesOut s) :
    statementsOfLines (recorded.map savedLine) = .ok (recorded.map onOneLine)
      ↔ ∀ s ∈ recorded, ¬ HoldsLineComment s := by
  constructor
  · intro hok
    induction recorded with
    | nil => nofun
    | cons s recorded ih =>
      obtain ⟨hfirst, hrecorded⟩ := List.forall_mem_cons.1 hrecorded
      have hlines : ∀ line ∈ recorded.map savedLine, IsLine line := by
        intro line hline
        obtain ⟨t, -, ht⟩ := List.mem_map.1 hline
        rw [← ht]
        exact isLine_savedLine t
      have hs : ¬ HoldsLineComment s := fun hs => statements_ne_of_holds hfirst hs hlines hok
      have hrest : statementsOfLines (recorded.map savedLine) = .ok (recorded.map onOneLine) := by
        rw [List.map_cons, statementsOfLines_eq, takeLines_cons,
          takeLine_of_not_holds hfirst hs] at hok
        rw [statementsOfLines_eq]
        cases hfinish : (empty.takeLines (recorded.map savedLine)).2.finish with
        | error e =>
          rw [hfinish] at hok
          cases hok
        | ok tail =>
          rw [hfinish] at hok
          exact congrArg Except.ok (List.cons.inj (Except.ok.inj hok)).2
      exact List.forall_mem_cons.2 ⟨hs, ih hrecorded hrest⟩
  · intro hs
    rw [statementsOfLines_eq, takeLines_savedLines hrecorded hs]
    exact congrArg Except.ok (List.append_nil _)

end StatementBuffer

namespace Session

/-- What a file without content holds once all statements have been saved to it. -/
theorem text_saveHistory {session : Session} {file : HistoryFile} (hnew : session.saved = 0)
    (hpath : session.historyPath? ≠ none) (hempty : file.text = [])
    (hfault : file.fault file.attempts = none) :
    (session.saveHistory file).file.text = savedLines session.history := by
  have hsaves := session.saves_saveHistory file
  have hstart : file.text = [] ++ savedLines (session.history.take session.saved) := by
    rw [hempty, hnew]
    rfl
  have hall := List.drop_eq_nil_iff.1 (hsaves.unsaved_eq_nil hfault)
  rw [hsaves.text_eq hpath hstart, List.take_of_length_le hall, hsaves.history_eq.1]
  rfl

/-- **A history can be replayed** if and only if none of its statements holds a comment
    that ends with its line. The statements have been given out by the buffer, and
    they have been saved to a history file without content. Its lines then give the
    same statements in the same order, each on one line, and each comes out of its
    own line. -/
theorem replays_iff (session : Session) (file : HistoryFile)
    (hrecorded : ∀ s ∈ session.history, StatementBuffer.GivesOut s) (hnew : session.saved = 0)
    (hpath : session.historyPath? ≠ none) (hempty : file.text = [])
    (hfault : file.fault file.attempts = none) :
    (statementsOfLines (Text.streamLines (session.saveHistory file).file.text)
        = .ok (session.history.map onOneLine)
      ↔ ∀ s ∈ session.history, ¬ HoldsLineComment s) ∧
      ((∀ s ∈ session.history, ¬ HoldsLineComment s) →
        StatementBuffer.empty.takeLines (Text.streamLines (session.saveHistory file).file.text)
          = (session.history.map onOneLine, .empty)) := by
  rw [text_saveHistory hnew hpath hempty hfault, streamLines_savedLines]
  exact ⟨StatementBuffer.statements_savedLines_iff hrecorded,
    StatementBuffer.takeLines_savedLines hrecorded⟩

/-- A session with a history to be saved. -/
def withHistory (history : List Text) : Session where
  settings := { historyFile := some "h".toList }
  history := history

/-- A statement on two lines, with semicolons in a string and a comment, is replayed. -/
theorem replays_iff_two_lines :
    let session := withHistory ["select ';'\n/* ; */".toList, "select 2".toList]
    (∀ s ∈ session.history, StatementBuffer.GivesOut s) ∧ session.saved = 0 ∧
      session.historyPath? ≠ none ∧
      statementsOfLines (Text.streamLines (session.saveHistory {}).file.text)
        = .ok ["select ';' /* ; */".toList, "select 2".toList] := by
  intro session
  have hgiven : ∀ s ∈ session.history, StatementBuffer.GivesOut s := by
    intro s hs
    have hlines : ∀ line ∈ ["select ';'\n".toList, "/* ; */; select 2;\n".toList], IsLine line := by
      decide
    refine ⟨_, hlines, .inl ?_⟩
    rw [← (StatementBuffer.takeLines_empty hlines).2.1]
    revert s
    decide +kernel
  have hplain : ∀ s ∈ session.history, ¬ HoldsLineComment s := by decide +kernel
  refine ⟨hgiven, rfl, nofun, ?_⟩
  exact (replays_iff session {} hgiven rfl nofun rfl rfl).1.2 hplain

/-- **A comment that ends with its line takes in the semicolon** behind its statement,
    and the two statements come back as one. -/
theorem comment_swallows_semicolon :
    let session := withHistory ["select 1 -- c".toList, "select 2".toList]
    (∀ s ∈ session.history, StatementBuffer.GivesOut s) ∧
      session.history.map onOneLine = ["select 1 -- c".toList, "select 2".toList] ∧
      statementsOfLines (Text.streamLines (session.saveHistory {}).file.text)
        = .ok ["select 1 -- c;\nselect 2".toList] := by
  intro session
  have hgiven : ∀ s ∈ session.history, StatementBuffer.GivesOut s := by
    intro s hs
    have hlines : ∀ line ∈ ["select 1 -- c\n".toList, "; select 2;\n".toList], IsLine line := by
      decide
    refine ⟨_, hlines, .inl ?_⟩
    rw [← (StatementBuffer.takeLines_empty hlines).2.1]
    revert s
    decide +kernel
  have hlines : ∀ line ∈ ["select 1 -- c;\n".toList, "select 2;\n".toList], IsLine line := by decide
  obtain ⟨htexts, hclose⟩ := StatementBuffer.takeLines_eq_wholeScan _ hlines
  have hscan : wholeScan (textOfLines ["select 1 -- c;\n".toList, "select 2;\n".toList])
      = (["select 1 -- c;\nselect 2".toList], .ok none) := by
    decide +kernel
  rw [hscan] at htexts hclose
  refine ⟨hgiven, rfl, ?_⟩
  have hpath : session.historyPath? ≠ none := nofun
  have hsaved : session.history.map savedLine
      = ["select 1 -- c;\n".toList, "select 2;\n".toList] := rfl
  rw [text_saveHistory rfl hpath rfl rfl, streamLines_savedLines, hsaved, statementsOfLines]
  dsimp only
  rw [hclose, htexts]
  rfl

end Session

end SqlShell
