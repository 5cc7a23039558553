import Mathlib.Data.List.DropRight
import SqlShell.Statement.Buffer

/-! # Reading a Whole Text

    One scan over a text that is there all at once.  Nothing that lies behind
    the scanner is forgotten, and nothing is taken out: the text falls into
    pieces, and the statements are found among them afterwards.

    * **`Piece`** is what the scanner takes in one step, `pieceAt` the table of
      its steps, and **`reading`** the pieces of a text.
    * **`statement?`** is the statement in the pieces between two cuts, if they
      have any content; `dropIdleLines` leaves out the lines in front of it.
    * A reading depends on what surrounds the text at its two ends only: in
      front, on whether a word reaches into it (`WordBreak`), and behind, on the
      character that follows. -/

namespace SqlShell

open Text (isBlank isAlphanumeric)

/-! ## Pieces -/

/-- What a piece is to the statement that it belongs to. -/
inductive Role where
  /-- It ends the statement. -/
  | cut
  /-- It is more than a blank or a part of a comment.  Of a literal only the
      quote that opens it counts. -/
  | content
  /-- It is a blank, or a part of a comment or of a literal. -/
  | filler
deriving DecidableEq, Repr

/-- **What the scanner takes in one step.** -/
structure Piece where
  /-- One character, or two that belong together. -/
  text : Text
  /-- The mode behind it. -/
  mode : ScanMode
  role : Role
deriving DecidableEq, Repr

namespace Piece

/-- It ends a statement. -/
def isCut (p : Piece) : Bool := p.role = .cut

/-- It is content of a statement. -/
def isContent (p : Piece) : Bool := p.role = .content

/-- A line ends with it, outside every literal and comment. -/
def isLineEnd (p : Piece) : Bool := p.text = ['\n'] ∧ p.mode = .normal

end Piece

/-- The end of a line outside every literal and comment. -/
def Piece.newline : Piece := ⟨['\n'], .normal, .filler⟩

/-- **The steps of the scanner**: the piece that begins with a character, given
    the text in front of it, backwards, and the character behind it. -/
def pieceAt (past : Text) : ScanMode → Char → Option Char → Piece
  | .normal, '\'', _ => ⟨['\''], .singleQuoted (escapeMark past), .content⟩
  | .normal, '"', _ => ⟨['"'], .doubleQuoted, .content⟩
  | .normal, '-', some '-' => ⟨['-', '-'], .lineComment, .filler⟩
  | .normal, '/', some '*' => ⟨['/', '*'], .blockComment, .filler⟩
  | .normal, ';', _ => ⟨[';'], .normal, .cut⟩
  | .normal, c, _ => ⟨[c], .normal, if isBlank c then .filler else .content⟩
  | .singleQuoted _, '\'', _ => ⟨['\''], .normal, .filler⟩
  | .singleQuoted true, '\\', some d => ⟨['\\', d], .singleQuoted true, .filler⟩
  | .singleQuoted escapes, c, _ => ⟨[c], .singleQuoted escapes, .filler⟩
  | .doubleQuoted, '"', _ => ⟨['"'], .normal, .filler⟩
  | .doubleQuoted, c, _ => ⟨[c], .doubleQuoted, .filler⟩
  | .lineComment, '\n', _ => ⟨['\n'], .normal, .filler⟩
  | .lineComment, c, _ => ⟨[c], .lineComment, .filler⟩
  | .blockComment, '*', some '/' => ⟨['*', '/'], .normal, .filler⟩
  | .blockComment, c, _ => ⟨[c], .blockComment, .filler⟩

/-- **The pieces of a text** that stands behind `past`. -/
def reading (past : Text) (mode : ScanMode) : Text → List Piece
  | [] => []
  | c :: s =>
    let p := pieceAt past mode c s.head?
    match p.text, s with
    | [_, _], _ :: s => p :: reading (p.text.reverse ++ past) p.mode s
    | _, s => p :: reading (p.text.reverse ++ past) p.mode s

/-- The text of some pieces. -/
def textOf (ps : List Piece) : Text := ps.flatMap Piece.text

/-- The mode behind some pieces. -/
def modeAfter (mode : ScanMode) (ps : List Piece) : ScanMode :=
  (ps.getLast?.map Piece.mode).getD mode

/-! ## Statements among the pieces -/

/-- **A list without the idle lines in front**: what follows the last end of a
    line that stands before all content. -/
def dropIdleLines {α : Type} (isContent isLineEnd : α → Bool) (l : List α) : List α :=
  (l.takeWhile (!isContent ·)).rtakeWhile (!isLineEnd ·) ++ l.dropWhile (!isContent ·)

/-- Some of the pieces are content. -/
def hasContent (ps : List Piece) : Bool := ps.any Piece.isContent

/-- The pieces without the idle lines in front. -/
def kept (ps : List Piece) : List Piece := dropIdleLines Piece.isContent Piece.isLineEnd ps

/-- **The statement in the pieces between two cuts**, if there is one. -/
def statement? (ps : List Piece) : Option Text :=
  if hasContent ps then some (Text.trim (textOf (kept ps))) else none

/-- The statements that have been completed by the cuts among some pieces. -/
def completed (ps : List Piece) : List Text :=
  (ps.splitOnP Piece.isCut).dropLast.filterMap statement?

/-- The pieces behind the last cut. -/
def current (ps : List Piece) : List Piece := (ps.splitOnP Piece.isCut).getLastD []

section DropIdleLines

variable {α : Type} {isContent isLineEnd : α → Bool}

/-- What lies behind content is never dropped; in front of it, an end of a line
    is dropped with all that precedes it. -/
theorem dropIdleLines_concat (l : List α) (x : α) :
    dropIdleLines isContent isLineEnd (l ++ [x])
      = if !l.any isContent && !isContent x && isLineEnd x then []
        else dropIdleLines isContent isLineEnd l ++ [x] := by
  unfold dropIdleLines
  by_cases hl : l.any isContent = true
  · -- There is content in front, so the new item is part of what is kept.
    have htake : (l ++ [x]).takeWhile (!isContent ·) = l.takeWhile (!isContent ·) := by
      rw [List.takeWhile_append, if_neg]
      intro h
      have hall := List.takeWhile_eq_self_iff.1 ((List.takeWhile_prefix _).eq_of_length h)
      obtain ⟨y, hy, hc⟩ := List.any_eq_true.1 hl
      simpa [hc] using hall y hy
    have hdrop : (l ++ [x]).dropWhile (!isContent ·) = l.dropWhile (!isContent ·) ++ [x] := by
      rw [List.dropWhile_append, if_neg]
      intro h
      obtain ⟨y, hy, hc⟩ := List.any_eq_true.1 hl
      have := List.dropWhile_eq_nil_iff.1 (List.isEmpty_iff.1 h) y hy
      simp [hc] at this
    rw [htake, hdrop]
    simp [hl]
  · -- All of it is idle, and the new item is the first that may not be.
    have hidle : ∀ y ∈ l, (!isContent y) = true := by
      intro y hy
      have := fun hc => hl (List.any_eq_true.2 ⟨y, hy, hc⟩)
      simpa using this
    rw [List.takeWhile_append_of_pos hidle, List.dropWhile_append_of_pos hidle,
      List.takeWhile_eq_self_iff.2 hidle, List.dropWhile_eq_nil_iff.2 hidle]
    cases hc : isContent x <;> cases he : isLineEnd x <;>
      simp [hl, hc, he]

end DropIdleLines

theorem kept_concat (ps : List Piece) (p : Piece) :
    kept (ps ++ [p]) = if !hasContent ps && !p.isContent && p.isLineEnd then []
      else kept ps ++ [p] :=
  dropIdleLines_concat ps p

theorem hasContent_concat (ps : List Piece) (p : Piece) :
    hasContent (ps ++ [p]) = (hasContent ps || p.isContent) := by
  simp [hasContent]

/-- The parts between the cuts, one piece farther on. -/
theorem splitOnP_concat (ps : List Piece) (p : Piece) :
    ∃ done last, ps.splitOnP Piece.isCut = done ++ [last] ∧
      (ps ++ [p]).splitOnP Piece.isCut
        = if p.isCut then done ++ [last] ++ [[]] else done ++ [last ++ [p]] := by
  by_cases hp : p.isCut = true
  · refine ⟨_, _, (List.dropLast_concat_getLast (List.splitOnP_ne_nil _ ps)).symm, ?_⟩
    rw [if_pos hp, List.splitOnP_append_cons ps [] hp, List.splitOnP_nil]
    conv_lhs => rw [← List.dropLast_concat_getLast (List.splitOnP_ne_nil Piece.isCut ps)]
  · simp only [hp]
    induction ps with
    | nil =>
      refine ⟨[], [], List.splitOnP_nil, ?_⟩
      simp [List.splitOnP_cons_eq_if_modifyHead, hp]
    | cons q ps ih =>
      obtain ⟨done, last, hps, hcat⟩ := ih
      rw [List.cons_append, List.splitOnP_cons_eq_if_modifyHead,
        List.splitOnP_cons_eq_if_modifyHead, hps, hcat]
      by_cases hq : q.isCut = true
      · exact ⟨[] :: done, last, by simp [hq], by simp [hq]⟩
      · cases done with
        | nil => exact ⟨[], q :: last, by simp [hq], by simp [hq]⟩
        | cons d done => exact ⟨(q :: d) :: done, last, by simp [hq], by simp [hq]⟩

theorem current_concat (ps : List Piece) (p : Piece) :
    current (ps ++ [p]) = if p.isCut then [] else current ps ++ [p] := by
  obtain ⟨done, last, hps, hcat⟩ := splitOnP_concat ps p
  unfold current
  rw [hps, hcat]
  split <;> simp [List.getLastD_eq_getLast?]

/-- A cut completes what stands in front of it. -/
theorem completed_concat (ps : List Piece) (p : Piece) :
    completed (ps ++ [p])
      = if p.isCut then completed ps ++ (statement? (current ps)).toList else completed ps := by
  obtain ⟨done, last, hps, hcat⟩ := splitOnP_concat ps p
  unfold completed current
  rw [hps, hcat]
  split
  · rw [List.dropLast_concat, List.dropLast_concat, List.filterMap_append]
    cases hlast : statement? last <;> simp [List.getLastD_eq_getLast?, hlast]
  · rw [List.dropLast_concat, List.dropLast_concat]

@[simp] theorem textOf_nil : textOf [] = [] := rfl

@[simp] theorem textOf_cons (p : Piece) (ps : List Piece) :
    textOf (p :: ps) = p.text ++ textOf ps := rfl

@[simp] theorem textOf_append (ps qs : List Piece) : textOf (ps ++ qs) = textOf ps ++ textOf qs :=
  List.flatMap_append

@[simp] theorem modeAfter_nil (mode : ScanMode) : modeAfter mode [] = mode := rfl

@[simp] theorem modeAfter_concat (mode : ScanMode) (ps : List Piece) (p : Piece) :
    modeAfter mode (ps ++ [p]) = p.mode := by
  simp [modeAfter]

@[simp] theorem modeAfter_cons (mode : ScanMode) (p : Piece) (ps : List Piece) :
    modeAfter mode (p :: ps) = modeAfter p.mode ps := by
  cases ps using List.reverseRecOn with
  | nil => rfl
  | append_singleton qs q => rw [← List.cons_append, modeAfter_concat, modeAfter_concat]

theorem modeAfter_append (mode : ScanMode) (ps qs : List Piece) :
    modeAfter mode (ps ++ qs) = modeAfter (modeAfter mode ps) qs := by
  induction ps generalizing mode with
  | nil => rfl
  | cons p ps ih => simp [ih]

/-! ## The steps of a reading -/

/-- A piece is the next character, or that and the one behind it. -/
theorem text_pieceAt (past : Text) (mode : ScanMode) (c : Char) (next : Option Char) :
    (∃ d, next = some d ∧ (pieceAt past mode c next).text = [c, d]) ∨
      (pieceAt past mode c next).text = [c] := by
  fun_cases pieceAt past mode c next <;> simp

/-- The only cut is a semicolon outside every literal and comment. -/
theorem eq_of_isCut {past : Text} {mode : ScanMode} {c : Char} {next : Option Char}
    (h : (pieceAt past mode c next).isCut = true) :
    pieceAt past mode c next = ⟨[';'], .normal, .cut⟩ ∧ mode = .normal := by
  fun_cases pieceAt past mode c next
  case case5 => exact ⟨rfl, rfl⟩
  case case6 hq hd hs hdash hslash =>
    cases hb : isBlank c <;> simp [pieceAt, Piece.isCut, hb] at h
  all_goals simp [pieceAt, Piece.isCut] at h

/-- A piece that ends with the line is the end of a line outside every literal
    and comment, or belongs to one of them. -/
theorem isLineEnd_or_mode_ne {past : Text} {mode : ScanMode} {c : Char} {next : Option Char}
    (h : (pieceAt past mode c next).text.getLast? = some '\n') :
    (pieceAt past mode c next).isLineEnd = true ∨ (pieceAt past mode c next).mode ≠ .normal := by
  fun_cases pieceAt past mode c next <;> simp_all [pieceAt, Piece.isLineEnd]

/-- A blank outside every literal and comment stands for itself. -/
theorem pieceAt_blank {c : Char} (hc : isBlank c = true) (past : Text) (next : Option Char) :
    pieceAt past .normal c next = ⟨[c], .normal, .filler⟩ := by
  unfold pieceAt
  split
  case h_6 => rw [if_pos hc]
  all_goals contradiction

/-- A line feed is a piece of its own outside every literal, and closes a
    comment that ends with the line. -/
theorem pieceAt_newline {mode : ScanMode} (hmode : mode.isOpen = false) (past : Text)
    (next : Option Char) : pieceAt past mode '\n' next = Piece.newline := by
  cases mode with
  | normal => exact pieceAt_blank (by decide) past next
  | lineComment => rfl
  | singleQuoted _ | doubleQuoted | blockComment => cases hmode

/-- A text begins with its first piece. -/
theorem exists_rest (past : Text) (mode : ScanMode) (c : Char) (s : Text) :
    ∃ r, c :: s = (pieceAt past mode c s.head?).text ++ r := by
  rcases text_pieceAt past mode c s.head? with ⟨d, hd, h⟩ | h
  · obtain ⟨r, rfl⟩ := List.head?_eq_some_iff.1 hd
    exact ⟨r, by rw [h]; rfl⟩
  · exact ⟨s, by rw [h]; rfl⟩

/-- Behind the last character there is nothing left to be read. -/
theorem rest_eq_nil {past : Text} {mode : ScanMode} {c : Char} {r : Text} {p : Piece}
    (hp : pieceAt past mode c none = p) (hr : [c] = p.text ++ r) : r = [] := by
  have hlength := congrArg List.length hr
  rcases text_pieceAt past mode c none with ⟨d, hd, -⟩ | htext
  · cases hd
  · rw [hp] at htext
    rw [htext] at hlength
    exact List.eq_nil_of_length_eq_zero (by simpa using hlength.symm)

/-- A reading is the first piece and the reading of what follows it. -/
theorem reading_cons {past : Text} {mode : ScanMode} {c : Char} {s r : Text} {p : Piece}
    (hp : pieceAt past mode c s.head? = p) (hr : c :: s = p.text ++ r) :
    reading past mode (c :: s) = p :: reading (p.text.reverse ++ past) p.mode r := by
  subst hp
  rw [reading.eq_def]
  rcases text_pieceAt past mode c s.head? with ⟨d, hd, h⟩ | h
  · obtain ⟨t, rfl⟩ := List.head?_eq_some_iff.1 hd
    have htr : t = r := by
      rw [h] at hr
      simpa using hr
    simp only [h]
    rw [htr]
  · have hsr : s = r := by
      rw [h] at hr
      simpa using hr
    simp only [h]
    rw [hsr]

/-- A reading piece by piece: what holds of the end of a text, and of a text if
    it holds behind its first piece, holds of every text. -/
theorem reading_induction {P : Text → ScanMode → Text → Prop}
    (nil : ∀ past mode, P past mode [])
    (cons : ∀ past mode c s p r, pieceAt past mode c s.head? = p → c :: s = p.text ++ r →
      P (p.text.reverse ++ past) p.mode r → P past mode (c :: s))
    (past : Text) (mode : ScanMode) (s : Text) : P past mode s := by
  match s with
  | [] => exact nil past mode
  | c :: s =>
    obtain ⟨r, hr⟩ := exists_rest past mode c s
    have hlength : r.length ≤ s.length := by
      have hlen := congrArg List.length hr
      rcases text_pieceAt past mode c s.head? with ⟨d, -, h⟩ | h <;>
        · simp only [h, List.length_append, List.length_cons, List.length_nil] at hlen
          omega
    exact cons past mode c s _ r rfl hr (reading_induction nil cons _ _ r)
termination_by s.length

/-- **A reading loses nothing.** -/
theorem textOf_reading (past : Text) (mode : ScanMode) (s : Text) :
    textOf (reading past mode s) = s := by
  induction past, mode, s using reading_induction with
  | nil past mode => rfl
  | cons past mode c s p r hp hr ih => rw [reading_cons hp hr, textOf_cons, ih, hr]

/-- The scanner takes the piece somewhere. -/
def IsTaken (p : Piece) : Prop := ∃ past mode c next, pieceAt past mode c next = p

theorem isTaken_of_mem {past : Text} {mode : ScanMode} {s : Text} :
    ∀ p ∈ reading past mode s, IsTaken p := by
  induction past, mode, s using reading_induction with
  | nil past mode =>
    intro p h
    cases h
  | cons past mode c s q r hq hr ih =>
    intro p h
    rw [reading_cons hq hr] at h
    rcases List.mem_cons.1 h with rfl | h
    · exact ⟨past, mode, c, s.head?, hq⟩
    · exact ih p h

/-- **A step of the scanner** takes the piece that begins there. -/
theorem scanStep_eq (past : Text) (mode : ScanMode) (content : Bool) (c : Char)
    (next : Option Char) :
    scanStep past mode content c next
      = if (pieceAt past mode c next).isCut then .cut
        else if (pieceAt past mode c next).text.length = 1 then
          .one (pieceAt past mode c next).mode (content || (pieceAt past mode c next).isContent)
        else
          .two (pieceAt past mode c next).mode
            (content || (pieceAt past mode c next).isContent) := by
  fun_cases pieceAt past mode c next
  case case6 hq hd hs hdash hslash =>
    have hdash : ¬ (c = '-' ∧ next = some '-') := fun h => hdash h.1 h.2
    have hslash : ¬ (c = '/' ∧ next = some '*') := fun h => hslash h.1 h.2
    cases hb : isBlank c <;>
      simp [scanStep, Piece.isCut, Piece.isContent, hdash, hslash, hb, show c ≠ '\'' from hq,
        show c ≠ '"' from hd, show c ≠ ';' from hs]
  case case9 escapes hq hback =>
    have hback : c = '\\' → escapes = true → next = none := by
      intro hc he
      cases next with
      | none => rfl
      | some d => exact (hback d hc rfl he).elim
    simpa [scanStep, Piece.isCut, Piece.isContent, show c ≠ '\'' from hq] using hback
  case case11 hd => simp [scanStep, Piece.isCut, Piece.isContent, show c ≠ '"' from hd]
  case case13 hn => simp [scanStep, Piece.isCut, Piece.isContent, show c ≠ '\n' from hn]
  case case15 hstar =>
    have hstar : ¬ (c = '*' ∧ next = some '/') := fun h => hstar h.1 h.2
    simp [scanStep, Piece.isCut, Piece.isContent, hstar]
  all_goals simp [scanStep, Piece.isCut, Piece.isContent]

/-! ## What surrounds a text -/

/-- No word reaches into the text behind it. -/
def WordBreak (past : Text) : Prop :=
  ∀ c ∈ past.head?, isAlphanumeric c = false ∧ c ≠ '_'

instance : DecidablePred WordBreak := fun past => Option.decidableForallMem past.head?

theorem wordBreak_nil : WordBreak [] := by
  intro c hc
  cases hc

theorem wordBreak_cons {c : Char} (past : Text) (hc : isAlphanumeric c = false) (hu : c ≠ '_') :
    WordBreak (c :: past) := by
  intro d hd
  cases hd
  exact ⟨hc, hu⟩

/-- A string is never one with escapes on account of what stands in front of a
    word break. -/
theorem escapeMark_append {w : Text} (hw : WordBreak w) (b : Text) :
    escapeMark (b ++ w) = escapeMark b := by
  match b, w with
  | [], [] => rfl
  | [], c :: w =>
    have hc := (hw c rfl).1
    have he : c ≠ 'e' := by
      rintro rfl
      exact absurd hc (by decide +kernel)
    have hE : c ≠ 'E' := by
      rintro rfl
      exact absurd hc (by decide +kernel)
    cases w <;> simp [escapeMark, he, hE]
  | [_], [] => rfl
  | [e], c :: w =>
    obtain ⟨hc, hu⟩ := hw c rfl
    simp [escapeMark, hc, hu]
  | _ :: _ :: _, _ => rfl

theorem pieceAt_append {w : Text} (hw : WordBreak w) (b : Text) (mode : ScanMode) (c : Char)
    (next : Option Char) : pieceAt (b ++ w) mode c next = pieceAt b mode c next := by
  fun_cases pieceAt b mode c next <;> simp_all [pieceAt, escapeMark_append hw]

/-- **What stands in front of a word break has no part in a reading.** -/
theorem reading_of_wordBreak {w : Text} (hw : WordBreak w) (b : Text) (mode : ScanMode)
    (s : Text) : reading (b ++ w) mode s = reading b mode s := by
  induction b, mode, s using reading_induction with
  | nil b mode => rfl
  | cons b mode c s p r hp hr ih =>
    have hp' : pieceAt (b ++ w) mode c s.head? = p := (pieceAt_append hw b mode c _).trans hp
    rw [reading_cons hp hr, reading_cons hp' hr, ← List.append_assoc, ih]

/-- **A reading can be stopped behind each of its pieces**: what remains is the
    reading of the text that remains. -/
theorem reading_suffix {past : Text} {mode : ScanMode} {s : Text} {ps qs : List Piece}
    (h : reading past mode s = ps ++ qs) :
    reading ((textOf ps).reverse ++ past) (modeAfter mode ps) (textOf qs) = qs := by
  induction ps generalizing past mode s with
  | nil =>
    have hs : s = textOf qs := by
      rw [← textOf_reading past mode s, h, List.nil_append]
    rw [← hs]
    exact h
  | cons p ps ih =>
    match s with
    | [] => cases h
    | c :: s =>
      obtain ⟨r, hr⟩ := exists_rest past mode c s
      rw [reading_cons rfl hr] at h
      obtain ⟨rfl, hps⟩ := List.cons.inj h
      simpa using ih hps

/-- A cut is made in one mode only. -/
theorem mode_of_cut {past : Text} {mode : ScanMode} {s : Text} {ps qs : List Piece} {p : Piece}
    (h : reading past mode s = ps ++ p :: qs) (hp : p.isCut = true) :
    modeAfter mode ps = .normal := by
  have hsuffix := reading_suffix h
  match ht : textOf (p :: qs) with
  | [] =>
    rw [ht] at hsuffix
    cases hsuffix
  | c :: t =>
    obtain ⟨r, hr⟩ := exists_rest ((textOf ps).reverse ++ past) (modeAfter mode ps) c t
    rw [ht, reading_cons rfl hr] at hsuffix
    have hpiece := (List.cons.inj hsuffix).1
    exact (eq_of_isCut (hpiece ▸ hp)).2

/-- Behind the character `c` the scanner goes on in the same way before `y` and
    before `z`, unless it takes more than `c`. -/
def Alike (c : Char) (y z : Text) : Prop :=
  ∀ past mode, (pieceAt past mode c y.head?).text = [c] →
    pieceAt past mode c z.head? = pieceAt past mode c y.head?

/-- **A reading up to a point** that lies between two pieces is the same before
    another text. -/
theorem reading_append_alike {past : Text} {mode : ScanMode} {x y z : Text} {ps qs : List Piece}
    (hps : textOf ps = x) (h : reading past mode (x ++ y) = ps ++ qs)
    (hyz : ∀ c ∈ x.getLast?, Alike c y z) :
    reading past mode (x ++ z) = ps ++ reading (x.reverse ++ past) (modeAfter mode ps) z := by
  induction ps generalizing past mode x with
  | nil =>
    subst hps
    rfl
  | cons p ps ih =>
    subst hps
    rw [textOf_cons, List.append_assoc] at h
    obtain ⟨c, t, hct⟩ : ∃ c t, p.text ++ (textOf ps ++ y) = c :: t := by
      match hx : p.text ++ (textOf ps ++ y) with
      | [] => rw [hx] at h; cases h
      | c :: t => exact ⟨c, t, rfl⟩
    obtain ⟨r, hr⟩ := exists_rest past mode c t
    rw [hct, reading_cons rfl hr] at h
    obtain ⟨hp, hrest⟩ := List.cons.inj h
    rw [hp] at hr hrest
    have hry : r = textOf ps ++ y := by
      rw [hr] at hct
      exact (List.append_cancel_left hct).symm
    have hlast : ∀ c ∈ (textOf ps).getLast?, Alike c y z := by
      intro e he
      apply hyz e
      rw [textOf_cons, List.getLast?_append, Option.mem_def.1 he]
      rfl
    -- The piece is the same one, because what comes next is the same or alike.
    obtain ⟨u, hcu, hpu⟩ :
        ∃ u, p.text ++ (textOf ps ++ z) = c :: u ∧ pieceAt past mode c u.head? = p := by
      rcases text_pieceAt past mode c t.head? with ⟨d, hd, htext⟩ | htext
      · rw [hp] at htext
        refine ⟨d :: (textOf ps ++ z), by rw [htext]; rfl, ?_⟩
        rw [List.head?_cons, ← hd]
        exact hp
      · rw [hp] at htext
        refine ⟨textOf ps ++ z, by rw [htext]; rfl, ?_⟩
        have ht : t = textOf ps ++ y := by
          rw [htext] at hct
          exact (List.cons.inj hct).2.symm
        rw [ht] at hp
        match hx : textOf ps with
        | [] =>
          rw [hx] at hp
          have halike : Alike c y z := by
            apply hyz c
            rw [textOf_cons, hx, htext]
            rfl
          rw [List.nil_append] at hp ⊢
          rw [halike past mode (by rw [hp]; exact htext), hp]
        | e :: x =>
          rw [hx] at hp
          exact hp
    have hread := ih rfl (hry ▸ hrest) hlast
    rw [textOf_cons, List.append_assoc, hcu, reading_cons hpu hcu.symm, hread]
    simp

/-- The end of a line means the same to the scanner whatever follows it. -/
theorem alike_newline (y z : Text) : Alike '\n' y z := by
  intro past mode _
  cases mode <;> simp [pieceAt]

/-- **A reading can be taken up at the start of a line.** -/
theorem reading_append {past : Text} {mode : ScanMode} {x : Text}
    (hx : ∀ c ∈ x.getLast?, c = '\n') (y : Text) :
    reading past mode (x ++ y) = reading past mode x
      ++ reading (x.reverse ++ past) (modeAfter mode (reading past mode x)) y := by
  have hend : reading past mode (x ++ []) = reading past mode x ++ [] := by simp
  refine reading_append_alike (textOf_reading past mode x) hend ?_
  intro c hc
  rw [hx c hc]
  exact alike_newline [] y

/-- A comment that ends with the line is over where the line is. -/
theorem mode_ne_lineComment {past : Text} {mode : ScanMode} {c : Char} {next : Option Char}
    (h : (pieceAt past mode c next).text.getLast? = some '\n') :
    (pieceAt past mode c next).mode ≠ .lineComment := by
  fun_cases pieceAt past mode c next <;> simp_all [pieceAt]

theorem modeAfter_ne_lineComment (past : Text) (mode : ScanMode) (s : Text)
    (h : s.getLast? = some '\n') : modeAfter mode (reading past mode s) ≠ .lineComment := by
  induction past, mode, s using reading_induction with
  | nil past mode => cases h
  | cons past mode c s p r hp hr ih =>
    rw [reading_cons hp hr, modeAfter_cons]
    by_cases hnil : r = []
    · rw [hr, hnil, List.append_nil, ← hp] at h
      rw [hnil, ← hp]
      exact mode_ne_lineComment h
    · apply ih
      rw [hr, List.getLast?_append_of_ne_nil _ hnil] at h
      exact h

end SqlShell
