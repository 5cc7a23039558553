import SqlShell.Proofs.Statement.Assembly
import SqlShell.Proofs.Text.Trimming

/-! # Statements Are Stable

    A statement that the buffer has given out is the same statement when it
    comes in again: nothing in it ends a statement, nothing in it is left open,
    and there is nothing around it to be trimmed.

    * **`Segment`** is a part of a reading between two cuts.
    * **`exists_trimmed`** finds the pieces that are left of it once it has been
      trimmed, `reading_trimmed` reads their text again.
    * **`emitted_stable`** is the result. -/

namespace SqlShell

open Text (IsTrimmed)

/-! ## Parts between cuts -/

/-- **A part between two cuts**, and what stands around it. -/
structure Segment (ps front seg rear : List Piece) : Prop where
  eq : ps = front ++ (seg ++ rear)
  front : ∀ p ∈ front.getLast?, p.isCut = true
  uncut : ∀ p ∈ seg, p.isCut = false
  rear : ∀ p ∈ rear.head?, p.isCut = true

theorem exists_current (ps : List Piece) : ∃ front, Segment ps front (current ps) [] := by
  induction ps using List.reverseRecOn with
  | nil => exact ⟨[], rfl, by simp, by simp [current], by simp⟩
  | append_singleton ps p ih =>
    obtain ⟨front, heq, hfront, huncut, -⟩ := ih
    rw [current_concat]
    by_cases hp : p.isCut = true
    · rw [if_pos hp]
      exact ⟨ps ++ [p], by simp, by simpa using hp, by simp, by simp⟩
    · rw [if_neg hp]
      refine ⟨front, ?_, hfront, ?_, by simp⟩
      · conv_lhs => rw [heq]
        simp
      · intro q hq
        rcases List.mem_append.1 hq with hq | hq
        · exact huncut q hq
        · rw [List.mem_singleton.1 hq]
          simpa using hp

theorem exists_of_mem_completed {ps : List Piece} {s : Text} (h : s ∈ completed ps) :
    ∃ front seg p rear, Segment ps front seg (p :: rear) ∧ statement? seg = some s := by
  induction ps using List.reverseRecOn with
  | nil => simp [completed] at h
  | append_singleton ps p ih =>
    rw [completed_concat] at h
    by_cases hp : p.isCut = true
    · rw [if_pos hp] at h
      rcases List.mem_append.1 h with h | h
      · obtain ⟨front, seg, q, rear, hseg, hs⟩ := ih h
        refine ⟨front, seg, q, rear ++ [p], ⟨?_, hseg.front, hseg.uncut, hseg.rear⟩, hs⟩
        simp [hseg.eq]
      · obtain ⟨front, hseg⟩ := exists_current ps
        refine ⟨front, current ps, p, [], ⟨?_, hseg.front, hseg.uncut, by simpa using hp⟩, ?_⟩
        · conv_lhs => rw [hseg.eq]
          simp
        · simpa using h
    · rw [if_neg hp] at h
      obtain ⟨front, seg, q, rear, hseg, hs⟩ := ih h
      refine ⟨front, seg, q, rear ++ [p], ⟨?_, hseg.front, hseg.uncut, hseg.rear⟩, hs⟩
      simp [hseg.eq]

/-! ## Blank pieces -/

/-- Nothing but blanks. -/
def Piece.isBlank (p : Piece) : Bool := Text.allBlank p.text

section PieceAt

variable {past : Text} {mode : ScanMode} {c : Char} {next : Option Char}

/-- A blank changes no mode but that of a comment that ends with the line. -/
theorem mode_of_isBlank (h : (pieceAt past mode c next).isBlank = true)
    (hmode : mode ≠ .lineComment) : (pieceAt past mode c next).mode = mode := by
  fun_cases pieceAt past mode c next <;>
    simp_all +decide [pieceAt, Piece.isBlank, Text.allBlank]

theorem isContent_of_isBlank (h : (pieceAt past mode c next).isBlank = true) :
    (pieceAt past mode c next).isContent = false := by
  fun_cases pieceAt past mode c next <;>
    simp_all +decide [pieceAt, Piece.isBlank, Piece.isContent, Text.allBlank]

/-- A piece that is not blank does not begin with a blank; it ends with one only
    in a string. -/
theorem not_blank_ends (h : (pieceAt past mode c next).isBlank = false) :
    (∀ d ∈ (pieceAt past mode c next).text.head?, Text.isBlank d = false) ∧
      ((pieceAt past mode c next).mode.isOpen = false →
        ∀ d ∈ (pieceAt past mode c next).text.getLast?, Text.isBlank d = false) := by
  have hmarks : Text.isBlank '\'' = false ∧ Text.isBlank '"' = false ∧
      Text.isBlank '\\' = false ∧ Text.isBlank '-' = false ∧ Text.isBlank '/' = false ∧
      Text.isBlank '*' = false ∧ Text.isBlank ';' = false := by decide
  fun_cases pieceAt past mode c next <;>
    simp_all [pieceAt, Piece.isBlank, Text.allBlank, ScanMode.isOpen]

end PieceAt

theorem allBlank_textOf {ps : List Piece} (h : ∀ p ∈ ps, p.isBlank = true) :
    Text.allBlank (textOf ps) = true := by
  rw [Text.allBlank, textOf, List.all_flatMap, List.all_eq_true]
  exact h

theorem wordBreak_blanks {s : Text} (h : Text.allBlank s = true) : WordBreak s.reverse := by
  intro c hc
  have hmem : c ∈ s := List.mem_reverse.1 (List.mem_of_mem_head? hc)
  exact Text.isAlphanumeric_of_isBlank (List.all_eq_true.1 h c hmem)

theorem hasContent_append (ps qs : List Piece) :
    hasContent (ps ++ qs) = (hasContent ps || hasContent qs) := by
  simp [hasContent]

section Reading

variable {past : Text} {mode : ScanMode} {s : Text} {ps qs : List Piece}

theorem textOf_ne_nil {p : Piece} (hp : IsTaken p) (hps : p ∈ ps) : textOf ps ≠ [] := by
  obtain ⟨past, mode, c, next, rfl⟩ := hp
  intro hnil
  have htext := List.flatMap_eq_nil_iff.1 hnil _ hps
  rcases text_pieceAt past mode c next with ⟨d, -, h⟩ | h <;>
    · rw [h] at htext
      cases htext

theorem mode_of_blanks (h : reading past mode s = ps ++ qs) (hps : ∀ p ∈ ps, p.isBlank = true)
    (hmode : mode ≠ .lineComment) : modeAfter mode ps = mode := by
  induction ps generalizing past mode s with
  | nil => rfl
  | cons p ps ih =>
    match s with
    | [] => cases h
    | c :: s =>
      obtain ⟨r, hr⟩ := exists_rest past mode c s
      rw [reading_cons rfl hr] at h
      obtain ⟨rfl, hrest⟩ := List.cons.inj h
      obtain ⟨hp, hps⟩ := List.forall_mem_cons.1 hps
      have hpm := mode_of_isBlank hp hmode
      rw [modeAfter_cons, ih hrest hps (hpm.symm ▸ hmode), hpm]

theorem hasContent_of_blanks (h : ∀ p ∈ ps, IsTaken p) (hps : ∀ p ∈ ps, p.isBlank = true) :
    hasContent ps = false := by
  rw [hasContent, List.any_eq_false]
  intro p hp
  obtain ⟨past, mode, c, next, rfl⟩ := h p hp
  simp [isContent_of_isBlank (hps _ hp)]

end Reading

/-- Pieces that are not blank at either end have a text that is trimmed, unless
    they leave something open. -/
theorem isTrimmed_textOf {ps : List Piece} (hps : ∀ p ∈ ps, IsTaken p)
    (hhead : ∀ p ∈ ps.head?, p.isBlank = false)
    (hlast : ∀ p ∈ ps.getLast?, p.isBlank = false ∧ p.mode.isOpen = false) :
    (textOf ps).IsTrimmed := by
  constructor
  · intro c hc
    match ps with
    | [] => cases hc
    | p :: ps =>
      obtain ⟨past, mode, d, next, hp⟩ := hps p (by simp)
      have hends := not_blank_ends (hp ▸ hhead p rfl)
      rw [hp] at hends
      rcases text_pieceAt past mode d next with ⟨e, -, htext⟩ | htext <;>
        · rw [hp] at htext
          rw [textOf_cons, htext] at hc
          rw [htext] at hends
          exact hends.1 c hc
  · intro c hc
    cases ps using List.reverseRecOn with
    | nil => cases hc
    | append_singleton ps p =>
      obtain ⟨past, mode, d, next, hp⟩ := hps p (by simp)
      obtain ⟨hblank, hopen⟩ := hlast p (by simp)
      have hends := (not_blank_ends (hp ▸ hblank)).2 (hp ▸ hopen)
      rw [hp] at hends
      rcases text_pieceAt past mode d next with ⟨e, -, htext⟩ | htext <;>
        · rw [hp] at htext
          rw [textOf_append, textOf_cons, htext] at hc
          rw [htext] at hends
          exact hends c (by simpa using hc)

/-- **What trimming leaves of some pieces.**  It is a reading too. -/
theorem exists_trimmed {x : Text} {ps rear : List Piece}
    (h : reading [] .normal x = ps ++ rear) (hopen : (modeAfter .normal ps).isOpen = false)
    (hcontent : hasContent ps = true) :
    ∃ a m b, ps = a ++ (m ++ b) ∧ (∀ p ∈ a, p.isBlank = true) ∧ (∀ p ∈ b, p.isBlank = true) ∧
      (textOf m).IsTrimmed ∧ textOf m ≠ [] ∧ hasContent m = true ∧
      (modeAfter .normal m).isOpen = false ∧
      reading [] .normal (textOf m ++ textOf (b ++ rear)) = m ++ (b ++ rear) := by
  obtain ⟨a, m, b, rfl, ha, hb, hhead, hlast⟩ := Text.exists_inner Piece.isBlank ps
  have htaken : ∀ p ∈ a ++ (m ++ b), IsTaken p := by
    intro p hp
    exact isTaken_of_mem p (h ▸ List.mem_append_left _ hp)
  have hmcontent : hasContent m = true := by
    have hanone := hasContent_of_blanks (fun p hp => htaken p (by simp [hp])) ha
    have hbnone := hasContent_of_blanks (fun p hp => htaken p (by simp [hp])) hb
    rw [hasContent_append, hasContent_append, hanone, hbnone] at hcontent
    simpa using hcontent
  rw [List.append_assoc, List.append_assoc] at h
  have hnormal : modeAfter .normal a = .normal := mode_of_blanks h ha (by decide)
  -- The blanks in front are of no use to the scanner.
  have hread : reading [] .normal (textOf m ++ textOf (b ++ rear)) = m ++ (b ++ rear) := by
    have hsuffix := reading_suffix h
    have hpast := reading_of_wordBreak (wordBreak_blanks (allBlank_textOf ha)) []
    rw [List.nil_append] at hpast
    rw [hnormal, List.append_nil, hpast, textOf_append] at hsuffix
    exact hsuffix
  -- Were anything left open, the blanks behind would leave it so.
  have hmopen : (modeAfter .normal m).isOpen = false := by
    by_contra hmopen
    have hline : modeAfter .normal m ≠ .lineComment := by
      intro hline
      rw [hline] at hmopen
      exact hmopen rfl
    have hmb := mode_of_blanks (reading_suffix hread) hb hline
    rw [modeAfter_append, hnormal, modeAfter_append, hmb] at hopen
    exact hmopen hopen
  have hmne : textOf m ≠ [] := by
    obtain ⟨p, hp, -⟩ := List.any_eq_true.1 hmcontent
    exact textOf_ne_nil (htaken p (by simp [hp])) hp
  refine ⟨a, m, b, rfl, ha, hb, ?_, hmne, hmcontent, hmopen, hread⟩
  refine isTrimmed_textOf (fun p hp => htaken p (by simp [hp])) hhead fun p hp => ⟨hlast p hp, ?_⟩
  rwa [modeAfter, Option.mem_def.1 hp] at hmopen

/-! ## Reading a statement again -/

/-- The characters that tell the scanner nothing about the one in front of them. -/
def IsInert (c : Char) : Prop := c ≠ '-' ∧ c ≠ '*' ∧ c ≠ '/'

theorem alike_of_inert {d : Char} {z : Text} (hd : IsInert d) (hz : ∀ e ∈ z.head?, IsInert e)
    (c : Char) (y : Text) : Alike c (d :: y) z := by
  intro past mode h
  rw [List.head?_cons] at *
  generalize hnext : some d = next at h ⊢
  generalize z.head? = ahead at hz
  obtain ⟨hd1, hd2, hd3⟩ := hd
  have hahead : ahead ≠ some '-' ∧ ahead ≠ some '*' ∧ ahead ≠ some '/' := by
    refine ⟨?_, ?_, ?_⟩ <;>
      · rintro rfl
        have he := hz _ rfl
        simp [IsInert] at he
  fun_cases pieceAt past mode c next
  case case9 escapes hq hback =>
    have hback : c = '\\' → escapes = false := by
      intro hc
      rw [← hnext] at hback
      simpa using hback d hc rfl
    simp_all [pieceAt]
  all_goals simp_all [pieceAt]

theorem isInert_of_isBlank {c : Char} (hc : Text.isBlank c = true) : IsInert c := by
  refine ⟨?_, ?_, ?_⟩ <;>
    · rintro rfl
      cases hc

/-- Blanks and cuts are inert. -/
theorem exists_inert {qs rear : List Piece} (h : ∀ p ∈ qs ++ rear, IsTaken p)
    (hqs : ∀ p ∈ qs, p.isBlank = true)
    (hrear : ∀ p ∈ rear.head?, p.isCut = true) (hend : qs = [] → rear = [] → False) :
    ∃ d y, textOf (qs ++ rear) = d :: y ∧ IsInert d := by
  match qs, rear with
  | [], [] => exact (hend rfl rfl).elim
  | [], p :: rear =>
    obtain ⟨past, mode, c, next, hp⟩ := h p (by simp)
    have hsemicolon := (eq_of_isCut (hp ▸ hrear p rfl)).1
    rw [hp] at hsemicolon
    rw [hsemicolon]
    exact ⟨';', textOf rear, rfl, by unfold IsInert; decide⟩
  | q :: qs, rear =>
    have hne : textOf (q :: qs) ≠ [] := textOf_ne_nil (h q (by simp)) (by simp)
    obtain ⟨d, y, hy⟩ := List.exists_cons_of_ne_nil hne
    refine ⟨d, y ++ textOf rear, by rw [textOf_append, hy]; rfl, ?_⟩
    have hblank := allBlank_textOf hqs
    rw [hy] at hblank
    exact isInert_of_isBlank (List.all_eq_true.1 hblank d (by simp))

/-- **A trimmed statement is read as before**, also when it makes up a line. -/
theorem reading_trimmed {ps qs : List Piece} {d : Char} {y : Text}
    (h : reading [] .normal (textOf ps ++ textOf qs) = ps ++ qs)
    (hopen : (modeAfter .normal ps).isOpen = false) (hqs : textOf qs = d :: y) (hd : IsInert d) :
    reading [] .normal (textOf ps) = ps ∧
      reading [] .normal (textOf ps ++ ['\n']) = ps ++ [Piece.newline] := by
  have hnewline : IsInert '\n' := by unfold IsInert; decide
  rw [hqs] at h
  constructor
  · have hend := reading_append_alike rfl h fun c _ => alike_of_inert (z := []) hd (by simp) c y
    simpa [reading] using hend
  · have hline := reading_append_alike rfl h
      fun c _ => alike_of_inert (z := ['\n']) hd (by simpa using hnewline) c y
    rw [hline, reading_cons (pieceAt_newline hopen _ _) (List.append_nil ['\n']).symm]
    rfl

/-! ## Idle lines -/

section DropIdleLines

variable {α : Type} {isContent isLineEnd : α → Bool}

/-- What is dropped are idle lines, and no idle line is left in front. -/
theorem exists_dropIdleLines (l : List α) :
    ∃ dropped, l = dropped ++ dropIdleLines isContent isLineEnd l ∧
      (∀ x ∈ dropped.getLast?, isLineEnd x = true) ∧ (∀ x ∈ dropped, isContent x = false) ∧
      ∀ x ∈ (dropIdleLines isContent isLineEnd l).takeWhile (!isContent ·),
        isLineEnd x = false := by
  induction l using List.reverseRecOn with
  | nil => exact ⟨[], rfl, by simp, by simp, by simp [dropIdleLines]⟩
  | append_singleton l x ih =>
    obtain ⟨dropped, heq, hlast, hidle, hfront⟩ := ih
    rw [dropIdleLines_concat]
    split
    case isTrue h =>
      simp only [Bool.and_eq_true, Bool.not_eq_true', List.any_eq_false] at h
      obtain ⟨⟨hl, hx⟩, hend⟩ := h
      refine ⟨l ++ [x], by simp, by simpa using hend, ?_, by simp⟩
      intro y hy
      rcases List.mem_append.1 hy with hy | hy
      · simpa using hl y hy
      · rwa [List.mem_singleton.1 hy]
    case isFalse h =>
      refine ⟨dropped, ?_, hlast, hidle, ?_⟩
      · conv_lhs => rw [heq]
        simp
      · intro y hy
        rw [List.takeWhile_append] at hy
        split at hy
        case isTrue hall =>
          have hself : (dropIdleLines isContent isLineEnd l).takeWhile (!isContent ·)
              = dropIdleLines isContent isLineEnd l :=
            (List.takeWhile_prefix _).eq_of_length hall
          rcases List.mem_append.1 hy with hy | hy
          · exact hfront y (hself.symm ▸ hy)
          · -- Everything is idle, and the new item had been dropped too if a line ended there.
            have hl : l.any isContent = false := by
              rw [heq, List.any_append, Bool.or_eq_false_iff, List.any_eq_false, List.any_eq_false]
              refine ⟨fun z hz => by simp [hidle z hz], fun z hz => ?_⟩
              rw [← hself] at hz
              simpa using List.mem_takeWhile_imp hz
            have hyx : y = x := List.mem_singleton.1 ((List.takeWhile_sublist _).subset hy)
            have hyc : isContent y = false := by simpa using List.mem_takeWhile_imp hy
            rw [hyx] at hyc ⊢
            simpa [hl, hyc] using h
        case isFalse => exact hfront y hy

theorem dropIdleLines_eq_self {l : List α}
    (h : ∀ x ∈ l.takeWhile (!isContent ·), isLineEnd x = false) :
    dropIdleLines isContent isLineEnd l = l := by
  have hall : (l.takeWhile (!isContent ·)).rtakeWhile (!isLineEnd ·)
      = l.takeWhile (!isContent ·) := by
    rw [List.rtakeWhile_eq_self_iff]
    intro x hx
    simp [h x hx]
  rw [dropIdleLines, hall, List.takeWhile_append_dropWhile]

end DropIdleLines

theorem exists_kept (ps : List Piece) :
    ∃ dropped, ps = dropped ++ kept ps ∧ (∀ p ∈ dropped.getLast?, p.isLineEnd = true) ∧
      (∀ p ∈ dropped, p.isContent = false) ∧
      ∀ p ∈ (kept ps).takeWhile (!Piece.isContent ·), p.isLineEnd = false :=
  exists_dropIdleLines ps

/-- Behind a cut or the end of an idle line the scanner begins anew. -/
theorem border {x : Text} {ps qs : List Piece} (h : reading [] .normal x = ps ++ qs)
    (hlast : ∀ p ∈ ps.getLast?, p.isCut = true ∨ p.isLineEnd = true) :
    reading [] .normal (textOf qs) = qs ∧ modeAfter .normal ps = .normal := by
  have hborder : modeAfter .normal ps = .normal ∧ WordBreak (textOf ps).reverse := by
    cases ps using List.reverseRecOn with
    | nil => exact ⟨rfl, wordBreak_nil⟩
    | append_singleton ps p =>
      have hmem : p ∈ reading [] .normal x := by rw [h]; simp
      obtain ⟨past, mode, c, next, hp⟩ := isTaken_of_mem p hmem
      rw [modeAfter_concat, textOf_append, List.reverse_append]
      rcases hlast p (by simp) with hcut | hline
      · have hsemicolon := (eq_of_isCut (hp ▸ hcut)).1
        rw [hp] at hsemicolon
        rw [hsemicolon]
        exact ⟨rfl, wordBreak_cons _ (by decide +kernel) (by decide)⟩
      · obtain ⟨htext, hmode⟩ : p.text = ['\n'] ∧ p.mode = .normal := of_decide_eq_true hline
        rw [textOf_cons, htext]
        exact ⟨hmode, wordBreak_cons _ (by decide +kernel) (by decide)⟩
  obtain ⟨hmode, hpast⟩ := hborder
  have hsuffix := reading_suffix h
  rw [hmode, List.append_nil, ← List.nil_append (textOf ps).reverse,
    reading_of_wordBreak hpast] at hsuffix
  exact ⟨hsuffix, hmode⟩

/-- **The pieces of a statement that is stable**: its text, alone or as a line,
    falls into them, and there is nothing to be left out. -/
structure IsStable (s : Text) (ps : List Piece) : Prop where
  text : textOf ps = s
  trimmed : s.IsTrimmed
  ne_nil : s ≠ []
  content : hasContent ps = true
  kept : kept ps = ps
  uncut : ∀ p ∈ ps, p.isCut = false
  closed : (modeAfter .normal ps).isOpen = false
  read : reading [] .normal s = ps
  readLine : reading [] .normal (s ++ ['\n']) = ps ++ [Piece.newline]

/-- **What is kept of a segment** stands behind a cut or the end of a line, where
    the scanner begins anew; so it is read there as it is in the whole text. -/
theorem Segment.exists_dropped {x : Text} {front seg rear : List Piece}
    (hseg : Segment (reading [] .normal x) front seg rear)
    (hopen : (modeAfter .normal (front ++ seg)).isOpen = false) (hcontent : hasContent seg = true) :
    ∃ dropped, seg = dropped ++ kept seg ∧
      reading [] .normal x = (front ++ dropped) ++ (kept seg ++ rear) ∧
      reading [] .normal (textOf (kept seg ++ rear)) = kept seg ++ rear ∧
      (modeAfter .normal (kept seg)).isOpen = false ∧ hasContent (kept seg) = true ∧
      ∀ p ∈ (kept seg).takeWhile (!Piece.isContent ·), p.isLineEnd = false := by
  obtain ⟨dropped, hdropped, hlast, hidle, hprompt⟩ := exists_kept seg
  have hread : reading [] .normal x = (front ++ dropped) ++ (kept seg ++ rear) := by
    conv_lhs => rw [hseg.eq, hdropped]
    simp
  have hborder : ∀ p ∈ (front ++ dropped).getLast?, p.isCut = true ∨ p.isLineEnd = true := by
    intro p hp
    rw [List.getLast?_append] at hp
    cases hd : dropped.getLast? with
    | none => exact .inl (hseg.front p (by simpa [hd] using hp))
    | some q =>
      obtain rfl : q = p := by simpa [hd] using hp
      exact .inr (hlast q hd)
  obtain ⟨hkept, hnormal⟩ := border hread hborder
  refine ⟨dropped, hdropped, hread, hkept, ?_, ?_, hprompt⟩
  · rw [hdropped, ← List.append_assoc, modeAfter_append, hnormal] at hopen
    exact hopen
  · have hnone : hasContent dropped = false := by
      rw [hasContent, List.any_eq_false]
      intro p hp
      simp [hidle p hp]
    rw [hdropped, hasContent_append, hnone] at hcontent
    simpa using hcontent

/-- Where no line ends in front of the first content, nothing is left out of what
    follows the idle pieces. -/
theorem kept_eq_self {a ps b : List Piece} (ha : hasContent a = false)
    (hprompt : ∀ p ∈ (a ++ (ps ++ b)).takeWhile (!Piece.isContent ·), p.isLineEnd = false) :
    kept ps = ps := by
  apply dropIdleLines_eq_self
  intro p hp
  apply hprompt
  have hidle : ∀ q ∈ a, (!q.isContent) = true := by simpa [hasContent] using ha
  rw [List.takeWhile_append_of_pos hidle, List.takeWhile_append]
  apply List.mem_append_right
  split
  · exact List.mem_append_left _ ((List.takeWhile_sublist _).subset hp)
  · exact hp

/-- **A statement between two cuts is stable.** -/
theorem Segment.stable {x s : Text} {front seg rear : List Piece}
    (hseg : Segment (reading [] .normal x) front seg rear) (hx : ∀ c ∈ x.getLast?, c = '\n')
    (hopen : (modeAfter .normal (front ++ seg)).isOpen = false) (hs : statement? seg = some s) :
    ∃ ps, IsStable s ps := by
  obtain ⟨hcontent, htrim⟩ : hasContent seg = true ∧ Text.trim (textOf (kept seg)) = s := by
    simpa [statement?] using hs
  obtain ⟨dropped, hdropped, hread, hkept, hkopen, hkcontent, hprompt⟩ :=
    hseg.exists_dropped hopen hcontent
  obtain ⟨a, ps, b, heq, ha, hb, hps, hne, hpcontent, hpopen, hpread⟩ :=
    exists_trimmed hkept hkopen hkcontent
  have htaken : ∀ p ∈ a ++ (ps ++ (b ++ rear)), IsTaken p := by
    intro p hp
    apply isTaken_of_mem p
    rw [hkept, heq]
    simpa using hp
  have htext : textOf ps = s := by
    rw [← htrim, heq, textOf_append, textOf_append,
      Text.trim_append (allBlank_textOf ha) hps hne (allBlank_textOf hb)]
  have hself : kept ps = ps := by
    rw [heq] at hprompt
    exact kept_eq_self (hasContent_of_blanks (fun q hq => htaken q (by simp [hq])) ha) hprompt
  have huncut : ∀ p ∈ ps, p.isCut = false := by
    intro p hp
    apply hseg.uncut
    rw [hdropped, heq]
    simp [hp]
  -- The text ends with a line, and what is left of the statement does not.
  have hend : b = [] → rear = [] → False := by
    rintro rfl rfl
    obtain ⟨c, hclast⟩ : ∃ c, (textOf ps).getLast? = some c :=
      ⟨_, List.getLast?_eq_some_getLast hne⟩
    have hxlast : x.getLast? = (textOf ps).getLast? := by
      rw [← textOf_reading [] .normal x, hread, heq]
      simp [List.getLast?_append, hclast]
    have hblank := hps.last c hclast
    rw [hx c (hxlast.trans hclast)] at hblank
    cases hblank
  obtain ⟨d, y, hdy, hd⟩ := exists_inert (fun p hp => htaken p (by grind)) hb hseg.rear hend
  obtain ⟨hread, hreadLine⟩ := reading_trimmed hpread hpopen hdy hd
  rw [htext] at hps hne hread hreadLine
  exact ⟨ps, htext, hps, hne, hpcontent, hself, huncut, hpopen, hread, hreadLine⟩

/-! ## Statements that have been given out -/

namespace StatementBuffer

/-- A stable statement is given out again at the end of the input, and nothing
    before. -/
theorem takeLines_of_isStable {s : Text} {ps : List Piece} (h : IsStable s ps) :
    (empty.takeLines (s.splitOn '\n')).1 = [] ∧
      (empty.takeLines (s.splitOn '\n')).2.finish = .ok (some s) := by
  obtain ⟨hholds, hcompleted, hrest⟩ := takeLines_empty (isLine_of_mem_splitOn (s := s))
  rw [textOfLines_splitOn, h.readLine] at hholds hcompleted
  have hsplit : (ps ++ [Piece.newline]).splitOnP Piece.isCut = [ps ++ [Piece.newline]] := by
    apply List.splitOnP_eq_singleton
    intro p hp
    rcases List.mem_append.1 hp with hp | hp
    · exact h.uncut p hp
    · rw [List.mem_singleton.1 hp]
      rfl
  have hstatement : statement? (ps ++ [Piece.newline]) = some s := by
    have htrim := Text.trim_append (a := []) (b := ['\n']) rfl h.trimmed h.ne_nil rfl
    rw [statement?, hasContent_append, h.content, kept_concat, h.content, h.kept]
    simpa [h.text, Piece.newline] using htrim
  refine ⟨?_, ?_⟩
  · rw [← hcompleted, completed, hsplit]
    rfl
  · rw [hholds.finish hrest, modeAfter_concat, current, hsplit]
    exact congrArg Except.ok hstatement

/-- Every statement that is given out is stable. -/
theorem exists_isStable {lines : List Text} {s : Text} (hlines : ∀ line ∈ lines, IsLine line)
    (hs : s ∈ (empty.takeLines lines).1 ∨ (empty.takeLines lines).2.finish = .ok (some s)) :
    ∃ ps, IsStable s ps := by
  obtain ⟨hholds, hcompleted, hrest⟩ := takeLines_empty hlines
  rcases hs with hs | hs
  · rw [← hcompleted] at hs
    obtain ⟨front, seg, p, rear, hseg, hstatement⟩ := exists_of_mem_completed hs
    -- A cut is made in one mode only, and nothing is open then.
    have hread : reading [] .normal (textOfLines lines) = (front ++ seg) ++ p :: rear := by
      rw [hseg.eq, List.append_assoc]
    have hnormal := mode_of_cut hread (hseg.rear p rfl)
    exact hseg.stable (getLast?_textOfLines lines) (by rw [hnormal]; rfl) hstatement
  · obtain ⟨front, hseg⟩ := exists_current (reading [] .normal (textOfLines lines))
    rw [hholds.finish hrest] at hs
    split at hs
    case isTrue => cases hs
    case isFalse hopen =>
      refine hseg.stable (getLast?_textOfLines lines) ?_ (Except.ok.inj hs)
      rw [hseg.eq, List.append_nil] at hopen
      simpa using hopen

/-- **Statements are complete and stable.**  What is given out, before the end of
    the input or at it, is not empty and has no blanks around it.  Nothing in it
    ends a statement, and nothing is left open at its end.  Read again line by
    line it completes nothing, and is given out as it is at the end. -/
theorem emitted_stable (lines : List Text) (hlines : ∀ line ∈ lines, IsLine line) (s : Text)
    (hs : s ∈ (empty.takeLines lines).1 ∨ (empty.takeLines lines).2.finish = .ok (some s)) :
    s ≠ [] ∧ Text.trim s = s ∧
      (∀ p ∈ reading [] .normal s, p.isCut = false) ∧
      (modeAfter .normal (reading [] .normal s)).isOpen = false ∧
      (empty.takeLines (s.splitOn '\n')).1 = [] ∧
      (empty.takeLines (s.splitOn '\n')).2.close = (.ok (some s), empty) ∧
      statementsOfLines (s.splitOn '\n') = .ok [s] := by
  obtain ⟨ps, h⟩ := exists_isStable hlines hs
  obtain ⟨htexts, hfinish⟩ := takeLines_of_isStable h
  have hclose : (empty.takeLines (s.splitOn '\n')).2.close = (.ok (some s), empty) := by
    rw [close, hfinish]
  refine ⟨h.ne_nil, h.trimmed.trim_eq h.ne_nil, ?_, ?_, htexts, hclose, ?_⟩
  · rw [h.read]
    exact h.uncut
  · rw [h.read]
    exact h.closed
  · rw [statementsOfLines_eq, htexts, hfinish]
    rfl

/-- A statement that holds a semicolon in a string and one in a comment. -/
theorem emitted_stable_semicolons :
    (∀ line ∈ ["  select ';' /* ; */ ; -- next".toList], IsLine line) ∧
      "select ';' /* ; */".toList
        ∈ (empty.takeLines ["  select ';' /* ; */ ; -- next".toList]).1 ∧
      statementsOfLines ("select ';' /* ; */".toList.splitOn '\n')
        = .ok ["select ';' /* ; */".toList] := by
  have hlines : ∀ line ∈ ["  select ';' /* ; */ ; -- next".toList], IsLine line := by decide
  have hmem : "select ';' /* ; */".toList
      ∈ (empty.takeLines ["  select ';' /* ; */ ; -- next".toList]).1 := by
    rw [← (takeLines_empty hlines).2.1]
    decide +kernel
  obtain ⟨-, -, -, -, -, -, hagain⟩ := emitted_stable _ hlines _ (.inl hmem)
  exact ⟨hlines, hmem, hagain⟩

end StatementBuffer

end SqlShell
