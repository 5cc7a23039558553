import SqlShell.Proofs.Statement.Reading

/-! # Assembly Line by Line

    The buffer gets its text line by line, cuts it at every semicolon, forgets
    lines without content, and never looks at a blank line between statements.
    What it makes of some lines is what one scan over all of them makes.

    * **`wholeScan`** is that scan: it reads the whole text, and finds the
      statements between the cuts.
    * **`Holds`** is the invariant: the buffer holds what is kept of the pieces
      behind the last cut.  `Holds.drain_cons` is its step, one piece on.
    * **`takeLines_eq_wholeScan`** puts the two together. -/

namespace SqlShell

/-- **One scan over a whole text**: the statements that are complete in it, and
    what is left at its end. -/
def wholeScan (s : Text) : List Text × Except Unterminated (Option Text) :=
  let ps := reading [] .normal s
  let segments := ps.splitOnP Piece.isCut
  let mode := modeAfter .normal ps
  let tail := segments.getLastD []
  (segments.dropLast.filterMap statement?,
    if mode.isOpen then .error ⟨mode.name, Text.trim (textOf (kept tail))⟩
    else .ok (statement? tail))

/-- The text of some lines, each without its end and with a line feed instead. -/
def textOfLines (lines : List Text) : Text := lines.flatMap fun l => Text.dropLineEnd l ++ ['\n']

/-- A line has no line feed but the one that may end it. -/
def IsLine (line : Text) : Prop := '\n' ∉ line.dropLast

instance : DecidablePred IsLine := fun line => inferInstanceAs (Decidable ('\n' ∉ line.dropLast))

theorem IsLine.not_mem_dropLineEnd {line : Text} (h : IsLine line) :
    '\n' ∉ Text.dropLineEnd line := by
  unfold IsLine at h
  unfold Text.dropLineEnd
  split
  case h_1 r hr =>
    have hline : line = r.reverse ++ ['\r', '\n'] := by simpa using congrArg List.reverse hr
    intro hmem
    apply h
    rw [hline, List.dropLast_append_of_ne_nil (by simp)]
    exact List.mem_append_left _ hmem
  case h_2 r _ hr =>
    have hline : line = r.reverse ++ ['\n'] := by simpa using congrArg List.reverse hr
    rw [hline, List.dropLast_concat] at h
    exact h
  case h_3 _ hr =>
    cases line using List.reverseRecOn with
    | nil => simp
    | append_singleton line c =>
      have hc : c ≠ '\n' := by
        rintro rfl
        exact hr line.reverse (by simp)
      rw [List.dropLast_concat] at h
      simp [h, hc.symm]

theorem dropLineEnd_of_not_mem {line : Text} (h : '\n' ∉ line) : Text.dropLineEnd line = line := by
  unfold Text.dropLineEnd
  split
  case h_1 r hr => exact (h (List.mem_reverse.1 (by simp [hr]))).elim
  case h_2 r _ hr => exact (h (List.mem_reverse.1 (by simp [hr]))).elim
  case h_3 => rfl

/-- The parts of a text between its line feeds are lines. -/
theorem not_mem_of_mem_splitOn {s : Text} : ∀ line ∈ s.splitOn '\n', '\n' ∉ line := by
  induction s with
  | nil => simp [List.splitOn_nil]
  | cons c s ih =>
    rw [List.splitOn_cons_eq_if_modifyHead]
    intro line hline
    split at hline
    case isTrue =>
      rcases List.mem_cons.1 hline with rfl | hline
      · simp
      · exact ih line hline
    case isFalse hc =>
      obtain ⟨first, others, hs⟩ := List.exists_cons_of_ne_nil (List.splitOn_ne_nil '\n' s)
      rw [hs] at ih hline
      rw [List.modifyHead_cons] at hline
      rcases List.mem_cons.1 hline with rfl | hline
      · have hfirst := ih first (by simp)
        have hcn : '\n' ≠ c := by
          rintro rfl
          simp at hc
        simp [hfirst, hcn]
      · exact ih line (List.mem_cons_of_mem _ hline)

theorem isLine_of_mem_splitOn {s : Text} : ∀ line ∈ s.splitOn '\n', IsLine line := by
  intro line hline
  exact fun hmem => not_mem_of_mem_splitOn line hline ((List.dropLast_sublist line).subset hmem)

/-- The lines of a text have that text, with a line feed at its end. -/
theorem textOfLines_splitOn (s : Text) : textOfLines (s.splitOn '\n') = s ++ ['\n'] := by
  have hall : ∀ lines : List Text, (∀ line ∈ lines, '\n' ∉ line) →
      textOfLines lines = lines.flatMap (· ++ ['\n']) := by
    intro lines hlines
    unfold textOfLines
    apply List.flatMap_congr
    intro line hline
    rw [dropLineEnd_of_not_mem (hlines line hline)]
  rw [hall _ not_mem_of_mem_splitOn]
  induction s with
  | nil => rfl
  | cons c s ih =>
    obtain ⟨first, others, hs⟩ := List.exists_cons_of_ne_nil (List.splitOn_ne_nil '\n' s)
    rw [List.splitOn_cons_eq_if_modifyHead]
    rw [hs] at ih ⊢
    split
    case isTrue hc =>
      rw [List.flatMap_cons, ih, beq_iff_eq.1 hc]
      rfl
    case isFalse =>
      rw [List.modifyHead_cons, List.flatMap_cons, List.cons_append, List.cons_append,
        List.cons_append, ← ih, List.flatMap_cons]

theorem getLast?_textOfLines (lines : List Text) :
    ∀ c ∈ (textOfLines lines).getLast?, c = '\n' := by
  cases lines using List.reverseRecOn with
  | nil => simp [textOfLines]
  | append_singleton lines line =>
    rw [textOfLines, List.flatMap_append]
    simp

/-- What is left of a line that is being scanned. -/
def IsLineTail (s : Text) : Prop := s = [] ∨ ∃ x, '\n' ∉ x ∧ s = x ++ ['\n']

/-- Behind a part of a line is what is left of it; if nothing is, the part ends
    with the line. -/
theorem IsLineTail.of_append {t r : Text} (h : IsLineTail (t ++ r)) (ht : t ≠ []) :
    IsLineTail r ∧ (r = [] → t.getLast? = some '\n') ∧ (t = ['\n'] → r = []) := by
  obtain h | ⟨x, hx, h⟩ := h
  · exact (ht (List.append_eq_nil_iff.1 h).1).elim
  cases r using List.reverseRecOn with
  | nil =>
    rw [List.append_nil] at h
    refine ⟨.inl rfl, fun _ => ?_, fun _ => rfl⟩
    rw [h, List.getLast?_concat]
  | append_singleton r c =>
    rw [← List.append_assoc] at h
    obtain ⟨rfl, hc⟩ := List.append_inj' h rfl
    obtain rfl := List.singleton_inj.1 hc
    have htr := mt List.mem_append.2 hx
    refine ⟨.inr ⟨r, fun hr => htr (.inr hr), rfl⟩, by simp, ?_⟩
    rintro rfl
    exact (htr (.inl (by simp))).elim

/-! ## Scanning and draining piece by piece -/

/-- Scanning takes one piece after the other. -/
theorem scan_cons {before : Text} {mode : ScanMode} {c : Char} {s r : Text} {p : Piece}
    (content : Bool) (hp : pieceAt before mode c s.head? = p) (hr : c :: s = p.text ++ r) :
    scan before mode content (c :: s)
      = if p.isCut then
          if content then .statement (Text.trim before.reverse) r else scan [] .normal false r
        else scan (p.text.reverse ++ before) p.mode (content || p.isContent) r := by
  rw [scan, scanStep_eq, hp]
  by_cases hcut : p.isCut = true
  · obtain ⟨hcutp, -⟩ := eq_of_isCut (hp ▸ hcut)
    have hsr : s = r := by
      rw [← hp, hcutp] at hr
      exact (List.cons.inj hr).2
    simp only [hcut, if_true, hsr]
  rcases text_pieceAt before mode c s.head? with ⟨d, hd, h⟩ | h
  · obtain ⟨t, rfl⟩ := List.head?_eq_some_iff.1 hd
    rw [hp] at h
    have htr : t = r := by
      rw [h] at hr
      simpa using hr
    simp [hcut, h, htr]
  · rw [hp] at h
    have hsr : s = r := by
      rw [h] at hr
      simpa using hr
    simp [hcut, h, hsr]

/-- **Up to what follows a text without cuts** the scanner goes through all of it, if
    it takes the last character as it would at the end. -/
theorem scan_append_of_uncut {before : Text} {mode : ScanMode} {s : Text} (content : Bool)
    {y : Text} (huncut : ∀ p ∈ reading before mode s, p.isCut = false)
    (hlast : ∀ past m, ∀ c ∈ s.getLast?,
      (pieceAt past m c none).mode = modeAfter mode (reading before mode s) →
        pieceAt past m c y.head? = pieceAt past m c none) :
    scan before mode content (s ++ y)
      = scan (s.reverse ++ before) (modeAfter mode (reading before mode s))
          (content || hasContent (reading before mode s)) y := by
  induction before, mode, s using reading_induction generalizing content with
  | nil before mode => simp [reading, hasContent]
  | cons before mode c s p r hp hr ih =>
    rw [reading_cons hp hr] at huncut hlast ⊢
    obtain ⟨hcut, huncut⟩ := List.forall_mem_cons.1 huncut
    rw [modeAfter_cons] at hlast ⊢
    -- What follows is seen at the last character only.
    have hahead : pieceAt before mode c (s ++ y).head? = p := by
      cases s with
      | cons d s => exact hp
      | nil =>
        have hmode : (pieceAt before mode c none).mode
            = modeAfter p.mode (reading (p.text.reverse ++ before) p.mode r) := by
          rw [rest_eq_nil hp hr]
          exact congrArg Piece.mode hp
        exact (hlast before mode c rfl hmode).trans hp
    have hlast' : ∀ past m, ∀ d ∈ r.getLast?,
        (pieceAt past m d none).mode
            = modeAfter p.mode (reading (p.text.reverse ++ before) p.mode r) →
          pieceAt past m d y.head? = pieceAt past m d none := by
      intro past m d hd
      apply hlast past m d
      rw [hr, List.getLast?_append, Option.mem_def.1 hd]
      rfl
    have hrest : c :: (s ++ y) = p.text ++ (r ++ y) := by
      rw [← List.append_assoc, ← hr, List.cons_append]
    have hbefore : (c :: s).reverse ++ before = r.reverse ++ (p.text.reverse ++ before) := by
      rw [hr, List.reverse_append, List.append_assoc]
    have hstep := ih (content || p.isContent) huncut hlast'
    rw [List.cons_append, scan_cons content hahead hrest, if_neg (by simp [hcut]), hstep, hbefore]
    simp [hasContent, Bool.or_assoc]

/-- Blanks outside every literal and comment are scanned over. -/
theorem scan_blank {s : Text} (hs : Text.allBlank s = true) (before : Text) (content : Bool) :
    scan before .normal content s = .pending (s.reverse ++ before) .normal content := by
  induction s generalizing before with
  | nil => rfl
  | cons c s ih =>
    obtain ⟨hc, hs⟩ : Text.isBlank c = true ∧ Text.allBlank s = true := by
      simpa [Text.allBlank] using hs
    rw [scan_cons content (pieceAt_blank hc before s.head?) rfl]
    simp [Piece.isCut, Piece.isContent, ih hs]

namespace StatementBuffer

/-- Draining is scanning on until no statement comes any more. -/
theorem drain_next (a : StatementBuffer) :
    a.drain = match a.next with
      | (some text, a') => (text :: a'.drain.1, a'.drain.2)
      | (none, a') => ([], a') := by
  rw [drain]
  unfold next
  split <;> rename_i h <;> simp [h]

theorem drain_congr {a b : StatementBuffer}
    (h : scan a.before a.mode a.content a.waiting = scan b.before b.mode b.content b.waiting) :
    a.drain = b.drain := by
  rw [drain_next a, drain_next b]
  unfold next
  rw [h]

/-- The buffer between two lines: everything has been scanned, and nothing is
    kept unless a statement has been begun. -/
structure AtRest (a : StatementBuffer) : Prop where
  scanned : a.waiting = []
  idle : a.inProgress = false → a = empty

theorem atRest_empty : AtRest empty := ⟨rfl, fun _ => rfl⟩

/-- **The statements of a line** are those of its text.  That a blank line is
    not scanned between statements makes no difference. -/
theorem AtRest.takeLine_eq {a : StatementBuffer} (h : a.AtRest) (line : Text) :
    a.takeLine line = drain { a with waiting := Text.dropLineEnd line ++ ['\n'] } := by
  unfold takeLine addLine
  by_cases hskip : (!a.inProgress && Text.allBlank (Text.dropLineEnd line)) = true
  · obtain ⟨hidle, hblank⟩ :
        a.inProgress = false ∧ Text.allBlank (Text.dropLineEnd line) = true := by
      simpa using hskip
    have hline : Text.allBlank (Text.dropLineEnd line ++ ['\n']) = true := by
      unfold Text.allBlank at hblank ⊢
      rw [List.all_append, hblank]
      rfl
    simp only [hskip, if_true]
    rw [h.idle hidle, drain_next]
    unfold next
    rw [show empty.mode = .normal from rfl, scan_blank hline]
    rfl
  · have hwaiting : a.waiting ++ Text.dropLineEnd line ++ ['\n']
        = Text.dropLineEnd line ++ ['\n'] := by rw [h.scanned, List.nil_append]
    simp only [hskip, hwaiting, drain_next { a with waiting := _ }]
    rcases next { a with waiting := Text.dropLineEnd line ++ ['\n'] }
      with ⟨_ | text, a'⟩ <;> rfl

theorem AtRest.drain_eq {a : StatementBuffer} (h : a.AtRest) : a.drain = ([], a) := by
  have hnext : a.next = (none, a) := by
    cases hidle : a.inProgress with
    | false =>
      rw [h.idle hidle]
      rfl
    | true =>
      obtain ⟨before, waiting, mode, content⟩ := a
      obtain rfl : waiting = [] := h.scanned
      simp only [inProgress] at hidle
      simp only [next, scan, hidle, if_true]
  rw [drain_next, hnext]

/-! ## The invariant -/

/-- **The buffer holds what is kept** of the pieces behind the last cut, when
    the pieces `ps` have been read.  What it has forgotten is of no use to the
    scanner: it ended at a word break. -/
structure Holds (a : StatementBuffer) (ps : List Piece) : Prop where
  before : a.before = (textOf (kept (current ps))).reverse
  mode : a.mode = modeAfter .normal ps
  content : a.content = hasContent (current ps)
  past : ∃ w, WordBreak w ∧ (textOf ps).reverse = a.before ++ w

theorem holds_empty : Holds empty [] where
  before := rfl
  mode := rfl
  content := rfl
  past := ⟨[], wordBreak_nil, rfl⟩

/-- To the buffer the text goes on as it does behind all the pieces read. -/
theorem Holds.pieceAt_eq {a : StatementBuffer} {ps : List Piece} (h : a.Holds ps) (c : Char)
    (next : Option Char) :
    pieceAt (textOf ps).reverse (modeAfter .normal ps) c next = pieceAt a.before a.mode c next := by
  obtain ⟨w, hw, hpast⟩ := h.past
  rw [hpast, pieceAt_append hw, h.mode]

/-- Nothing is held behind a cut. -/
theorem holds_cut {ps : List Piece} {p : Piece} (hp : p = ⟨[';'], .normal, .cut⟩) (r : Text) :
    Holds { empty with waiting := r } (ps ++ [p]) := by
  subst hp
  refine ⟨?_, ?_, ?_, ';' :: (textOf ps).reverse, ?_, ?_⟩
  · rw [current_concat]
    rfl
  · rw [modeAfter_concat]
    rfl
  · rw [current_concat]
    rfl
  · exact wordBreak_cons _ (by decide +kernel) (by decide)
  · simp [empty]

/-- A line without content that has come to its end is forgotten. -/
theorem Holds.idleLine {a : StatementBuffer} {ps : List Piece} {p : Piece} (h : a.Holds ps)
    (hcut : p.isCut = false) (hline : p.isLineEnd = true)
    (hidle : (a.content || p.isContent) = false) : Holds empty (ps ++ [p]) := by
  obtain ⟨hcontent, hpc⟩ := Bool.or_eq_false_iff.1 hidle
  obtain ⟨htext, hmode⟩ : p.text = ['\n'] ∧ p.mode = .normal := of_decide_eq_true hline
  rw [h.content] at hcontent
  have hcurrent : current (ps ++ [p]) = current ps ++ [p] := by simp [current_concat, hcut]
  refine ⟨?_, ?_, ?_, '\n' :: (textOf ps).reverse, ?_, ?_⟩
  · rw [hcurrent, kept_concat, hcontent, hpc, hline]
    rfl
  · rw [modeAfter_concat, hmode]
    rfl
  · rw [hcurrent, hasContent_concat, hcontent, hpc]
    rfl
  · exact wordBreak_cons _ (by decide +kernel) (by decide)
  · simp [htext, empty]

/-- Everything else is held together with what is there. -/
theorem Holds.concat {a : StatementBuffer} {ps : List Piece} {p : Piece} (h : a.Holds ps)
    (hcut : p.isCut = false) (hline : (a.content || p.isContent) = false → p.isLineEnd = false)
    (r : Text) :
    Holds ⟨p.text.reverse ++ a.before, r, p.mode, a.content || p.isContent⟩ (ps ++ [p]) := by
  obtain ⟨w, hw, hpast⟩ := h.past
  have hcurrent : current (ps ++ [p]) = current ps ++ [p] := by simp [current_concat, hcut]
  refine ⟨?_, ?_, ?_, w, hw, ?_⟩
  · have hkept : kept (current ps ++ [p]) = kept (current ps) ++ [p] := by
      rw [kept_concat, if_neg]
      intro hdrop
      rw [h.content] at hline
      simp only [Bool.and_eq_true, Bool.not_eq_true'] at hdrop
      have hkeep := hline (by simp [hdrop.1.1, hdrop.1.2])
      simp [hkeep] at hdrop
    rw [hcurrent, hkept]
    simp [h.before]
  · exact (modeAfter_concat _ _ _).symm
  · rw [hcurrent, hasContent_concat, h.content]
  · simp [hpast]

/-- **One piece on.**  The buffer behind it holds what it should, and gives out
    a statement exactly where one is completed.  A line end is the last piece
    that is read before the buffer is put to rest. -/
theorem Holds.drain_cons {a : StatementBuffer} {ps : List Piece} {c : Char} {s r : Text}
    {p : Piece} (h : a.Holds ps) (hs : a.waiting = c :: s)
    (hp : pieceAt (textOf ps).reverse (modeAfter .normal ps) c s.head? = p)
    (hr : c :: s = p.text ++ r) (hline : p.isLineEnd = true → r = []) :
    ∃ (texts : List Text) (b : StatementBuffer), completed (ps ++ [p]) = completed ps ++ texts ∧
      a.drain = (texts ++ b.drain.1, b.drain.2) ∧ b.Holds (ps ++ [p]) ∧ b.waiting = r := by
  have hscan := scan_cons a.content (h.pieceAt_eq c s.head? ▸ hp) hr
  rw [← hs] at hscan
  rw [completed_concat]
  by_cases hcut : p.isCut = true
  · have hsemicolon := (eq_of_isCut (hp ▸ hcut)).1
    rw [hp] at hsemicolon
    rw [if_pos hcut] at hscan ⊢
    refine ⟨_, { empty with waiting := r }, rfl, ?_, holds_cut hsemicolon r, rfl⟩
    by_cases hcontent : a.content = true
    · have hnext : a.next = (some (Text.trim a.before.reverse), { empty with waiting := r }) := by
        unfold next
        rw [hscan, if_pos hcontent]
      have htext : statement? (current ps) = some (Text.trim a.before.reverse) := by
        rw [statement?, ← h.content, if_pos hcontent, h.before, List.reverse_reverse]
      rw [drain_next a, hnext, htext]
      rfl
    · have hnone : statement? (current ps) = none := by
        rw [statement?, ← h.content, if_neg hcontent]
      rw [if_neg hcontent] at hscan
      rw [hnone]
      exact drain_congr hscan
  · rw [if_neg hcut] at hscan ⊢
    rw [Bool.not_eq_true] at hcut
    have hdrain : a.drain
        = drain ⟨p.text.reverse ++ a.before, r, p.mode, a.content || p.isContent⟩ :=
      drain_congr hscan
    by_cases hidle : (a.content || p.isContent) = false ∧ p.isLineEnd = true
    · -- The line is over, and the buffer forgets it when it comes to rest.
      refine ⟨[], empty, (List.append_nil _).symm, ?_, h.idleLine hcut hidle.2 hidle.1,
        (hline hidle.2).symm⟩
      have hmode : p.mode = .normal := (of_decide_eq_true hidle.2).2
      rw [hdrain, hline hidle.2, hidle.1, hmode, drain_next, drain_next]
      rfl
    · refine ⟨[], _, (List.append_nil _).symm, hdrain, h.concat hcut ?_ r, rfl⟩
      intro hcontent
      rw [← Bool.not_eq_true]
      exact fun h => hidle ⟨hcontent, h⟩

/-- Behind the end of a line the buffer is at rest. -/
theorem Holds.atRest {a : StatementBuffer} {ps : List Piece} {p : Piece} (h : a.Holds (ps ++ [p]))
    (hscanned : a.waiting = []) (hp : p.isLineEnd = true ∨ p.mode ≠ .normal) : a.AtRest := by
  refine ⟨hscanned, ?_⟩
  intro hidle
  obtain ⟨hcontent, hmode⟩ : a.content = false ∧ a.mode = .normal := by
    simpa [inProgress] using hidle
  have hline : p.isLineEnd = true := by
    refine hp.resolve_right fun hne => hne ?_
    rw [← hmode, h.mode, modeAfter_concat]
  have hkept : kept (current (ps ++ [p])) = [] := by
    rw [h.content] at hcontent
    by_cases hcut : p.isCut = true
    · rw [current_concat, if_pos hcut]
      rfl
    · rw [current_concat, if_neg hcut, hasContent_concat] at hcontent
      obtain ⟨hpast, hpc⟩ := Bool.or_eq_false_iff.1 hcontent
      rw [current_concat, if_neg hcut, kept_concat, hpast, hpc, hline]
      rfl
  have hbefore : a.before = [] := by rw [h.before, hkept]; rfl
  obtain ⟨before, waiting, mode, content⟩ := a
  simp_all [empty]

/-- **The buffer follows the reading** of what is left of a line, and comes to
    rest behind it. -/
theorem Holds.drain_line {a : StatementBuffer} {ps : List Piece} (h : a.Holds ps)
    (hline : IsLineTail a.waiting) (hrest : a.waiting = [] → a.AtRest) :
    a.drain.2.Holds (ps ++ reading (textOf ps).reverse (modeAfter .normal ps) a.waiting) ∧
      completed (ps ++ reading (textOf ps).reverse (modeAfter .normal ps) a.waiting)
        = completed ps ++ a.drain.1 ∧ a.drain.2.AtRest := by
  match hs : a.waiting with
  | [] =>
    rw [(hrest hs).drain_eq]
    simpa [reading] using ⟨h, hrest hs⟩
  | c :: s =>
    obtain ⟨r, hr⟩ := exists_rest (textOf ps).reverse (modeAfter .normal ps) c s
    set p := pieceAt (textOf ps).reverse (modeAfter .normal ps) c s.head? with hp
    have hne : p.text ≠ [] := by
      rcases text_pieceAt (textOf ps).reverse (modeAfter .normal ps) c s.head?
        with ⟨d, -, h⟩ | h <;> simp [hp, h]
    rw [hs, hr] at hline
    obtain ⟨htail, hlast, hend⟩ := hline.of_append hne
    have hnl : p.isLineEnd = true → r = [] := fun hp => hend (of_decide_eq_true hp).1
    obtain ⟨texts, b, hcompleted, hdrain, hb, rfl⟩ := h.drain_cons hs hp.symm hr hnl
    have hread : reading (textOf ps).reverse (modeAfter .normal ps) (c :: s)
        = p :: reading (textOf (ps ++ [p])).reverse (modeAfter .normal (ps ++ [p])) b.waiting := by
      rw [reading_cons hp.symm hr]
      simp
    have hlength : b.waiting.length < a.waiting.length := by
      rw [hs, hr, List.length_append]
      exact Nat.lt_add_of_pos_left (List.length_pos_iff.2 hne)
    obtain ⟨hholds, hall, hatRest⟩ := hb.drain_line htail
      fun hnil => hb.atRest hnil (isLineEnd_or_mode_ne (hlast hnil))
    rw [hread, hdrain]
    refine ⟨by simpa using hholds, ?_, hatRest⟩
    rw [← List.append_assoc, ← hcompleted, ← hall]
    simp
termination_by a.waiting.length

theorem takeLines_cons (a : StatementBuffer) (line : Text) (lines : List Text) :
    a.takeLines (line :: lines) = ((a.takeLine line).1 ++ ((a.takeLine line).2.takeLines lines).1,
      ((a.takeLine line).2.takeLines lines).2) := rfl

theorem takeLines_append (a : StatementBuffer) (lines others : List Text) :
    a.takeLines (lines ++ others)
      = ((a.takeLines lines).1 ++ ((a.takeLines lines).2.takeLines others).1,
        ((a.takeLines lines).2.takeLines others).2) := by
  induction lines generalizing a with
  | nil => rfl
  | cons line lines ih =>
    rw [List.cons_append, takeLines_cons, takeLines_cons, ih, List.append_assoc]

theorem takeLines_singleton (a : StatementBuffer) (line : Text) :
    a.takeLines [line] = a.takeLine line := by
  simp [StatementBuffer.takeLines]

theorem takeLines_concat (a : StatementBuffer) (lines : List Text) (line : Text) :
    a.takeLines (lines ++ [line])
      = ((a.takeLines lines).1 ++ ((a.takeLines lines).2.takeLine line).1,
        ((a.takeLines lines).2.takeLine line).2) := by
  rw [takeLines_append, takeLines_singleton]

/-- **The buffer follows the reading** of some lines. -/
theorem Holds.takeLines {a : StatementBuffer} {ps : List Piece} (h : a.Holds ps)
    (hrest : a.AtRest) {lines : List Text} (hlines : ∀ line ∈ lines, IsLine line) :
    (a.takeLines lines).2.Holds
        (ps ++ reading (textOf ps).reverse (modeAfter .normal ps) (textOfLines lines)) ∧
      completed (ps ++ reading (textOf ps).reverse (modeAfter .normal ps) (textOfLines lines))
        = completed ps ++ (a.takeLines lines).1 ∧ (a.takeLines lines).2.AtRest := by
  induction lines generalizing a ps with
  | nil => simpa [StatementBuffer.takeLines, textOfLines, reading] using ⟨h, hrest⟩
  | cons line lines ih =>
    obtain ⟨hline, hlines⟩ := List.forall_mem_cons.1 hlines
    set x := Text.dropLineEnd line ++ ['\n'] with hx
    have htail : IsLineTail x := .inr ⟨_, hline.not_mem_dropLineEnd, hx⟩
    have hbegun : Holds { a with waiting := x } ps := ⟨h.before, h.mode, h.content, h.past⟩
    obtain ⟨hb, hfirst, hbrest⟩ := hbegun.drain_line htail (by simp [x])
    rw [← hrest.takeLine_eq line] at hb hfirst hbrest
    obtain ⟨hlast, hall, hlastrest⟩ := ih hb hbrest hlines
    have hread : reading (textOf ps).reverse (modeAfter .normal ps) (textOfLines (line :: lines))
        = reading (textOf ps).reverse (modeAfter .normal ps) x
          ++ reading (x.reverse ++ (textOf ps).reverse) (modeAfter (modeAfter .normal ps)
              (reading (textOf ps).reverse (modeAfter .normal ps) x)) (textOfLines lines) :=
      reading_append (by simp) _
    rw [textOf_append, textOf_reading, List.reverse_append, modeAfter_append] at hlast hall
    rw [hread, takeLines_cons, ← List.append_assoc, ← List.append_assoc, ← hfirst]
    exact ⟨hlast, hall, hlastrest⟩

theorem takeLines_empty {lines : List Text} (hlines : ∀ line ∈ lines, IsLine line) :
    (empty.takeLines lines).2.Holds (reading [] .normal (textOfLines lines)) ∧
      completed (reading [] .normal (textOfLines lines)) = (empty.takeLines lines).1 ∧
      (empty.takeLines lines).2.AtRest :=
  holds_empty.takeLines atRest_empty hlines

theorem statementsOfLines_eq (lines : List Text) :
    statementsOfLines lines = (empty.takeLines lines).2.finish.map
      fun tail => (empty.takeLines lines).1 ++ tail.toList := rfl

/-- What is left at the end of the input is what stands behind the last cut. -/
theorem Holds.finish {a : StatementBuffer} {ps : List Piece} (h : a.Holds ps) (hrest : a.AtRest) :
    a.finish = if (modeAfter .normal ps).isOpen then
        .error ⟨(modeAfter .normal ps).name, Text.trim (textOf (kept (current ps)))⟩
      else .ok (statement? (current ps)) := by
  have htext : a.text = textOf (kept (current ps)) := by
    rw [text, hrest.scanned, h.before, List.reverse_reverse, List.append_nil]
  rw [StatementBuffer.finish, h.mode, h.content, htext, statement?]

/-- **Assembly is one scan.**  The statements that some lines complete are those
    of one scan over all their text; what is left at the end of the input, the
    scan leaves too; and the buffer is as good as new afterwards. -/
theorem takeLines_eq_wholeScan (lines : List Text) (hlines : ∀ line ∈ lines, IsLine line) :
    (empty.takeLines lines).1 = (wholeScan (textOfLines lines)).1 ∧
      (empty.takeLines lines).2.close = ((wholeScan (textOfLines lines)).2, empty) := by
  obtain ⟨hholds, hcompleted, hrest⟩ := takeLines_empty hlines
  refine ⟨hcompleted.symm, ?_⟩
  rw [close, hholds.finish hrest]
  rfl

/-- A semicolon in a comment cuts nothing, and a line that is all comment is no
    part of the statement behind it. -/
theorem takeLines_eq_wholeScan_comment_line :
    (∀ line ∈ ["select 1; -- one;".toList, "select 2\n".toList], IsLine line) ∧
      (empty.takeLines ["select 1; -- one;".toList, "select 2\n".toList]).1
        = ["select 1".toList] ∧
      (empty.takeLines ["select 1; -- one;".toList, "select 2\n".toList]).2.close
        = (.ok (some "select 2".toList), empty) := by
  have hlines : ∀ line ∈ ["select 1; -- one;".toList, "select 2\n".toList], IsLine line := by
    decide
  obtain ⟨htexts, hclose⟩ := takeLines_eq_wholeScan _ hlines
  have hscan : wholeScan (textOfLines ["select 1; -- one;".toList, "select 2\n".toList])
      = (["select 1".toList], .ok (some "select 2".toList)) := by
    decide +kernel
  rw [hscan] at htexts hclose
  exact ⟨hlines, htexts, hclose⟩

end StatementBuffer

end SqlShell
