import SqlShell.Proofs.Statement.Assembly
import SqlShell.Proofs.Text.Trimming

/-! # Literals and Comments

    A text can be read as a sequence of tokens: literals, comments, and
    characters that stand for themselves.  The scanner knows no tokens.  It
    closes a string at every quote and opens another one if there is a second,
    and looks each time at what stands in front of the quote.

    * **`Token`** and **`Lexes`** are the grammar; a token fits where it stands.
    * **`Block`** are the pieces that the scanner makes of a token;
      `exists_block` finds them for one token, `exists_blocks` for all of them.
    * **`statements_of_tokens`**: statements are cut at the semicolons that are
      tokens of their own.  It needs that no quote is escaped by a backslash
      behind a doubled one: the string that is opened there has no escapes any
      more, and `escaped_quote_behind_doubled_quote` shows it cut in two. -/

namespace SqlShell

open Text (isBlank)

/-! ## The grammar -/

/-- What the body of a string with escapes consists of. -/
inductive EscapeItem where
  /-- A character that stands for itself. -/
  | char (c : Char)
  /-- Two quotes, which stand for one. -/
  | doubledQuote
  /-- A character with a backslash in front. -/
  | escaped (c : Char)
deriving DecidableEq, Repr

namespace EscapeItem

def text : EscapeItem → Text
  | char c => [c]
  | doubledQuote => ['\'', '\'']
  | escaped c => ['\\', c]

/-- Only a character that is neither a quote nor a backslash stands for itself. -/
def Fits : EscapeItem → Prop
  | char c => c ≠ '\'' ∧ c ≠ '\\'
  | doubledQuote | escaped _ => True

instance : DecidablePred Fits
  | char c => inferInstanceAs (Decidable (c ≠ '\'' ∧ c ≠ '\\'))
  | doubledQuote | escaped _ => isTrue trivial

end EscapeItem

/-- **Tokens.** -/
inductive Token where
  /-- A standard string with its value: a backslash stands for itself. -/
  | string (value : Text)
  /-- A string with escapes, and the letter in front of it. -/
  | escapeString (mark : Char) (items : List EscapeItem)
  /-- A quoted identifier. -/
  | identifier (name : Text)
  /-- A comment that ends with the line, without the line feed. -/
  | lineComment (body : Text)
  | blockComment (body : Text)
  /-- Any other character. -/
  | other (c : Char)
deriving DecidableEq, Repr

/-- A text between quotes; a quote in it is doubled. -/
def enclosed (q : Char) (s : Text) : Text := q :: (Text.substitute q [q, q] s ++ [q])

namespace Token

/-- The characters of a token. -/
def text : Token → Text
  | string value => enclosed '\'' value
  | escapeString mark items => mark :: '\'' :: (items.flatMap EscapeItem.text ++ ['\''])
  | identifier name => enclosed '"' name
  | lineComment body => '-' :: '-' :: body
  | blockComment body => '/' :: '*' :: (body ++ ['*', '/'])
  | other c => [c]

/-- **A token fits where it stands**: `past` is the text in front of it,
    backwards, and `next` the character behind it.  A literal is as long as it
    can be, and a quote behind an `e` that is no part of a word opens a string
    with escapes. -/
def Fits (past : Text) (next : Option Char) : Token → Prop
  | string _ => escapeMark past = false ∧ next ≠ some '\''
  | escapeString mark items =>
    (mark = 'e' ∨ mark = 'E') ∧ WordBreak past ∧ (∀ i ∈ items, i.Fits) ∧ next ≠ some '\''
  | identifier _ => next ≠ some '"'
  | lineComment body => '\n' ∉ body ∧ ∀ c ∈ next, c = '\n'
  | blockComment body => Text.occursIn ['*', '/'] body = false
  | other c =>
    c ≠ '\'' ∧ c ≠ '"' ∧ ¬ (c = '-' ∧ next = some '-') ∧ ¬ (c = '/' ∧ next = some '*')

instance (past : Text) (next : Option Char) : DecidablePred (Fits past next)
  | string _ => inferInstanceAs (Decidable (escapeMark past = false ∧ next ≠ some '\''))
  | escapeString mark items => inferInstanceAs (Decidable ((mark = 'e' ∨ mark = 'E') ∧
      WordBreak past ∧ (∀ i ∈ items, i.Fits) ∧ next ≠ some '\''))
  | identifier _ => inferInstanceAs (Decidable (next ≠ some '"'))
  | lineComment body =>
    -- Given here, since a search through all characters would decide it as well.
    have : Decidable (∀ c ∈ next, c = '\n') := Option.decidableForallMem next
    inferInstanceAs (Decidable ('\n' ∉ body ∧ ∀ c ∈ next, c = '\n'))
  | blockComment body => inferInstanceAs (Decidable (Text.occursIn ['*', '/'] body = false))
  | other c => inferInstanceAs (Decidable (c ≠ '\'' ∧ c ≠ '"' ∧
      ¬ (c = '-' ∧ next = some '-') ∧ ¬ (c = '/' ∧ next = some '*')))

/-- It is a semicolon outside every literal and comment. -/
def isSemicolon (t : Token) : Bool := t = other ';'

/-- It is the end of a line outside every literal and comment. -/
def isLineEnd (t : Token) : Bool := t = other '\n'

/-- It is neither a blank nor a comment. -/
def isContent : Token → Bool
  | string _ | escapeString _ _ | identifier _ => true
  | lineComment _ | blockComment _ => false
  | other c => c ≠ ';' ∧ !isBlank c

/-- No quote is escaped by a backslash behind a doubled one. -/
def KeepsEscapes : Token → Prop
  | escapeString _ items => items.Pairwise fun i j => i = .doubledQuote → j ≠ .escaped '\''
  | _ => True

instance : DecidablePred KeepsEscapes
  | escapeString _ items => inferInstanceAs
      (Decidable (items.Pairwise fun i j => i = .doubledQuote → j ≠ .escaped '\''))
  | string _ | identifier _ | lineComment _ | blockComment _ | other _ => isTrue trivial

end Token

/-- The text of some tokens. -/
def textOfTokens (ts : List Token) : Text := ts.flatMap Token.text

/-- **The tokens of a text** that stands between `past` and `rest`. -/
def Lexes (past rest : Text) : List Token → Prop
  | [] => True
  | t :: ts =>
    t.Fits past (textOfTokens ts ++ rest).head? ∧ Lexes (t.text.reverse ++ past) rest ts

instance decidableLexes (past rest : Text) : (ts : List Token) → Decidable (Lexes past rest ts)
  | [] => isTrue trivial
  | t :: ts =>
    have := decidableLexes (t.text.reverse ++ past) rest ts
    inferInstanceAs (Decidable (t.Fits past (textOfTokens ts ++ rest).head? ∧
      Lexes (t.text.reverse ++ past) rest ts))

/-- **The statement in the tokens between two semicolons**, if there is one. -/
def tokenStatement? (ts : List Token) : Option Text :=
  if ts.any Token.isContent then
    some (Text.trim (textOfTokens (dropIdleLines Token.isContent Token.isLineEnd ts)))
  else none

/-! ## Taking a text in some pieces -/

/-- The scanner takes `x`, which stands between `past` and `rest`, in some
    pieces. -/
def Takes (past : Text) (mode : ScanMode) (x rest : Text) (ps : List Piece) : Prop :=
  reading past mode (x ++ rest)
    = ps ++ reading (x.reverse ++ past) (modeAfter mode ps) rest

namespace Takes

variable {past x y rest : Text} {mode : ScanMode} {p : Piece} {ps qs : List Piece} {c d : Char}

theorem textOf_eq (h : Takes past mode x rest ps) : textOf ps = x := by
  have hall := textOf_reading past mode (x ++ rest)
  rw [h, textOf_append, textOf_reading] at hall
  exact List.append_cancel_right hall

theorem append (hx : Takes past mode x (y ++ rest) ps)
    (hy : Takes (x.reverse ++ past) (modeAfter mode ps) y rest qs) :
    Takes past mode (x ++ y) rest (ps ++ qs) := by
  unfold Takes at *
  rw [List.append_assoc, hx, hy, modeAfter_append, List.reverse_append, List.append_assoc,
    List.append_assoc]

/-- A piece of one character comes first. -/
theorem one (hp : pieceAt past mode c (x ++ rest).head? = p) (htext : p.text = [c])
    (hx : Takes (c :: past) p.mode x rest ps) : Takes past mode (c :: x) rest (p :: ps) := by
  have hr : c :: (x ++ rest) = p.text ++ (x ++ rest) := by rw [htext]; rfl
  have hpast : p.text.reverse ++ past = c :: past := by rw [htext]; rfl
  unfold Takes at *
  rw [List.cons_append, reading_cons hp hr, hpast, hx]
  simp

/-- A piece of two characters comes first. -/
theorem two (hp : pieceAt past mode c (some d) = p) (htext : p.text = [c, d])
    (hx : Takes (d :: c :: past) p.mode x rest ps) :
    Takes past mode (c :: d :: x) rest (p :: ps) := by
  have hr : c :: d :: (x ++ rest) = p.text ++ (x ++ rest) := by rw [htext]; rfl
  have hpast : p.text.reverse ++ past = d :: c :: past := by rw [htext]; rfl
  have hpiece : pieceAt past mode c (d :: (x ++ rest)).head? = p := hp
  unfold Takes at *
  rw [List.cons_append, List.cons_append, reading_cons hpiece hr, hpast, hx]
  simp

end Takes

/-- The scanner takes `x` in pieces that all have a property, and is in the mode
    `last` behind it. -/
def TakesAs (P : Piece → Prop) (past : Text) (mode : ScanMode) (x rest : Text)
    (last : ScanMode) : Prop :=
  ∃ ps, Takes past mode x rest ps ∧ (∀ p ∈ ps, P p) ∧ modeAfter mode ps = last

namespace TakesAs

variable {P : Piece → Prop} {past x rest : Text} {mode last : ScanMode} {p : Piece} {c d : Char}

theorem nil : TakesAs P past mode [] rest mode := ⟨[], rfl, by simp, rfl⟩

theorem one (hp : pieceAt past mode c (x ++ rest).head? = p) (htext : p.text = [c]) (hP : P p)
    (hx : TakesAs P (c :: past) p.mode x rest last) : TakesAs P past mode (c :: x) rest last := by
  obtain ⟨ps, hps, hall, hlast⟩ := hx
  refine ⟨p :: ps, hps.one hp htext, ?_, by rw [modeAfter_cons, hlast]⟩
  exact List.forall_mem_cons.2 ⟨hP, hall⟩

theorem two (hp : pieceAt past mode c (some d) = p) (htext : p.text = [c, d]) (hP : P p)
    (hx : TakesAs P (d :: c :: past) p.mode x rest last) :
    TakesAs P past mode (c :: d :: x) rest last := by
  obtain ⟨ps, hps, hall, hlast⟩ := hx
  refine ⟨p :: ps, hps.two hp htext, ?_, by rw [modeAfter_cons, hlast]⟩
  exact List.forall_mem_cons.2 ⟨hP, hall⟩

end TakesAs

/-! ## The bodies of literals and comments -/

/-- Neither a statement nor a line ends with it. -/
def Piece.IsInner (p : Piece) : Prop := p.isCut = false ∧ p.isLineEnd = false

/-- It is no content either. -/
def Piece.IsSilent (p : Piece) : Prop := p.IsInner ∧ p.isContent = false

instance : DecidablePred Piece.IsInner := fun p =>
  inferInstanceAs (Decidable (p.isCut = false ∧ p.isLineEnd = false))

instance : DecidablePred Piece.IsSilent := fun p =>
  inferInstanceAs (Decidable (p.IsInner ∧ p.isContent = false))

/-- **Up to the closing quote.**  A doubled quote closes the literal and opens it
    again, so that it goes on as it was. -/
theorem takesAs_enclosed {q : Char} {mode : ScanMode}
    (hclose : ∀ past next, pieceAt past mode q next = ⟨[q], .normal, .filler⟩)
    (hopen : ∀ past next, pieceAt (q :: past) .normal q next = ⟨[q], mode, .content⟩)
    (hinside : ∀ past c next, c ≠ q → pieceAt past mode c next = ⟨[c], mode, .filler⟩)
    (hmode : mode ≠ .normal) (hq : q ≠ '\n') (s past rest : Text) :
    TakesAs Piece.IsInner past mode (Text.substitute q [q, q] s ++ [q]) rest .normal := by
  have hquote (m : ScanMode) (r : Role) (hr : r ≠ .cut) : Piece.IsInner ⟨[q], m, r⟩ := by
    simp [Piece.IsInner, Piece.isCut, Piece.isLineEnd, hr, hq]
  induction s generalizing past with
  | nil => exact .one (hclose _ _) rfl (hquote _ _ (by decide)) .nil
  | cons c s ih =>
    by_cases hc : c = q
    · rw [hc, show Text.substitute q [q, q] (q :: s) ++ [q]
        = q :: q :: (Text.substitute q [q, q] s ++ [q]) by simp [Text.substitute]]
      refine .one (hclose _ _) rfl (hquote _ _ (by decide)) ?_
      exact .one (hopen _ _) rfl (hquote _ _ (by decide)) (ih _)
    · rw [show Text.substitute q [q, q] (c :: s) ++ [q]
        = c :: (Text.substitute q [q, q] s ++ [q]) by simp [Text.substitute, hc]]
      refine .one (hinside _ _ _ hc) rfl ?_ (ih _)
      simp [Piece.IsInner, Piece.isCut, Piece.isLineEnd, hmode]

/-- In a string a character stands for itself, unless it is a quote or takes
    another one along. -/
theorem pieceAt_inString {past : Text} {escapes : Bool} {c : Char} {next : Option Char}
    (hq : c ≠ '\'') (hb : escapes = true → c ≠ '\\') :
    pieceAt past (.singleQuoted escapes) c next = ⟨[c], .singleQuoted escapes, .filler⟩ := by
  cases escapes with
  | false => simp [pieceAt]
  | true =>
    have hb := hb rfl
    simp [pieceAt, hb]

/-- Up to the quote that closes a standard string. -/
theorem takesAs_string (value past rest : Text) :
    TakesAs Piece.IsInner past (.singleQuoted false)
      (Text.substitute '\'' ['\'', '\''] value ++ ['\'']) rest .normal := by
  apply takesAs_enclosed
  · intro past next
    simp [pieceAt]
  · intro past next
    cases past <;> simp [pieceAt, escapeMark]
  · intro past c next hc
    exact pieceAt_inString hc (by simp)
  · decide
  · decide

/-- Up to the quote that closes an identifier. -/
theorem takesAs_identifier (name past rest : Text) :
    TakesAs Piece.IsInner past .doubleQuoted (Text.substitute '"' ['"', '"'] name ++ ['"']) rest
      .normal := by
  apply takesAs_enclosed
  · intro past next
    simp [pieceAt]
  · intro past next
    simp [pieceAt]
  · intro past c next hc
    simp [pieceAt]
  · decide
  · decide

/-- **Up to the quote that closes a string with escapes.**  Behind a doubled quote
    the scanner takes it for one without: a backslash is a character like any
    other, and takes no quote along. -/
theorem takesAs_escapeString (items : List EscapeItem) (escapes : Bool) (past rest : Text)
    (hfits : ∀ i ∈ items, i.Fits)
    (hkeeps : items.Pairwise fun i j => i = .doubledQuote → j ≠ .escaped '\'')
    (hplain : escapes = false → ∀ i ∈ items, i ≠ .escaped '\'') :
    TakesAs Piece.IsInner past (.singleQuoted escapes)
      (items.flatMap EscapeItem.text ++ ['\'']) rest .normal := by
  induction items generalizing escapes past with
  | nil =>
    refine .one (p := ⟨['\''], .normal, .filler⟩) ?_ rfl (by decide) .nil
    simp [pieceAt]
  | cons i items ih =>
    obtain ⟨hi, hfitsRest⟩ := List.forall_mem_cons.1 hfits
    obtain ⟨hfirst, hkeepsRest⟩ := List.pairwise_cons.1 hkeeps
    have hrest : escapes = false → ∀ i ∈ items, i ≠ .escaped '\'' :=
      fun he j hj => hplain he j (List.mem_cons_of_mem _ hj)
    cases i with
    | char c =>
      obtain ⟨hq, hb⟩ := hi
      refine .one (p := ⟨[c], .singleQuoted escapes, .filler⟩) ?_ rfl ?_
        (ih escapes _ hfitsRest hkeepsRest hrest)
      · exact pieceAt_inString hq fun _ => hb
      · simp [Piece.IsInner, Piece.isCut, Piece.isLineEnd]
    | doubledQuote =>
      refine .one (p := ⟨['\''], .normal, .filler⟩) ?_ rfl (by decide) ?_
      · simp [pieceAt]
      refine .one (p := ⟨['\''], .singleQuoted false, .content⟩) ?_ rfl (by decide) ?_
      · cases past <;> simp [pieceAt, escapeMark]
      exact ih false _ hfitsRest hkeepsRest fun _ j hj => hfirst j hj rfl
    | escaped c =>
      cases escapes with
      | true =>
        refine .two (p := ⟨['\\', c], .singleQuoted true, .filler⟩) ?_ rfl ?_
          (ih true _ hfitsRest hkeepsRest hrest)
        · simp [pieceAt]
        · simp [Piece.IsInner, Piece.isCut, Piece.isLineEnd]
      | false =>
        have hc : c ≠ '\'' := by
          rintro rfl
          exact hplain rfl _ (by simp) rfl
        refine .one (p := ⟨['\\'], .singleQuoted false, .filler⟩) ?_ rfl (by decide) ?_
        · exact pieceAt_inString (by decide) (by simp)
        refine .one (p := ⟨[c], .singleQuoted false, .filler⟩) ?_ rfl ?_
          (ih false _ hfitsRest hkeepsRest hrest)
        · exact pieceAt_inString hc (by simp)
        · simp [Piece.IsInner, Piece.isCut, Piece.isLineEnd]

/-- Up to the end of the line. -/
theorem takesAs_lineComment {body : Text} (hbody : '\n' ∉ body) (past rest : Text) :
    TakesAs Piece.IsSilent past .lineComment body rest .lineComment := by
  induction body generalizing past with
  | nil => exact .nil
  | cons c body ih =>
    obtain ⟨hc, hbody⟩ : '\n' ≠ c ∧ '\n' ∉ body := by simpa using hbody
    refine .one (p := ⟨[c], .lineComment, .filler⟩) ?_ rfl ?_ (ih hbody _)
    · have hc := hc.symm
      simp [pieceAt]
    · simp [Piece.IsSilent, Piece.IsInner, Piece.isCut, Piece.isContent, Piece.isLineEnd]

/-- In a comment a character stands for itself, unless the mark that closes it
    begins there. -/
theorem pieceAt_inBlockComment {past : Text} {c : Char} {next : Option Char}
    (h : c = '*' → next ≠ some '/') :
    pieceAt past .blockComment c next = ⟨[c], .blockComment, .filler⟩ := by
  by_cases hc : c = '*'
  · have hnext := h hc
    simp [pieceAt]
  · simp [pieceAt]

/-- Up to the mark that closes a comment. -/
theorem takesAs_blockComment {body : Text} (hbody : Text.occursIn ['*', '/'] body = false)
    (past rest : Text) :
    TakesAs Piece.IsSilent past .blockComment (body ++ ['*', '/']) rest .normal := by
  induction body generalizing past with
  | nil => exact .two (p := ⟨['*', '/'], .normal, .filler⟩) rfl rfl (by decide) .nil
  | cons c body ih =>
    obtain ⟨hc, hbody⟩ := Bool.or_eq_false_iff.1 hbody
    refine .one (p := ⟨[c], .blockComment, .filler⟩) ?_ rfl ?_ (ih hbody _)
    · -- The mark does not begin here, and not with the last character of the body.
      apply pieceAt_inBlockComment
      rintro rfl
      cases body with
      | nil => simp
      | cons d body =>
        have hd : '/' ≠ d := by simpa [List.isPrefixOf] using hc
        simpa using hd.symm
    · simp [Piece.IsSilent, Piece.IsInner, Piece.isCut, Piece.isContent, Piece.isLineEnd]

/-! ## The pieces of a token -/

/-- **The pieces of a token.**  It is a cut, an end of a line or content to its
    statement exactly if they are. -/
structure Token.Block (t : Token) (ps : List Piece) : Prop where
  text : textOf ps = t.text
  content : hasContent ps = t.isContent
  cut : t.isSemicolon = true → ∃ p, ps = [p] ∧ p.isCut = true
  uncut : t.isSemicolon = false → ∀ p ∈ ps, p.isCut = false
  lineEnd : t.isLineEnd = true → ps = [Piece.newline]
  inLine : t.isLineEnd = false → ∀ p ∈ ps, p.isLineEnd = false

/-- The pieces of a literal: with the quote that opens it there is content. -/
theorem Token.Block.of_literal {t : Token} {p : Piece} {ps : List Piece}
    (htext : textOf (p :: ps) = t.text) (ht : t.isContent = true)
    (hs : t.isSemicolon = false) (hl : t.isLineEnd = false) (hp : p.isContent = true)
    (hinner : ∀ q ∈ p :: ps, q.IsInner) : t.Block (p :: ps) where
  text := htext
  content := by rw [ht, hasContent, List.any_cons, hp, Bool.true_or]
  cut h := by rw [hs] at h; cases h
  uncut _ q hq := (hinner q hq).1
  lineEnd h := by rw [hl] at h; cases h
  inLine _ q hq := (hinner q hq).2

/-- The pieces of a comment. -/
theorem Token.Block.of_comment {t : Token} {ps : List Piece} (htext : textOf ps = t.text)
    (ht : t.isContent = false) (hs : t.isSemicolon = false) (hl : t.isLineEnd = false)
    (hsilent : ∀ q ∈ ps, q.IsSilent) : t.Block ps where
  text := htext
  content := by
    rw [ht, hasContent, List.any_eq_false]
    intro q hq
    simp [(hsilent q hq).2]
  cut h := by rw [hs] at h; cases h
  uncut _ q hq := (hsilent q hq).1.1
  lineEnd h := by rw [hl] at h; cases h
  inLine _ q hq := (hsilent q hq).1.2

/-- A quote behind a letter that stands alone opens a string with escapes. -/
theorem escapeMark_of_wordBreak {mark : Char} {past : Text} (hmark : mark = 'e' ∨ mark = 'E')
    (hpast : WordBreak past) : escapeMark (mark :: past) = true := by
  cases past with
  | nil => simpa [escapeMark] using hmark
  | cons c past =>
    obtain ⟨hc, hu⟩ := hpast c rfl
    simpa [escapeMark, hc, hu] using hmark

/-- A literal is taken as a block of pieces, if its body is taken up to the
    closing quote behind the piece that opens it. -/
theorem exists_block_literal {t : Token} {past body rest : Text} {q : Char} {mode : ScanMode}
    (htext : t.text = q :: body) (ht : t.isContent = true) (hs : t.isSemicolon = false)
    (hl : t.isLineEnd = false)
    (hpiece : pieceAt past .normal q (body ++ rest).head? = ⟨[q], mode, .content⟩)
    (hinner : Piece.IsInner ⟨[q], mode, .content⟩)
    (hbody : TakesAs Piece.IsInner (q :: past) mode body rest .normal) :
    ∃ ps, t.Block ps ∧ Takes past .normal t.text rest ps ∧ modeAfter .normal ps = .normal := by
  obtain ⟨ps, hps, hall, hlast⟩ := hbody
  have htakes : Takes past .normal t.text rest (⟨[q], mode, .content⟩ :: ps) := by
    rw [htext]
    exact hps.one hpiece rfl
  refine ⟨_, ?_, htakes, by rw [modeAfter_cons, hlast]⟩
  exact .of_literal htakes.textOf_eq ht hs hl rfl (List.forall_mem_cons.2 ⟨hinner, hall⟩)

/-- A comment is taken as a block of pieces, if its body is. -/
theorem exists_block_comment {t : Token} {past body rest : Text} {c d : Char}
    {mode last : ScanMode} (htext : t.text = c :: d :: body) (ht : t.isContent = false)
    (hs : t.isSemicolon = false) (hl : t.isLineEnd = false)
    (hpiece : pieceAt past .normal c (some d) = ⟨[c, d], mode, .filler⟩)
    (hbody : TakesAs Piece.IsSilent (d :: c :: past) mode body rest last) :
    ∃ ps, t.Block ps ∧ Takes past .normal t.text rest ps ∧ modeAfter .normal ps = last := by
  obtain ⟨ps, hps, hall, hlast⟩ := hbody
  have htakes : Takes past .normal t.text rest (⟨[c, d], mode, .filler⟩ :: ps) := by
    rw [htext]
    exact hps.two hpiece rfl
  refine ⟨_, ?_, htakes, by rw [modeAfter_cons, hlast]⟩
  refine .of_comment htakes.textOf_eq ht hs hl (List.forall_mem_cons.2 ⟨?_, hall⟩)
  simp [Piece.IsSilent, Piece.IsInner, Piece.isCut, Piece.isContent, Piece.isLineEnd]

/-- Outside of literals and comments a character stands for itself, unless
    something begins or ends with it. -/
theorem pieceAt_other {past : Text} {c : Char} {next : Option Char} (hq : c ≠ '\'')
    (hd : c ≠ '"') (hs : c ≠ ';') (hdash : ¬ (c = '-' ∧ next = some '-'))
    (hslash : ¬ (c = '/' ∧ next = some '*')) :
    pieceAt past .normal c next
      = ⟨[c], .normal, if isBlank c then .filler else .content⟩ := by
  unfold pieceAt
  split <;> simp_all

/-- A character that is no part of a literal or a comment is a piece. -/
theorem exists_block_other {c : Char} {past rest : Text} (hc : c ≠ '\n')
    (hfits : (Token.other c).Fits past rest.head?) :
    ∃ ps, (Token.other c).Block ps ∧ Takes past .normal [c] rest ps ∧
      modeAfter .normal ps = .normal := by
  obtain ⟨hq, hd, hdash, hslash⟩ := hfits
  by_cases hs : c = ';'
  · subst hs
    refine ⟨[⟨[';'], .normal, .cut⟩], ?_, ?_, rfl⟩
    · exact ⟨rfl, rfl, fun _ => ⟨_, rfl, rfl⟩, by decide, by decide, by decide⟩
    · exact reading_cons (by simp [pieceAt]) rfl
  · refine ⟨[⟨[c], .normal, if isBlank c then .filler else .content⟩], ?_, ?_, rfl⟩
    · refine ⟨rfl, ?_, ?_, ?_, ?_, ?_⟩
      · cases hb : isBlank c <;> simp [hasContent, Piece.isContent, Token.isContent, hs, hb]
      · simp [Token.isSemicolon, hs]
      · cases hb : isBlank c <;> simp [Piece.isCut]
      · simp [Token.isLineEnd, hc]
      · simp [Piece.isLineEnd, hc]
    · exact reading_cons (pieceAt_other hq hd hs hdash hslash) rfl

/-- **One token** is taken as a block of pieces, outside of literals and comments;
    in a comment that ends with the line only the end of the line is. -/
theorem exists_block {t : Token} {past rest : Text} {mode : ScanMode}
    (hopen : mode.isOpen = false) (hline : mode = .lineComment → t.isLineEnd = true)
    (hfits : t.Fits past rest.head?) (hkeeps : t.KeepsEscapes) :
    ∃ ps, t.Block ps ∧ Takes past mode t.text rest ps ∧ (modeAfter mode ps).isOpen = false ∧
      (modeAfter mode ps = .lineComment → ∀ c ∈ rest.head?, c = '\n') := by
  by_cases hl : t.isLineEnd = true
  · obtain rfl : t = .other '\n' := of_decide_eq_true hl
    refine ⟨[Piece.newline], ?_, ?_, rfl, fun h => by cases h⟩
    · exact ⟨rfl, rfl, nofun, by decide, fun _ => rfl, by decide⟩
    · exact reading_cons (pieceAt_newline hopen _ _) rfl
  rw [Bool.not_eq_true] at hl
  obtain rfl : mode = .normal := by
    cases mode with
    | normal => rfl
    | lineComment =>
      rw [hline rfl] at hl
      cases hl
    | singleQuoted _ | doubleQuoted | blockComment => cases hopen
  suffices hblock : ∃ last ps, t.Block ps ∧ Takes past .normal t.text rest ps ∧
      modeAfter .normal ps = last ∧ last.isOpen = false ∧
      (last = .lineComment → ∀ c ∈ rest.head?, c = '\n') by
    obtain ⟨last, ps, hps, htakes, rfl, hlast⟩ := hblock
    exact ⟨ps, hps, htakes, hlast⟩
  cases t with
  | string value =>
    obtain ⟨hmark, -⟩ := hfits
    obtain ⟨ps, hps, htakes, hlast⟩ := exists_block_literal (t := .string value) rfl rfl rfl hl
      (by simp [pieceAt, hmark]) (by decide) (takesAs_string value ('\'' :: past) rest)
    exact ⟨_, ps, hps, htakes, hlast, rfl, fun h => by cases h⟩
  | escapeString mark items =>
    obtain ⟨hmark, hpast, hitems, -⟩ := hfits
    have hbody : TakesAs Piece.IsInner (mark :: past) .normal
        ('\'' :: (items.flatMap EscapeItem.text ++ ['\''])) rest .normal := by
      refine .one (p := ⟨['\''], .singleQuoted true, .content⟩) ?_ rfl (by decide) ?_
      · simp [pieceAt, escapeMark_of_wordBreak hmark hpast]
      · exact takesAs_escapeString items true _ rest hitems hkeeps (by simp)
    have hpiece : pieceAt past .normal mark (some '\'') = ⟨[mark], .normal, .content⟩ := by
      rcases hmark with rfl | rfl <;> rfl
    have hinner : Piece.IsInner ⟨[mark], .normal, .content⟩ := by
      rcases hmark with rfl | rfl <;> decide
    obtain ⟨ps, hps, htakes, hlast⟩ := exists_block_literal (t := .escapeString mark items)
      rfl rfl rfl hl hpiece hinner hbody
    exact ⟨_, ps, hps, htakes, hlast, rfl, fun h => by cases h⟩
  | identifier name =>
    obtain ⟨ps, hps, htakes, hlast⟩ := exists_block_literal (t := .identifier name) rfl rfl rfl hl
      (by simp [pieceAt]) (by decide) (takesAs_identifier name ('"' :: past) rest)
    exact ⟨_, ps, hps, htakes, hlast, rfl, fun h => by cases h⟩
  | lineComment body =>
    obtain ⟨hbody, hrest⟩ := hfits
    obtain ⟨ps, hps, htakes, hlast⟩ := exists_block_comment (t := .lineComment body) rfl rfl rfl hl
      (by simp [pieceAt]) (takesAs_lineComment hbody ('-' :: '-' :: past) rest)
    exact ⟨_, ps, hps, htakes, hlast, rfl, fun _ => hrest⟩
  | blockComment body =>
    obtain ⟨ps, hps, htakes, hlast⟩ := exists_block_comment (t := .blockComment body) rfl rfl rfl hl
      (by simp [pieceAt]) (takesAs_blockComment hfits ('*' :: '/' :: past) rest)
    exact ⟨_, ps, hps, htakes, hlast, rfl, fun h => by cases h⟩
  | other c =>
    have hc : c ≠ '\n' := by simpa [Token.isLineEnd] using hl
    obtain ⟨ps, hps, htakes, hlast⟩ := exists_block_other hc hfits
    exact ⟨_, ps, hps, htakes, hlast, rfl, fun h => by cases h⟩

/-! ## The pieces of all tokens -/

/-- Tokens, each with its pieces. -/
abbrev TokenBlocks := List (Token × List Piece)

namespace TokenBlocks

/-- The tokens alone. -/
def tokens (l : TokenBlocks) : List Token := l.map Prod.fst

/-- The pieces alone. -/
def pieces (l : TokenBlocks) : List Piece := l.flatMap Prod.snd

/-- Each token stands with the pieces that it is taken in. -/
def Matches (l : TokenBlocks) : Prop := ∀ x ∈ l, x.1.Block x.2

end TokenBlocks

/-- Between two tokens that fit nothing is open; behind a comment that ends with
    the line, the line ends. -/
theorem isLineEnd_of_head {t : Token} {past : Text} {next : Option Char} {rest : Text}
    (hfits : t.Fits past next) (h : ∀ c ∈ (t.text ++ rest).head?, c = '\n') :
    t.isLineEnd = true := by
  cases t with
  | string value => exact absurd (h '\'' rfl) (by decide)
  | escapeString mark items =>
    have hmark : mark = '\n' := h mark rfl
    rcases hfits.1 with rfl | rfl <;> exact absurd hmark (by decide)
  | identifier name => exact absurd (h '"' rfl) (by decide)
  | lineComment body => exact absurd (h '-' rfl) (by decide)
  | blockComment body => exact absurd (h '/' rfl) (by decide)
  | other c =>
    have hc : c = '\n' := h c rfl
    rw [hc]
    rfl

/-- **All tokens** are taken, each as a block of pieces. -/
theorem exists_blocks {ts : List Token} {past rest : Text} {mode : ScanMode}
    (hopen : mode.isOpen = false)
    (hline : mode = .lineComment → ∀ c ∈ (textOfTokens ts ++ rest).head?, c = '\n')
    (hlexes : Lexes past rest ts) (hkeeps : ∀ t ∈ ts, t.KeepsEscapes) :
    ∃ l : TokenBlocks, l.tokens = ts ∧ l.Matches ∧ Takes past mode (textOfTokens ts) rest l.pieces ∧
      (modeAfter mode l.pieces).isOpen = false := by
  induction ts generalizing past mode with
  | nil => exact ⟨[], rfl, by simp [TokenBlocks.Matches], rfl, hopen⟩
  | cons t ts ih =>
    obtain ⟨hfits, hlexes⟩ := hlexes
    obtain ⟨ht, hkeeps⟩ := List.forall_mem_cons.1 hkeeps
    have htext : textOfTokens (t :: ts) = t.text ++ textOfTokens ts := rfl
    have htline : mode = .lineComment → t.isLineEnd = true := by
      intro hmode
      have hhead := hline hmode
      rw [htext, List.append_assoc] at hhead
      exact isLineEnd_of_head hfits hhead
    obtain ⟨ps, hps, htakes, hpopen, hpline⟩ := exists_block hopen htline hfits ht
    obtain ⟨l, rfl, hl, hltakes, hlopen⟩ := ih hpopen hpline hlexes hkeeps
    refine ⟨(t, ps) :: l, rfl, List.forall_mem_cons.2 ⟨hps, hl⟩, htakes.append hltakes, ?_⟩
    rw [← modeAfter_append] at hlopen
    exact hlopen

/-! ## Statements among the tokens -/

namespace TokenBlocks

variable {l : TokenBlocks}

@[simp] theorem tokens_append (l k : TokenBlocks) : (l ++ k).tokens = l.tokens ++ k.tokens :=
  List.map_append

@[simp] theorem pieces_append (l k : TokenBlocks) : (l ++ k).pieces = l.pieces ++ k.pieces :=
  List.flatMap_append

theorem hasContent_pieces (h : l.Matches) :
    hasContent l.pieces = l.tokens.any Token.isContent := by
  induction l with
  | nil => rfl
  | cons x l ih =>
    obtain ⟨hx, hl⟩ := List.forall_mem_cons.1 h
    have hpieces : pieces (x :: l) = x.2 ++ pieces l := rfl
    rw [hpieces, hasContent, List.any_append]
    exact congrArg₂ (· || ·) hx.content (ih hl)

/-- Where no line ends, everything is kept. -/
theorem kept_append (ps : List Piece) {qs : List Piece} (hqs : ∀ q ∈ qs, q.isLineEnd = false) :
    kept (ps ++ qs) = kept ps ++ qs := by
  induction qs using List.reverseRecOn with
  | nil => simp
  | append_singleton qs q ih =>
    rw [← List.append_assoc, kept_concat, hqs q (by simp), Bool.and_false,
      ih fun r hr => hqs r (List.mem_append_left _ hr)]
    simp

/-- **What is kept of the pieces is what is kept of the tokens.** -/
theorem textOf_kept_pieces (h : l.Matches) :
    textOf (kept l.pieces)
      = textOfTokens (dropIdleLines Token.isContent Token.isLineEnd l.tokens) := by
  induction l using List.reverseRecOn with
  | nil => rfl
  | append_singleton l x ih =>
    obtain ⟨hl, hx⟩ := List.forall_mem_append.1 h
    have hx : x.1.Block x.2 := hx x (by simp)
    have hpieces : pieces [x] = x.2 := List.flatMap_singleton ..
    rw [pieces_append, tokens_append, hpieces, show tokens [x] = [x.1] from rfl,
      dropIdleLines_concat]
    by_cases hline : x.1.isLineEnd = true
    · have hnl := hx.lineEnd hline
      have hcontent := hx.content
      rw [hnl] at hcontent
      have hidle : hasContent [Piece.newline] = false := rfl
      rw [hnl, kept_concat, hasContent_pieces hl, hline, ← hcontent, hidle]
      simp only [show Piece.newline.isContent = false from rfl,
        show Piece.newline.isLineEnd = true from rfl]
      split
      · rfl
      · rw [textOf_append, ih hl, textOfTokens, textOfTokens, List.flatMap_append, ← hnl, hx.text]
        simp
    · rw [Bool.not_eq_true] at hline
      rw [kept_append _ (hx.inLine hline), hline, Bool.and_false, textOf_append, ih hl, hx.text]
      simp [textOfTokens]

/-- **Tokens and pieces make the same statement.** -/
theorem statement?_pieces (h : l.Matches) : statement? l.pieces = tokenStatement? l.tokens := by
  rw [statement?, tokenStatement?, hasContent_pieces h, textOf_kept_pieces h]

theorem splitOnP_append_uncut {ps qs : List Piece} (hps : ∀ p ∈ ps, p.isCut = false) :
    (ps ++ qs).splitOnP Piece.isCut = (qs.splitOnP Piece.isCut).modifyHead (ps ++ ·) := by
  obtain ⟨first, others, hsplit⟩ :=
    List.exists_cons_of_ne_nil (List.splitOnP_ne_nil Piece.isCut qs)
  rw [hsplit]
  induction ps with
  | nil => exact hsplit
  | cons p ps ih =>
    obtain ⟨hp, hps⟩ := List.forall_mem_cons.1 hps
    rw [List.cons_append, List.splitOnP_cons_eq_if_modifyHead, ih hps, hp]
    rfl

/-- The cuts among the pieces are the semicolons among the tokens. -/
theorem splitOnP_pieces (h : l.Matches) :
    l.pieces.splitOnP Piece.isCut = (l.splitOnP (Token.isSemicolon ·.1)).map pieces := by
  induction l with
  | nil => rfl
  | cons x l ih =>
    obtain ⟨hx, hl⟩ := List.forall_mem_cons.1 h
    have hpieces : pieces (x :: l) = x.2 ++ pieces l := rfl
    rw [hpieces, List.splitOnP_cons_eq_if_modifyHead]
    by_cases hs : x.1.isSemicolon = true
    · obtain ⟨p, hp, hcut⟩ := hx.cut hs
      rw [hp, if_pos hs, List.singleton_append, List.splitOnP_cons_eq_if_modifyHead, if_pos hcut,
        ih hl]
      rfl
    · rw [if_neg hs, splitOnP_append_uncut (hx.uncut (by simpa using hs)), ih hl]
      obtain ⟨first, others, hsplit⟩ :=
        List.exists_cons_of_ne_nil (List.splitOnP_ne_nil (Token.isSemicolon ·.1) l)
      rw [hsplit]
      rfl

theorem splitOnP_tokens (l : TokenBlocks) :
    l.tokens.splitOnP Token.isSemicolon = (l.splitOnP (Token.isSemicolon ·.1)).map tokens := by
  induction l with
  | nil => rfl
  | cons x l ih =>
    have htokens : tokens (x :: l) = x.1 :: tokens l := rfl
    rw [htokens, List.splitOnP_cons_eq_if_modifyHead, List.splitOnP_cons_eq_if_modifyHead, ih]
    by_cases hs : x.1.isSemicolon = true
    · rw [if_pos hs, if_pos hs]
      rfl
    · rw [if_neg hs, if_neg hs]
      obtain ⟨first, others, hsplit⟩ :=
        List.exists_cons_of_ne_nil (List.splitOnP_ne_nil (Token.isSemicolon ·.1) l)
      rw [hsplit]
      rfl

theorem matches_of_mem_splitOnP (h : l.Matches) :
    ∀ part ∈ l.splitOnP (Token.isSemicolon ·.1), Matches part := by
  induction l with
  | nil => simp [List.splitOnP_nil, Matches]
  | cons x l ih =>
    obtain ⟨hx, hl⟩ := List.forall_mem_cons.1 h
    intro part hpart
    rw [List.splitOnP_cons_eq_if_modifyHead] at hpart
    split at hpart
    case isTrue =>
      rcases List.mem_cons.1 hpart with rfl | hpart
      · simp [Matches]
      · exact ih hl part hpart
    case isFalse =>
      obtain ⟨first, others, hsplit⟩ :=
        List.exists_cons_of_ne_nil (List.splitOnP_ne_nil (Token.isSemicolon ·.1) l)
      rw [hsplit] at ih hpart
      rcases List.mem_cons.1 hpart with rfl | hpart
      · exact List.forall_mem_cons.2 ⟨hx, ih hl first (by simp)⟩
      · exact ih hl part (List.mem_cons_of_mem _ hpart)

/-- The statements among the pieces are those among the tokens. -/
theorem completed_pieces (h : l.Matches) :
    completed l.pieces
      = (l.tokens.splitOnP Token.isSemicolon).dropLast.filterMap tokenStatement? := by
  rw [completed, splitOnP_pieces h, splitOnP_tokens, ← List.map_dropLast, ← List.map_dropLast,
    List.filterMap_map, List.filterMap_map]
  apply List.filterMap_congr
  intro part hpart
  exact statement?_pieces (matches_of_mem_splitOnP h part ((List.dropLast_sublist _).subset hpart))

theorem current_pieces (h : l.Matches) :
    statement? (current l.pieces)
      = tokenStatement? ((l.tokens.splitOnP Token.isSemicolon).getLastD []) := by
  obtain ⟨parts, last, hparts⟩ : ∃ parts last,
      l.splitOnP (Token.isSemicolon ·.1) = parts ++ [last] :=
    ⟨_, _, (List.dropLast_concat_getLast (List.splitOnP_ne_nil _ l)).symm⟩
  have hlast := matches_of_mem_splitOnP h last (by rw [hparts]; simp)
  rw [current, splitOnP_pieces h, splitOnP_tokens, hparts]
  simpa [List.getLastD_eq_getLast?] using statement?_pieces hlast

end TokenBlocks

/-- The end of the last line is no part of a statement. -/
theorem statement?_newline (ps : List Piece) :
    statement? (ps ++ [Piece.newline]) = statement? ps := by
  unfold statement?
  rw [hasContent_concat, show Piece.newline.isContent = false from rfl, Bool.or_false]
  split
  case isTrue h =>
    have hkept : kept (ps ++ [Piece.newline]) = kept ps ++ [Piece.newline] := by
      rw [kept_concat, h]
      rfl
    have htrim : Text.trim (textOf (kept ps) ++ ['\n']) = Text.trim (textOf (kept ps)) :=
      Text.trim_append_blank _ rfl
    rw [hkept, textOf_append]
    exact congrArg some htrim
  case isFalse => rfl

/-- Tokens fit at the end of a text if and only if they do at the end of a line. -/
theorem Lexes.newline {past : Text} {ts : List Token} (h : Lexes past [] ts) :
    Lexes past ['\n'] ts := by
  induction ts generalizing past with
  | nil => trivial
  | cons t ts ih =>
    obtain ⟨ht, hts⟩ := h
    refine ⟨?_, ih hts⟩
    cases htext : textOfTokens ts with
    | cons c s =>
      rw [htext] at ht
      exact ht
    | nil =>
      rw [htext] at ht
      cases t <;> simp_all [Token.Fits]

namespace StatementBuffer

/-- **Literals and comments are opaque.**  Of a text that is a sequence of tokens
    the statements are those between the semicolons that are tokens of their
    own, as long as no backslash escapes a quote behind a doubled one. -/
theorem statements_of_tokens (lines : List Text) (ts : List Token)
    (hlines : ∀ line ∈ lines, IsLine line)
    (htext : textOfLines lines = textOfTokens ts ++ ['\n'])
    (hlexes : Lexes [] [] ts) (hkeeps : ∀ t ∈ ts, t.KeepsEscapes) :
    (empty.takeLines lines).1
        = (ts.splitOnP Token.isSemicolon).dropLast.filterMap tokenStatement? ∧
      (empty.takeLines lines).2.finish
        = .ok (tokenStatement? ((ts.splitOnP Token.isSemicolon).getLastD [])) := by
  obtain ⟨hholds, hcompleted, hrest⟩ := takeLines_empty hlines
  have hnormal : ScanMode.isOpen .normal = false := rfl
  obtain ⟨l, rfl, hl, htakes, hopen⟩ := exists_blocks hnormal nofun hlexes.newline hkeeps
  have hread : reading [] .normal (textOfLines lines) = l.pieces ++ [Piece.newline] := by
    rw [htext, htakes, reading_cons (pieceAt_newline hopen _ _) (List.append_nil ['\n']).symm]
    rfl
  rw [hread] at hholds hcompleted
  constructor
  · rw [← hcompleted, completed_concat]
    exact TokenBlocks.completed_pieces hl
  · rw [hholds.finish hrest, modeAfter_concat, current_concat]
    exact congrArg Except.ok ((statement?_newline _).trans (TokenBlocks.current_pieces hl))

/-- A semicolon behind a quote of either kind is a part of the string. -/
theorem statements_of_tokens_escapeString :
    let lines := ["select E'\\';a''b;';".toList, "x -- ';".toList]
    let ts : List Token := ("select ".toList.map .other)
      ++ [.escapeString 'E' [.escaped '\'', .char ';', .char 'a', .doubledQuote, .char 'b',
          .char ';'], .other ';', .other '\n', .other 'x', .other ' ', .lineComment " ';".toList]
    (∀ line ∈ lines, IsLine line) ∧ textOfLines lines = textOfTokens ts ++ ['\n'] ∧
      Lexes [] [] ts ∧ (∀ t ∈ ts, t.KeepsEscapes) ∧
      (empty.takeLines lines).1 = ["select E'\\';a''b;'".toList] ∧
      (empty.takeLines lines).2.finish = .ok (some "x -- ';".toList) := by
  intro lines ts
  have hlines : ∀ line ∈ lines, IsLine line := by decide
  have htext : textOfLines lines = textOfTokens ts ++ ['\n'] := by decide
  have hlexes : Lexes [] [] ts := by decide +kernel
  have hkeeps : ∀ t ∈ ts, t.KeepsEscapes := by decide
  obtain ⟨htexts, hlast⟩ := statements_of_tokens lines ts hlines htext hlexes hkeeps
  refine ⟨hlines, htext, hlexes, hkeeps, htexts.trans ?_, hlast.trans ?_⟩
  · decide +kernel
  · decide +kernel

/-- **A quote escaped behind a doubled one ends the string.**  The semicolon that
    follows it is a part of the string, but a statement is cut there. -/
theorem escaped_quote_behind_doubled_quote :
    ¬ ∀ (lines : List Text) (ts : List Token), (∀ line ∈ lines, IsLine line) →
      textOfLines lines = textOfTokens ts ++ ['\n'] → Lexes [] [] ts →
      (empty.takeLines lines).1
        = (ts.splitOnP Token.isSemicolon).dropLast.filterMap tokenStatement? := by
  intro hall
  have hlines : ∀ line ∈ ["select E'a''b\\';c';".toList], IsLine line := by decide
  have hcut := hall ["select E'a''b\\';c';".toList]
    (("select ".toList.map .other) ++ [.escapeString 'E' [.char 'a', .doubledQuote, .char 'b',
      .escaped '\'', .char ';', .char 'c'], .other ';']) hlines (by decide) (by decide +kernel)
  rw [← (takeLines_empty hlines).2.1] at hcut
  exact absurd hcut (by decide +kernel)

end StatementBuffer

end SqlShell
