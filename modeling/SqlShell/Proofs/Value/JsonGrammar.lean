import SqlShell.Proofs.Value.JsonReading

/-! # The Grammar of JSON

    The texts of the standard grammar, production by production.

    * **`IsNumber`**, **`IsString`** and **`IsValue`** are its nonterminals, and
      **`IsDocument`** is a whole text.
    * **`Quotation`** tells from left to right which characters stand inside of
      strings.
    * **`IsValue.after?_eq`**: outside of them there is no capital `N` or `I`. -/

namespace SqlShell

open Text

namespace JsonText

/-! ## Numbers -/

/-- Any number of digits. -/
def AreDigits (s : Text) : Prop := ∀ c ∈ s, c.isDigit = true

/-- **The whole part** of a number: a single zero, or digits that do not begin with one. -/
inductive IsWhole : Text → Prop where
  | zero : IsWhole ['0']
  | digits {c : Char} {s : Text} (first : c.isDigit = true) (nonzero : c ≠ '0')
      (rest : AreDigits s) : IsWhole (c :: s)

/-- A point and the digits behind it, or nothing. -/
inductive IsFraction : Text → Prop where
  | none : IsFraction []
  | digits {s : Text} (nonempty : s ≠ []) (all : AreDigits s) : IsFraction ('.' :: s)

/-- A power of ten, or nothing. -/
inductive IsExponent : Text → Prop where
  | none : IsExponent []
  | digits {e : Char} {sign s : Text} (letter : e = 'e' ∨ e = 'E')
      (signed : sign = [] ∨ sign = ['+'] ∨ sign = ['-']) (nonempty : s ≠ []) (all : AreDigits s) :
      IsExponent (e :: (sign ++ s))

/-- A number without a sign. -/
inductive IsMagnitude : Text → Prop where
  | parts {whole fraction exponent : Text} (hwhole : IsWhole whole)
      (hfraction : IsFraction fraction) (hexponent : IsExponent exponent) :
      IsMagnitude (whole ++ (fraction ++ exponent))

/-- **A number.**  There is no sign but the minus. -/
inductive IsNumber : Text → Prop where
  | positive {s : Text} (h : IsMagnitude s) : IsNumber s
  | negative {s : Text} (h : IsMagnitude s) : IsNumber ('-' :: s)

/-! ## Strings -/

/-- A hexadecimal digit, small or capital. -/
def isHexDigit (c : Char) : Bool :=
  c.isDigit ∨ ('a' ≤ c ∧ c ≤ 'f') ∨ ('A' ≤ c ∧ c ≤ 'F')

/-- **One character of a string.**  Any but the quote, the backslash and the control
    characters stands for itself. -/
inductive IsCharacter : Text → Prop where
  | itself {c : Char} (printable : 32 ≤ c.toNat) (unquoted : c ≠ '"') (unescaped : c ≠ '\\') :
      IsCharacter [c]
  | escaped {c : Char} (h : c ∈ "\"\\/bfnrt".toList) : IsCharacter ['\\', c]
  | coded {digits : Text} (four : digits.length = 4) (all : ∀ c ∈ digits, isHexDigit c = true) :
      IsCharacter ('\\' :: 'u' :: digits)

/-- **A string**: characters between two quotes. -/
inductive IsString : Text → Prop where
  | quoted {characters : List Text} (h : ∀ t ∈ characters, IsCharacter t) :
      IsString ('"' :: characters.flatten ++ ['"'])

/-! ## Values -/

/-- A text with white space around it. -/
structure Spaced where
  before : Text
  text : Text
  after : Text
  space_before : ∀ c ∈ before, isSpace c = true
  space_after : ∀ c ∈ after, isSpace c = true

def Spaced.whole (x : Spaced) : Text := x.before ++ (x.text ++ x.after)

/-- A member of an object. -/
structure Member where
  name : Spaced
  value : Spaced

def Member.whole (m : Member) : Text := m.name.whole ++ ':' :: m.value.whole

/-- **A value.** -/
inductive IsValue : Text → Prop where
  | null : IsValue "null".toList
  | true : IsValue "true".toList
  | false : IsValue "false".toList
  | number {s : Text} (h : IsNumber s) : IsValue s
  | string {s : Text} (h : IsString s) : IsValue s
  | emptyArray {s : Text} (space : ∀ c ∈ s, isSpace c = true) : IsValue ('[' :: s ++ [']'])
  | array {xs : List Spaced} (h : ∀ x ∈ xs, IsValue x.text) :
      IsValue ('[' :: joinWith [','] (xs.map Spaced.whole) ++ [']'])
  | emptyObject {s : Text} (space : ∀ c ∈ s, isSpace c = true) :
      IsValue ('\x7b' :: s ++ ['\x7d'])
  | object {ms : List Member} (names : ∀ m ∈ ms, IsString m.name.text)
      (values : ∀ m ∈ ms, IsValue m.value.text) :
      IsValue ('\x7b' :: joinWith [','] (ms.map Member.whole) ++ ['\x7d'])

/-- **A JSON text**: one value, with white space around it. -/
def IsDocument (s : Text) : Prop := ∃ x : Spaced, IsValue x.text ∧ x.whole = s

/-! ## Inside and outside of strings -/

/-- Where a character stands: outside of all strings, inside of one, or in one behind a
    backslash. -/
inductive Quotation where
  | outside
  | inside
  | escaped
deriving DecidableEq

namespace Quotation

/-- Where the next character stands.  Outside of strings a capital `N` or `I`
    is not taken: no word of the grammar has one. -/
def next? : Quotation → Char → Option Quotation
  | outside, c =>
    -- The words of the grammar are small, and the one capital of a number is an `E`.
    if c = '"' then some inside else if c = 'N' ∨ c = 'I' then none else some outside
  | inside, c => if c = '"' then some outside else if c = '\\' then some escaped else some inside
  | escaped, _ => some inside

/-- **Where the character behind a text stands**, if all of it is taken. -/
def after? (q : Quotation) (s : Text) : Option Quotation := s.foldlM next? q

/-- Outside of strings, if all is taken. -/
def outsideIf (taken : Bool) : Option Quotation := if taken then some outside else none

theorem after?_append (q : Quotation) (s t : Text) :
    q.after? (s ++ t) = (q.after? s).bind fun q => q.after? t := List.foldlM_append

theorem after?_append_of_some {q q' : Quotation} {s : Text} (h : q.after? s = some q') (t : Text) :
    q.after? (s ++ t) = q'.after? t := by
  rw [after?_append, h, Option.bind_some]

/-- Texts that each end outside of strings. -/
theorem outside_append {s t : Text} {taken taken' : Bool}
    (hs : outside.after? s = outsideIf taken) (ht : outside.after? t = outsideIf taken') :
    outside.after? (s ++ t) = outsideIf (taken && taken') := by
  rw [after?_append, hs]
  cases taken with
  | false => rfl
  | true => exact ht

theorem outside_joinWith {α : Type} {text : α → Text} {taken : α → Bool} {separator : Text}
    (hseparator : outside.after? separator = some outside) {xs : List α}
    (h : ∀ x ∈ xs, outside.after? (text x) = outsideIf (taken x)) :
    outside.after? (joinWith separator (xs.map text)) = outsideIf (xs.all taken) := by
  induction xs with
  | nil => rfl
  | cons x xs ih =>
    obtain ⟨hx, hxs⟩ := List.forall_mem_cons.1 h
    cases xs with
    | nil => simpa [joinWith] using hx
    | cons y ys =>
      have hfirst : outside.after? (text x ++ separator) = outsideIf (taken x && true) :=
        outside_append hx hseparator
      rw [List.all_cons, ← Bool.and_true (taken x)]
      exact outside_append hfirst (ih hxs)

/-- Texts that are taken, with a text that is taken between two neighbours. -/
theorem outside_joinWith_of_forall {separator : Text} {texts : List Text}
    (hseparator : outside.after? separator = some outside)
    (h : ∀ t ∈ texts, outside.after? t = some outside) :
    outside.after? (joinWith separator texts) = some outside := by
  have hjoined : outside.after? (joinWith separator (texts.map id))
      = outsideIf (texts.all fun _ => true) := outside_joinWith hseparator h
  rwa [List.map_id, List.all_eq_true.2 fun _ _ => rfl] at hjoined

/-- Elements between an opening and a closing sign. -/
theorem outside_enclosed {first last : Char} {s : Text} {taken : Bool}
    (hfirst : outside.next? first = some outside) (hlast : outside.next? last = some outside)
    (hs : outside.after? s = outsideIf taken) :
    outside.after? (first :: s ++ [last]) = outsideIf taken := by
  have hlast : outside.after? [last] = outsideIf true := by
    rw [after?, List.foldlM_cons, hlast]
    rfl
  have hopened : outside.after? (first :: s) = outsideIf taken := by
    rw [after?, List.foldlM_cons, hfirst]
    exact hs
  rw [← Bool.and_true taken]
  exact outside_append hopened hlast

/-- Characters that change nothing. -/
theorem after?_of_forall {q : Quotation} {s : Text} (h : ∀ c ∈ s, q.next? c = some q) :
    q.after? s = some q := by
  induction s with
  | nil => rfl
  | cons c s ih =>
    obtain ⟨hc, hs⟩ := List.forall_mem_cons.1 h
    rw [after?, List.foldlM_cons, hc]
    exact ih hs

end Quotation

open Quotation

/-! ## Texts of the grammar -/

/-- A digit, or one of the signs of a number. -/
def IsFigure (c : Char) : Prop :=
  c.isDigit = true ∨ c = '+' ∨ c = '-' ∨ c = '.' ∨ c = 'e' ∨ c = 'E'

theorem AreDigits.isFigure {s : Text} (h : AreDigits s) : ∀ c ∈ s, IsFigure c :=
  fun c hc => .inl (h c hc)

/-- **The characters of a number** are digits and a few signs. -/
theorem IsNumber.isFigure {s : Text} (h : IsNumber s) : ∀ c ∈ s, IsFigure c := by
  have hmagnitude : ∀ s, IsMagnitude s → ∀ c ∈ s, IsFigure c := by
    intro s h
    obtain ⟨hwhole, hfraction, hexponent⟩ := h
    rw [List.forall_mem_append, List.forall_mem_append]
    refine ⟨?_, ?_, ?_⟩
    · cases hwhole with
      | zero => exact List.forall_mem_singleton.2 (.inl rfl)
      | digits first _ rest => exact List.forall_mem_cons.2 ⟨.inl first, rest.isFigure⟩
    · cases hfraction with
      | none => exact List.forall_mem_nil _
      | digits _ all => exact List.forall_mem_cons.2 ⟨by simp [IsFigure], all.isFigure⟩
    · cases hexponent with
      | none => exact List.forall_mem_nil _
      | digits letter signed _ all =>
        rw [List.forall_mem_cons, List.forall_mem_append]
        refine ⟨?_, ?_, all.isFigure⟩
        · rcases letter with rfl | rfl <;> simp [IsFigure]
        · rcases signed with rfl | rfl | rfl <;> simp [IsFigure]
  cases h with
  | positive h => exact hmagnitude _ h
  | negative h => exact List.forall_mem_cons.2 ⟨by simp [IsFigure], hmagnitude _ h⟩

theorem IsFigure.outside {c : Char} (h : IsFigure c) :
    Quotation.outside.next? c = some .outside := by
  rcases h with hdigit | rfl | rfl | rfl | rfl | rfl
  · have hother (d : Char) (hd : d.isDigit = false) : c ≠ d := by
      apply ne_of_apply_ne Char.isDigit
      rw [hdigit, hd]
      decide
    rw [next?, if_neg (hother '"' rfl), if_neg (not_or.2 ⟨hother 'N' rfl, hother 'I' rfl⟩)]
  all_goals rfl

theorem IsNumber.after?_eq {s : Text} (h : IsNumber s) : outside.after? s = some outside :=
  after?_of_forall fun c hc => (h.isFigure c hc).outside

theorem outside_of_spaces {s : Text} (h : ∀ c ∈ s, isSpace c = true) :
    outside.after? s = some outside := by
  apply after?_of_forall
  intro c hc
  rcases of_decide_eq_true (h c hc) with rfl | rfl | rfl | rfl <;> rfl

/-- A character of a string leaves it open. -/
theorem IsCharacter.after?_eq {s : Text} (h : IsCharacter s) :
    inside.after? s = some inside := by
  cases h with
  | itself _ unquoted unescaped =>
    rw [after?, List.foldlM_cons, next?, if_neg unquoted, if_neg unescaped]
    rfl
  | escaped _ => rfl
  | @coded digits _ all =>
    show inside.after? digits = some inside
    apply after?_of_forall
    intro c hc
    have hother (d : Char) (hd : isHexDigit d = false) : c ≠ d := by
      apply ne_of_apply_ne isHexDigit
      rw [all c hc, hd]
      decide
    rw [next?, if_neg (hother '"' (by decide)), if_neg (hother '\\' (by decide))]

theorem IsString.after?_eq {s : Text} (h : IsString s) : outside.after? s = some outside := by
  obtain @⟨characters, h⟩ := h
  -- Only the last quote is one that stands for itself.
  have hinside : inside.after? characters.flatten = some inside := by
    induction characters with
    | nil => rfl
    | cons t characters ih =>
      obtain ⟨ht, hcharacters⟩ := List.forall_mem_cons.1 h
      rw [List.flatten_cons, after?_append_of_some ht.after?_eq]
      exact ih hcharacters
  show inside.after? (characters.flatten ++ ['"']) = some outside
  rw [after?_append_of_some hinside]
  rfl

theorem Spaced.after?_eq {x : Spaced} (h : outside.after? x.text = some outside) :
    outside.after? x.whole = some outside := by
  rw [whole, after?_append_of_some (outside_of_spaces x.space_before), after?_append_of_some h]
  exact outside_of_spaces x.space_after

theorem outside_enclosed_of_some {first last : Char} {s : Text}
    (hfirst : outside.next? first = some outside) (hlast : outside.next? last = some outside)
    (hs : outside.after? s = some outside) :
    outside.after? (first :: s ++ [last]) = some outside := by
  have htaken : outside.after? s = outsideIf true := hs
  exact outside_enclosed hfirst hlast htaken

/-- **All of a value is taken**: none of its words has a capital letter. -/
theorem IsValue.after?_eq {s : Text} (h : IsValue s) : outside.after? s = some outside := by
  induction h with
  | null => rfl
  | true => rfl
  | false => rfl
  | number h => exact h.after?_eq
  | string h => exact h.after?_eq
  | emptyArray space => exact outside_enclosed_of_some rfl rfl (outside_of_spaces space)
  | array _ ih =>
    apply outside_enclosed_of_some rfl rfl
    apply outside_joinWith_of_forall rfl
    exact List.forall_mem_map.2 fun x hx => Spaced.after?_eq (ih x hx)
  | emptyObject space => exact outside_enclosed_of_some rfl rfl (outside_of_spaces space)
  | object names _ ih =>
    apply outside_enclosed_of_some rfl rfl
    apply outside_joinWith_of_forall rfl
    rw [List.forall_mem_map]
    intro m hm
    rw [Member.whole, after?_append_of_some (Spaced.after?_eq (names m hm).after?_eq)]
    exact Spaced.after?_eq (ih m hm)

theorem IsDocument.after?_eq {s : Text} (h : IsDocument s) : outside.after? s = some outside := by
  obtain ⟨x, hx, rfl⟩ := h
  exact Spaced.after?_eq hx.after?_eq

end JsonText

end SqlShell
