import SqlShell.Proofs.Text.Trimming
import SqlShell.Proofs.Value.JsonGrammar
import SqlShell.Proofs.Value.JsonRoundTrip

/-! # Printing Within the Grammar

    The text of a JSON value belongs to the grammar **if and only if no number in
    it is undefined or infinite**.

    * **`shortestDigits_ne_zero`**: what is printed for a number that is not zero
      has a digit that is not zero.
    * **`isMagnitude_finiteText`** covers all layouts of such digits.
    * **`isValue_render`** and **`after?_render`** are the inductions over the
      values, and **`isDocument_render_iff`** is the result. -/

namespace SqlShell

open Text

/-! ## Shortest digits -/

theorem scaledQuotient_fst_pos {base num : Nat} (hbase : 0 < base) (hnum : 0 < num) (den : Nat)
    (e : Int) : 0 < (scaledQuotient base num den e).1 := by
  cases e with
  | ofNat n => exact Nat.mul_pos hnum (Nat.pow_pos hbase)
  | negSucc n => exact hnum

theorem scaledQuotient_snd_pos {base den : Nat} (hbase : 0 < base) (num : Nat) (hden : 0 < den)
    (e : Int) : 0 < (scaledQuotient base num den e).2 := by
  cases e with
  | ofNat n => exact hden
  | negSucc n => exact Nat.mul_pos hden (Nat.pow_pos hbase)

theorem scaledQuotient_zero (base den : Nat) (e : Int) : (scaledQuotient base 0 den e).1 = 0 := by
  cases e with
  | ofNat n => exact Nat.zero_mul _
  | negSucc n => rfl

theorem div_le_roundQuotient (num den : Nat) : num / den ≤ roundQuotient num den := by
  unfold roundQuotient
  dsimp only
  split_ifs <;> omega

namespace Binary64

variable {mantissa : Nat}

/-- **Zero reads as no other number**: it lies below the point halfway to the number
    below. -/
theorem readsAs_zero {den : Nat} (hmantissa : 0 < mantissa) (exponent : Int) (hden : 0 < den) :
    readsAs mantissa exponent 0 den = false := by
  let below := if mantissa = Nat.pow 2 52 ∧ minExponent < exponent then 1 else 2
  have hbelow : below ≤ 2 := by
    unfold below
    split_ifs <;> decide
  have hlow : 0 < (scaledQuotient 2 (4 * mantissa - below) 1 (exponent - 2)).1 * den :=
    Nat.mul_pos (scaledQuotient_fst_pos (by decide) (by omega) _ _) hden
  unfold readsAs
  dsimp only
  rw [Nat.zero_mul, Nat.zero_mul, decide_eq_false (Nat.not_le.2 hlow),
    decide_eq_false (Nat.not_lt_zero _), Bool.false_and, Bool.false_and, ite_self]

theorem nearestOnGrid?_ne_zero {digits : Nat} {exponent place : Int} (hmantissa : 0 < mantissa)
    (h : nearestOnGrid? mantissa exponent place = some digits) : digits ≠ 0 := by
  have hreads : ∀ k, readsAs mantissa exponent (scaledQuotient 10 k 1 place).1
      (scaledQuotient 10 k 1 place).2 = true → k ≠ 0 := by
    intro k hk hzero
    rw [hzero, scaledQuotient_zero, readsAs_zero hmantissa exponent
      (scaledQuotient_snd_pos (by decide) _ (by decide) _)] at hk
    cases hk
  unfold nearestOnGrid? at h
  dsimp only at h
  -- The multiple below the number reads as it, or only the one above does.
  split_ifs at h with hboth hfloor hnext
  · rw [← Option.some.inj h]
    have hpos := Nat.pos_of_ne_zero (hreads _ (Bool.and_eq_true_iff.1 hboth).1)
    exact Nat.ne_of_gt (Nat.lt_of_lt_of_le hpos (div_le_roundQuotient _ _))
  · rw [← Option.some.inj h]
    exact hreads _ hfloor
  · rw [← Option.some.inj h]
    exact Nat.succ_ne_zero _

theorem firstGrid_ne_zero (hmantissa : 0 < mantissa) (exponent magnitude : Int) (count fuel : Nat) :
    (firstGrid mantissa exponent magnitude count fuel).1 ≠ 0 := by
  induction fuel generalizing count with
  | zero => exact Nat.ne_of_gt hmantissa
  | succ fuel ih =>
    rw [firstGrid]
    cases hgrid : nearestOnGrid? mantissa exponent (magnitude - count + 1) with
    | some digits => exact nearestOnGrid?_ne_zero hmantissa hgrid
    | none => exact ih (count + 1)

/-- **The digits of a number are not zero**, unless the number is. -/
theorem shortestDigits_ne_zero (hmantissa : 0 < mantissa) (exponent : Int) :
    (shortestDigits mantissa exponent).1 ≠ 0 := firstGrid_ne_zero hmantissa _ _ _ _

/-- The number is neither undefined nor infinite. -/
def isFinite : Binary64 → Bool
  | .finite .. => true
  | _ => false

end Binary64

namespace JsonText

/-! ## Numbers -/

theorem areDigits_decimalText (n : Nat) : AreDigits (decimalText n) :=
  fun _ => isDigit_of_mem_decimalText

theorem areDigits_replicate (n : Nat) : AreDigits (List.replicate n '0') := by
  intro c hc
  rw [List.eq_of_mem_replicate hc]
  rfl

theorem AreDigits.append {s t : Text} (hs : AreDigits s) (ht : AreDigits t) : AreDigits (s ++ t) :=
  List.forall_mem_append.2 ⟨hs, ht⟩

/-- The digits of a number without zeros in front. -/
theorem exists_head_of_ne_zero {n : Nat} (hn : n ≠ 0) :
    ∃ c t, decimalText n = c :: t ∧ c.isDigit = true ∧ c ≠ '0' ∧ AreDigits t := by
  obtain ⟨c, t, hct, hc⟩ := exists_head_decimalText n
  have hall := areDigits_decimalText n
  rw [hct] at hall
  refine ⟨c, t, hct, hc, ?_, (List.forall_mem_cons.1 hall).2⟩
  intro hzero
  apply hn
  apply eq_zero_of_head_decimalText
  rw [hct, hzero]
  rfl

theorem isWhole_decimalText (n : Nat) : IsWhole (decimalText n) := by
  by_cases hn : n = 0
  · subst hn
    exact .zero
  · obtain ⟨c, t, hct, hc, hzero, ht⟩ := exists_head_of_ne_zero hn
    rw [hct]
    exact .digits hc hzero ht

/-- A number without an exponent. -/
theorem isMagnitude_append {whole fraction : Text} (hwhole : IsWhole whole)
    (hfraction : IsFraction fraction) : IsMagnitude (whole ++ fraction) := by
  have hparts := IsMagnitude.parts hwhole hfraction .none
  rwa [List.append_nil] at hparts

theorem isMagnitude_decimalText (n : Nat) : IsMagnitude (decimalText n) := by
  have hparts := isMagnitude_append (isWhole_decimalText n) .none
  rwa [List.append_nil] at hparts

/-- **A whole number is printed as a number of the grammar.** -/
theorem isNumber_integerText (n : Int) : IsNumber (integerText n) := by
  cases n with
  | ofNat n => exact .positive (isMagnitude_decimalText n)
  | negSucc n => exact .negative (isMagnitude_decimalText (n + 1))

/-- The digits of a number without zeros at its end. -/
theorem exists_head_dropZeros {n : Nat} (hn : n ≠ 0) :
    ∃ c t, Binary64.dropZeros (decimalText n) = c :: t ∧ c.isDigit = true ∧ c ≠ '0' ∧
      AreDigits t := by
  obtain ⟨c, t, hct, hc, hzero, ht⟩ := exists_head_of_ne_zero hn
  refine ⟨c, dropEndWhile (· = '0') t, ?_, hc, hzero, ?_⟩
  · rw [Binary64.dropZeros, hct, dropEndWhile_cons (decide_eq_false hzero)]
  · intro d hd
    rw [dropEndWhile, List.mem_reverse] at hd
    exact ht d (List.mem_reverse.1 ((List.dropWhile_suffix _).subset hd))

section Layout

variable {l : Binary64.FloatLayout} {c : Char} {t : Text}

/-- The exponent of scientific notation. -/
theorem isExponent_paddedText (magnitude : Int) (width n : Nat) :
    IsExponent ('e' :: (if magnitude < 0 then '-' else '+') :: paddedText width n) := by
  have hdigits : AreDigits (paddedText width n) :=
    (areDigits_replicate _).append (areDigits_decimalText n)
  have hne : paddedText width n ≠ [] := List.append_ne_nil_of_right_ne_nil _ Nat.toDigits_ne_nil
  split_ifs
  · have hminus : IsExponent ('e' :: (['-'] ++ paddedText width n)) :=
      .digits (.inl rfl) (.inr (.inr rfl)) hne hdigits
    exact hminus
  · have hplus : IsExponent ('e' :: (['+'] ++ paddedText width n)) :=
      .digits (.inl rfl) (.inr (.inl rfl)) hne hdigits
    exact hplus

/-- **The text of digits that do not begin with a zero**, in plain and in scientific
    notation. -/
theorem isMagnitude_finiteText (hend : IsFraction l.wholeEnd) (hc : c.isDigit = true)
    (hzero : c ≠ '0') (ht : AreDigits t) (magnitude : Int) :
    IsMagnitude (l.finiteText (c :: t) magnitude) := by
  unfold Binary64.FloatLayout.finiteText
  by_cases hplain : l.plainFrom ≤ magnitude ∧ magnitude < l.plainBelow
  · rw [if_pos hplain]
    by_cases hnegative : magnitude < 0
    · -- Zeros stand between the point and the digits.
      rw [if_pos hnegative]
      let zeros := List.replicate (-magnitude - 1).toNat '0'
      have hdigits : AreDigits (zeros ++ c :: t) :=
        (areDigits_replicate _).append (List.forall_mem_cons.2 ⟨hc, ht⟩)
      have hparts : IsMagnitude (['0'] ++ '.' :: (zeros ++ c :: t)) :=
        isMagnitude_append .zero (.digits (by simp) hdigits)
      exact hparts
    · rw [if_neg hnegative]
      dsimp only
      by_cases hshort : (c :: t).length ≤ magnitude.toNat + 1
      · -- Zeros stand between the digits and the point.
        rw [if_pos hshort]
        have hwhole : IsWhole (padRight (magnitude.toNat + 1) '0' (c :: t)) :=
          .digits hc hzero (ht.append (areDigits_replicate _))
        exact isMagnitude_append hwhole hend
      · -- The point stands among the digits.
        rw [if_neg hshort, List.take_succ_cons, List.drop_succ_cons]
        have hwhole : IsWhole (c :: t.take magnitude.toNat) :=
          .digits hc hzero fun d hd => ht d (List.mem_of_mem_take hd)
        have hne : t.drop magnitude.toNat ≠ [] := by
          rw [List.length_cons] at hshort
          rw [Ne, List.drop_eq_nil_iff]
          omega
        exact isMagnitude_append hwhole (.digits hne fun d hd => ht d (List.mem_of_mem_drop hd))
  · rw [if_neg hplain]
    have hwhole : IsWhole [c] := .digits hc hzero (List.forall_mem_nil _)
    have hexponent := isExponent_paddedText magnitude l.exponentDigits magnitude.natAbs
    cases t with
    | nil => exact .parts hwhole .none hexponent
    | cons d t => exact .parts hwhole (.digits (List.cons_ne_nil _ _) ht) hexponent

end Layout

/-- The text of a finite number, and its sign in front. -/
theorem exists_magnitude (mantissa : Nat) (exponent : Int) :
    ∃ s, IsMagnitude s ∧ ∀ negative, (Binary64.finite negative mantissa exponent).textIn
      JsonValue.numberLayout = (if negative then ['-'] else []) ++ s := by
  have hend : IsFraction JsonValue.numberLayout.wholeEnd :=
    .digits (List.cons_ne_nil '0' []) (areDigits_replicate 1)
  by_cases hmantissa : mantissa = 0
  · have hzero : IsMagnitude (JsonValue.numberLayout.finiteText ['0'] 0) := .parts .zero hend .none
    exact ⟨_, hzero, fun negative => by rw [Binary64.textIn, if_pos hmantissa]⟩
  · obtain ⟨c, t, hct, hc, hzero, ht⟩ := exists_head_dropZeros
      (Binary64.shortestDigits_ne_zero (Nat.pos_of_ne_zero hmantissa) exponent)
    refine ⟨_, ?_, fun negative => by rw [Binary64.textIn, if_neg hmantissa]⟩
    dsimp only
    rw [hct]
    exact isMagnitude_finiteText hend hc hzero ht _

/-- **A finite number is printed as a number of the grammar.** -/
theorem isNumber_finite (negative : Bool) (mantissa : Nat) (exponent : Int) :
    IsNumber ((Binary64.finite negative mantissa exponent).textIn JsonValue.numberLayout) := by
  obtain ⟨s, hs, htext⟩ := exists_magnitude mantissa exponent
  rw [htext]
  cases negative with
  | false => exact .positive hs
  | true => exact .negative hs

/-! ## Strings -/

/-- **What is written for a character** is one character of a string. -/
theorem isCharacter_escapeChar (c : Char) : IsCharacter (JsonValue.escapeChar c) := by
  unfold JsonValue.escapeChar
  split_ifs with hquote hbackslash _ _ _ _ _ hcontrol
  any_goals exact .escaped (by decide)
  · -- The control characters without a letter are written in hexadecimal.
    have hhex : ∀ n < 32, (hexText 4 n).length = 4 ∧ (hexText 4 n).all isHexDigit = true := by
      decide
    exact .coded (hhex _ hcontrol).1 (List.all_eq_true.1 (hhex _ hcontrol).2)
  · exact .itself (Nat.le_of_not_lt hcontrol) hquote hbackslash

theorem isString_stringText (s : Text) : IsString (JsonValue.stringText s) := by
  rw [JsonValue.stringText, List.flatMap_def]
  exact .quoted (List.forall_mem_map.2 fun c _ => isCharacter_escapeChar c)

end JsonText

namespace JsonValue

/-! ## Values -/

mutual

/-- **All numbers in a JSON value are finite**, at any depth. -/
def isFinite : JsonValue → Bool
  | .float x => x.isFinite
  | .array xs => areFinite xs
  | .object members => membersAreFinite members
  | _ => true

def areFinite : List JsonValue → Bool
  | [] => true
  | x :: xs => isFinite x && areFinite xs

def membersAreFinite : List (Text × JsonValue) → Bool
  | [] => true
  | (_, x) :: r => isFinite x && membersAreFinite r

end

theorem areFinite_eq_all (xs : List JsonValue) : areFinite xs = xs.all isFinite := by
  induction xs with
  | nil => rfl
  | cons x xs ih => rw [areFinite, ih, List.all_cons]

theorem membersAreFinite_eq_all (members : List (Text × JsonValue)) :
    membersAreFinite members = members.all fun m => m.2.isFinite := by
  induction members with
  | nil => rfl
  | cons m members ih => rw [membersAreFinite, ih, List.all_cons]

section Induction

variable {P : JsonValue → Prop} (null : P .null) (bool : ∀ b, P (.bool b)) (int : ∀ n, P (.int n))
  (float : ∀ x, P (.float x)) (text : ∀ s, P (.text s))
  (array : ∀ xs, (∀ x ∈ xs, P x) → P (.array xs))
  (object : ∀ members, (∀ m ∈ members, P m.2) → P (.object members))

include null bool int float text array object

/-- **Induction over JSON values**: what holds of the parts holds of the whole. -/
@[elab_as_elim]
theorem nested_induction (v : JsonValue) : P v :=
  v.rec null bool int float text array object (List.forall_mem_nil _)
    (fun _ _ hx hxs => List.forall_mem_cons.2 ⟨hx, hxs⟩) (List.forall_mem_nil _)
    (fun _ _ hm hms => List.forall_mem_cons.2 ⟨hm, hms⟩) fun _ _ h => h

end Induction

end JsonValue

namespace JsonText

open Quotation

/-! ## Values -/

theorem joinWith_cons_cons (separator : Text) (c : Char) (t : Text) (ts : List Text) :
    joinWith separator ((c :: t) :: ts) = c :: joinWith separator (t :: ts) := by
  cases ts <;> rfl

/-- A blank behind each comma is white space in front of an element. -/
theorem joinWith_comma (t : Text) (ts : List Text) :
    joinWith ", ".toList (t :: ts) = joinWith [','] (t :: ts.map (' ' :: ·)) := by
  induction ts generalizing t with
  | nil => rfl
  | cons t' ts ih =>
    show (t ++ ", ".toList) ++ joinWith ", ".toList (t' :: ts)
      = (t ++ [',']) ++ joinWith [','] ((' ' :: t') :: ts.map (' ' :: ·))
    rw [ih, joinWith_cons_cons]
    simp

/-- A text with nothing around it. -/
def Spaced.alone (t : Text) : Spaced := ⟨[], t, [], List.forall_mem_nil _, List.forall_mem_nil _⟩

/-- A text with a blank in front of it. -/
def Spaced.behindBlank (t : Text) : Spaced :=
  ⟨[' '], t, [], List.forall_mem_singleton.2 rfl, List.forall_mem_nil _⟩

theorem isValue_array {texts : List Text} (h : ∀ t ∈ texts, IsValue t) :
    IsValue ('[' :: joinWith ", ".toList texts ++ [']']) := by
  cases texts with
  | nil => exact .emptyArray (List.forall_mem_nil _)
  | cons t ts =>
    obtain ⟨ht, hts⟩ := List.forall_mem_cons.1 h
    have harray : IsValue ('[' :: joinWith [',']
        ((.alone t :: ts.map .behindBlank : List Spaced).map Spaced.whole) ++ [']']) :=
      .array (List.forall_mem_cons.2 ⟨ht, List.forall_mem_map.2 hts⟩)
    rw [joinWith_comma]
    simpa [Spaced.whole, Spaced.alone, Spaced.behindBlank, Function.comp_def] using harray

theorem isValue_object {members : List (Text × Text)} (names : ∀ m ∈ members, IsString m.1)
    (values : ∀ m ∈ members, IsValue m.2) :
    IsValue ('\x7b' :: joinWith ", ".toList (members.map fun m => m.1 ++ ':' :: ' ' :: m.2)
      ++ ['\x7d']) := by
  cases members with
  | nil => exact .emptyObject (List.forall_mem_nil _)
  | cons m ms =>
    obtain ⟨hname, hnames⟩ := List.forall_mem_cons.1 names
    obtain ⟨hvalue, hvalues⟩ := List.forall_mem_cons.1 values
    let first : Member := ⟨.alone m.1, .behindBlank m.2⟩
    let later := ms.map fun m => (⟨.behindBlank m.1, .behindBlank m.2⟩ : Member)
    have hobject : IsValue ('\x7b' :: joinWith [','] ((first :: later).map Member.whole)
        ++ ['\x7d']) :=
      .object (List.forall_mem_cons.2 ⟨hname, List.forall_mem_map.2 hnames⟩)
        (List.forall_mem_cons.2 ⟨hvalue, List.forall_mem_map.2 hvalues⟩)
    rw [List.map_cons, joinWith_comma]
    simpa [first, later, Member.whole, Spaced.whole, Spaced.alone, Spaced.behindBlank,
      Function.comp_def] using hobject

/-- **A value with finite numbers only is printed as a value of the grammar.** -/
theorem isValue_render {v : JsonValue} (h : v.isFinite = true) : IsValue v.render := by
  induction v using JsonValue.nested_induction with
  | null => exact .null
  | bool b =>
    cases b with
    | true => exact .true
    | false => exact .false
  | int n => exact .number (isNumber_integerText n)
  | float x =>
    cases x with
    | undefined | infinite => cases h
    | finite negative mantissa exponent =>
      exact .number (isNumber_finite negative mantissa exponent)
  | text s => exact .string (isString_stringText s)
  | array xs ih =>
    rw [JsonValue.isFinite, JsonValue.areFinite_eq_all, List.all_eq_true] at h
    rw [JsonValue.render, JsonValue.renderAll_eq_map]
    exact isValue_array (List.forall_mem_map.2 fun x hx => ih x hx (h x hx))
  | object members ih =>
    rw [JsonValue.isFinite, JsonValue.membersAreFinite_eq_all, List.all_eq_true] at h
    let texts := members.map fun m => (JsonValue.stringText m.1, m.2.render)
    have htexts : members.map (fun m => JsonValue.memberText m.1 m.2.render)
        = texts.map fun m => m.1 ++ ':' :: ' ' :: m.2 := by
      rw [List.map_map]
      rfl
    rw [JsonValue.render, JsonValue.renderMembers_eq_map, htexts]
    exact isValue_object (List.forall_mem_map.2 fun m _ => isString_stringText m.1)
      (List.forall_mem_map.2 fun m hm => ih m hm (h m hm))

/-- **The other numbers are printed with a capital letter**, and nothing else is outside
    of strings. -/
theorem after?_render (v : JsonValue) : outside.after? v.render = outsideIf v.isFinite := by
  induction v using JsonValue.nested_induction with
  | null => rfl
  | bool b => cases b <;> rfl
  | int n => exact (isNumber_integerText n).after?_eq
  | float x =>
    cases x with
    | undefined => rfl
    | infinite negative => cases negative <;> rfl
    | finite negative mantissa exponent =>
      exact (isNumber_finite negative mantissa exponent).after?_eq
  | text s => exact (isString_stringText s).after?_eq
  | array xs ih =>
    rw [JsonValue.render, JsonValue.renderAll_eq_map, JsonValue.isFinite,
      JsonValue.areFinite_eq_all]
    exact outside_enclosed rfl rfl (outside_joinWith rfl ih)
  | object members ih =>
    rw [JsonValue.render, JsonValue.renderMembers_eq_map, JsonValue.isFinite,
      JsonValue.membersAreFinite_eq_all]
    apply outside_enclosed rfl rfl
    apply outside_joinWith rfl
    intro m hm
    rw [JsonValue.memberText, after?_append_of_some (isString_stringText m.1).after?_eq]
    exact ih m hm

/-- **A JSON value is printed as a JSON text** if and only if all its numbers are finite. -/
theorem isDocument_render_iff (v : JsonValue) :
    IsDocument (v.render ++ ['\n']) ↔ v.isFinite = true := by
  constructor
  · intro h
    have hall : outside.after? (v.render ++ ['\n']) = outsideIf (v.isFinite && true) :=
      outside_append (after?_render v) rfl
    rw [h.after?_eq, Bool.and_true] at hall
    cases hfinite : v.isFinite with
    | true => rfl
    | false =>
      rw [hfinite] at hall
      cases hall
  · intro h
    let line : Spaced :=
      ⟨[], v.render, ['\n'], List.forall_mem_nil _, List.forall_mem_singleton.2 rfl⟩
    exact ⟨line, isValue_render h, rfl⟩

end JsonText

end SqlShell
