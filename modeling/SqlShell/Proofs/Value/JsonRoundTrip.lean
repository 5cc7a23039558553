import SqlShell.Proofs.Value.JsonReading

/-! # JSON Is Read Back

    A value of which all parts have a form in JSON is read back from its text,
    with its tuples as lists.

    * **`Value.HasJsonForm`** are these values, at any depth of nesting.
    * **`string?_stringText`** and **`number?_integerText`** read the leaves back.
    * **`Value.HasJsonForm.isReadBack`** is the induction over the values. -/

namespace SqlShell

open Text

/-! ## Values with a form in JSON -/

namespace Value

/-- **The values that JSON has a form for**, exactly: missing and truth values, whole
    numbers, texts, and lists, tuples and maps of such values.  The keys of a map
    are unlike texts. -/
inductive HasJsonForm : Value → Prop where
  | null : HasJsonForm .null
  | bool (b : Bool) : HasJsonForm (.bool b)
  | int (n : Int) : HasJsonForm (.int n)
  | text (s : Text) : HasJsonForm (.text s)
  | list {xs : List Value} (h : ∀ x ∈ xs, HasJsonForm x) : HasJsonForm (.list xs)
  | tuple {xs : List Value} (h : ∀ x ∈ xs, HasJsonForm x) : HasJsonForm (.tuple xs)
  | map {entries : List (Value × Value)} (names : List Text) (unlike : names.Nodup)
      (keys : entries.map Prod.fst = names.map Value.text)
      (h : ∀ e ∈ entries, HasJsonForm e.2) : HasJsonForm (.map entries)

/-- The names of the members that the entries of a map become. -/
theorem plain_keys {entries : List (Value × Value)} {names : List Text}
    (keys : entries.map Prod.fst = names.map text) :
    (entries.map fun e => e.1.plain) = names := by
  calc
    entries.map (fun e => e.1.plain) = (entries.map Prod.fst).map plain := by
      rw [List.map_map]
      rfl
    _ = (names.map text).map plain := by rw [keys]
    _ = names := by
      rw [List.map_map]
      exact List.map_id names

mutual

/-- **A value with lists for its tuples.** -/
def untupled : Value → Value
  | .list xs => .list (untupledAll xs)
  | .tuple xs => .list (untupledAll xs)
  | .map entries => .map (untupledEntries entries)
  | v => v

def untupledAll : List Value → List Value
  | [] => []
  | x :: xs => untupled x :: untupledAll xs

def untupledEntries : List (Value × Value) → List (Value × Value)
  | [] => []
  | (k, v) :: r => (k, untupled v) :: untupledEntries r

end

theorem untupledAll_eq_map (xs : List Value) : untupledAll xs = xs.map untupled := by
  induction xs with
  | nil => rfl
  | cons x xs ih => rw [untupledAll, ih, List.map_cons]

theorem untupledEntries_eq_map (entries : List (Value × Value)) :
    untupledEntries entries = entries.map fun e => (e.1, e.2.untupled) := by
  induction entries with
  | nil => rfl
  | cons e entries ih => rw [untupledEntries, ih, List.map_cons]

end Value

/-! ## Texts of values -/

namespace Entries

variable {κ υ : Type} {same : κ → κ → Bool}

/-- A new key is put at the end. -/
theorem insert_of_new {k : κ} (v : υ) {kept : List (κ × υ)}
    (h : ∀ e ∈ kept, same e.1 k = false) : insert same k v kept = kept ++ [(k, v)] := by
  induction kept with
  | nil => rfl
  | cons e kept ih =>
    obtain ⟨he, hkept⟩ := List.forall_mem_cons.1 h
    rw [insert, if_neg (by simp [he]), ih hkept, List.cons_append]

/-- Entries with unlike keys are kept as they are. -/
theorem ofList_of_unlike {entries : List (κ × υ)}
    (h : entries.Pairwise fun e e' => same e.1 e'.1 = false) : ofList same entries = entries := by
  suffices hkept : ∀ kept : List (κ × υ), (∀ e ∈ kept, ∀ e' ∈ entries, same e.1 e'.1 = false) →
      entries.foldl (fun kept e => insert same e.1 e.2 kept) kept = kept ++ entries from
    hkept [] (by simp)
  induction entries with
  | nil => simp
  | cons e entries ih =>
    obtain ⟨he, hentries⟩ := List.pairwise_cons.1 h
    intro kept hkept
    have hnew : ∀ e' ∈ kept, same e'.1 e.1 = false := fun e' he' =>
      hkept e' he' e List.mem_cons_self
    rw [List.foldl_cons, insert_of_new e.2 hnew, ih hentries]
    · simp
    · intro e' he' e'' he''
      rcases List.mem_append.1 he' with he' | he'
      · exact hkept e' he' e'' (List.mem_cons_of_mem _ he'')
      · rw [List.mem_singleton.1 he']
        exact he e'' he''

end Entries

namespace JsonValue

theorem ofValues_eq_map (xs : List Value) : ofValues xs = xs.map ofValue := by
  induction xs with
  | nil => rfl
  | cons x xs ih => rw [ofValues, ih, List.map_cons]

theorem ofEntries_eq_map (entries : List (Value × Value)) :
    ofEntries entries = entries.map fun e => (e.1.plain, ofValue e.2) := by
  induction entries with
  | nil => rfl
  | cons e entries ih => rw [ofEntries, ih, List.map_cons]

theorem renderAll_eq_map (xs : List JsonValue) : renderAll xs = xs.map render := by
  induction xs with
  | nil => rfl
  | cons x xs ih => rw [renderAll, ih, List.map_cons]

/-- The text of a member. -/
def memberText (name value : Text) : Text := stringText name ++ ':' :: ' ' :: value

theorem renderMembers_eq_map (members : List (Text × JsonValue)) :
    renderMembers members = members.map fun m => memberText m.1 m.2.render := by
  induction members with
  | nil => rfl
  | cons m members ih => rw [renderMembers, ih, List.map_cons]; rfl

/-- Members with unlike names are all there. -/
theorem ofMembers_of_unlike {members : List (Text × JsonValue)}
    (h : (members.map Prod.fst).Nodup) : ofMembers members = object members := by
  rw [ofMembers, Entries.ofList_of_unlike]
  rw [List.Nodup, List.pairwise_map] at h
  exact h.imp fun hne => decide_eq_false hne

end JsonValue

namespace Value

/-- The text of a value in JSON. -/
def json (v : Value) : Text := (JsonValue.ofValue v).render

theorem json_list (xs : List Value) :
    (list xs).json = '[' :: joinWith ", ".toList (xs.map json) ++ [']'] := by
  rw [json, JsonValue.ofValue, JsonValue.render, JsonValue.renderAll_eq_map,
    JsonValue.ofValues_eq_map, List.map_map]
  rfl

theorem json_tuple (xs : List Value) : (tuple xs).json = (list xs).json := rfl

theorem json_map {entries : List (Value × Value)} (h : (entries.map fun e => e.1.plain).Nodup) :
    (map entries).json = '\x7b' :: joinWith ", ".toList
      (entries.map fun e => JsonValue.memberText e.1.plain e.2.json) ++ ['\x7d'] := by
  have hnames : ((JsonValue.ofEntries entries).map Prod.fst).Nodup := by
    rwa [JsonValue.ofEntries_eq_map, List.map_map]
  rw [json, JsonValue.ofValue, JsonValue.ofMembers_of_unlike hnames, JsonValue.render,
    JsonValue.renderMembers_eq_map, JsonValue.ofEntries_eq_map, List.map_map]
  rfl

end Value

namespace JsonText

/-! ## Strings -/

/-- A control character is read from its four digits. -/
theorem codeUnit?_hexText {n : Nat} (hn : n < 32) (rest : Text) :
    codeUnit? (hexText 4 n ++ rest) = some (n, rest) := by
  have htext : ∀ n < 32, hexText 4 n = ['0', '0', (n / 16).digitChar, (n % 16).digitChar] := by
    decide
  have hdigits : ∀ n < 32,
      (['0', '0', (n / 16).digitChar, (n % 16).digitChar].mapM Value.hexDigitValue?)
        = some [0, 0, n / 16, n % 16] := by decide
  have hvalue : [0, 0, n / 16, n % 16].foldl (fun n digit => 16 * n + digit) 0 = n := by
    simp only [List.foldl_cons, List.foldl_nil]
    omega
  rw [htext n hn]
  show (([_, _, _, _].mapM Value.hexDigitValue?).bind _) = _
  rw [hdigits n hn, Option.bind_some, hvalue]
  rfl

/-- **A character is written** as it is, or behind a backslash; control characters are
    not written. -/
theorem escapeChar_cases (c : Char) :
    (JsonValue.escapeChar c = [c] ∧ c ≠ '"' ∧ c ≠ '\\' ∧ ¬ c.toNat < 32) ∨
      ∃ t, JsonValue.escapeChar c = '\\' :: t ∧ (∀ s, escape? (t ++ s) = some (c, s)) ∧
        t.all (fun d => 32 ≤ d.toNat) = true := by
  have hcode : ∀ n, c.toNat = n → c = Char.ofNat n := by
    rintro n rfl
    exact (Char.ofNat_toNat c).symm
  unfold JsonValue.escapeChar
  by_cases hquote : c = '"'
  · subst hquote
    exact .inr ⟨['"'], rfl, fun _ => rfl, rfl⟩
  by_cases hbackslash : c = '\\'
  · subst hbackslash
    exact .inr ⟨['\\'], rfl, fun _ => rfl, rfl⟩
  by_cases hfeed : c = '\n'
  · subst hfeed
    exact .inr ⟨['n'], rfl, fun _ => rfl, rfl⟩
  by_cases hreturn : c = '\r'
  · subst hreturn
    exact .inr ⟨['r'], rfl, fun _ => rfl, rfl⟩
  by_cases htab : c = '\t'
  · subst htab
    exact .inr ⟨['t'], rfl, fun _ => rfl, rfl⟩
  by_cases hback : c.toNat = 8
  · obtain rfl := hcode 8 hback
    exact .inr ⟨['b'], rfl, fun _ => rfl, rfl⟩
  by_cases hform : c.toNat = 12
  · obtain rfl := hcode 12 hform
    exact .inr ⟨['f'], rfl, fun _ => rfl, rfl⟩
  rw [if_neg hquote, if_neg hbackslash, if_neg hfeed, if_neg hreturn, if_neg htab, if_neg hback,
    if_neg hform]
  by_cases hcontrol : c.toNat < 32
  · have hhex : ∀ n < 32, ('u' :: hexText 4 n).all (fun d => 32 ≤ d.toNat) = true := by decide
    rw [if_pos hcontrol]
    refine .inr ⟨_, rfl, fun s => ?_, hhex _ hcontrol⟩
    show character? (hexText 4 c.toNat ++ s) = some (c, s)
    rw [character?, codeUnit?_hexText hcontrol]
    show (if 0xd800 ≤ c.toNat ∧ c.toNat < 0xdc00 then _ else
      if 0xdc00 ≤ c.toNat ∧ c.toNat < 0xe000 then none else some (Char.ofNat c.toNat, s)) = _
    rw [if_neg (by omega), if_neg (by omega), Char.ofNat_toNat]
  · rw [if_neg hcontrol]
    exact .inl ⟨rfl, hquote, hbackslash, hcontrol⟩

/-- **A character is read back** from what is written for it. -/
theorem characters?_escapeChar (fuel : Nat) (c : Char) (s : Text) :
    characters? (fuel + 1) (JsonValue.escapeChar c ++ s)
      = (characters? fuel s).map fun r => (c :: r.1, r.2) := by
  rcases escapeChar_cases c with ⟨hc, hquote, hbackslash, hcontrol⟩ | ⟨t, hc, hescape, -⟩
  · rw [hc, List.singleton_append, characters?, if_neg hquote, if_neg hbackslash, if_neg hcontrol]
    cases characters? fuel s <;> rfl
  · rw [hc, List.cons_append, characters?, if_neg (by decide), if_pos rfl, hescape]
    cases hs : characters? fuel s <;> simp [hs]

/-- **A string is read back.** -/
theorem characters?_escaped (s rest : Text) {fuel : Nat} (hfuel : s.length < fuel) :
    characters? fuel (s.flatMap JsonValue.escapeChar ++ '"' :: rest) = some (s, rest) := by
  induction s generalizing fuel with
  | nil =>
    obtain ⟨fuel, rfl⟩ : ∃ k, fuel = k + 1 := Nat.exists_eq_succ_of_ne_zero (Nat.ne_of_gt hfuel)
    rfl
  | cons c s ih =>
    rw [List.length_cons] at hfuel
    obtain ⟨fuel, rfl⟩ : ∃ k, fuel = k + 1 := ⟨fuel - 1, by omega⟩
    rw [List.flatMap_cons, List.append_assoc, characters?_escapeChar, ih (by omega)]
    rfl

/-- What is written for a character is not nothing. -/
theorem length_le_escaped (s : Text) : s.length ≤ (s.flatMap JsonValue.escapeChar).length := by
  induction s with
  | nil => exact Nat.le_refl _
  | cons c s ih =>
    have hc : 1 ≤ (JsonValue.escapeChar c).length := by
      rcases escapeChar_cases c with ⟨hc, -⟩ | ⟨t, hc, -, -⟩ <;> simp [hc]
    rw [List.flatMap_cons, List.length_append, List.length_cons]
    omega

theorem string?_escaped (s rest : Text) :
    string? (s.flatMap JsonValue.escapeChar ++ '"' :: rest) = some (s, rest) := by
  apply characters?_escaped
  have hlength := length_le_escaped s
  rw [List.length_append, List.length_cons]
  omega

/-! ## Numbers -/

/-- What stands behind a number does not go on with it. -/
def EndsNumber (rest : Text) : Prop :=
  ∀ c ∈ rest.head?, c.isDigit = false ∧ c ≠ '.' ∧ c ≠ 'e' ∧ c ≠ 'E'

theorem isDigit_of_mem_decimalText {n : Nat} {c : Char} (h : c ∈ decimalText n) :
    c.isDigit = true := Nat.isDigit_of_mem_toDigits (by decide) (by decide) h

/-- A number begins with a digit. -/
theorem exists_head_decimalText (n : Nat) :
    ∃ c t, decimalText n = c :: t ∧ c.isDigit = true := by
  obtain ⟨c, t, ht⟩ : ∃ c t, decimalText n = c :: t :=
    List.exists_cons_of_ne_nil Nat.toDigits_ne_nil
  exact ⟨c, t, ht, isDigit_of_mem_decimalText (ht ▸ List.mem_cons_self)⟩

/-- Only zero begins with a zero. -/
theorem eq_zero_of_head_decimalText {n : Nat} (h : (decimalText n).head? = some '0') : n = 0 := by
  induction n using Nat.strongRecOn with
  | ind n ih =>
    by_cases hn : n < 10
    · have hfirst : ∀ n < 10, n.digitChar = '0' → n = 0 := by decide
      rw [decimalText, Nat.toDigits_of_lt_base hn] at h
      exact hfirst n hn (Option.some.inj h)
    · -- The first digit is the first one of a tenth of the number.
      have htext : decimalText n = decimalText (n / 10) ++ [(n % 10).digitChar] :=
        Nat.toDigits_of_base_le (by decide) (by omega)
      obtain ⟨c, t, ht, -⟩ := exists_head_decimalText (n / 10)
      have hzero : n / 10 = 0 := by
        apply ih (n / 10) (by omega)
        rw [htext, ht] at h
        rwa [ht]
      omega

theorem digits?_append {digits rest : Text} (hne : digits ≠ [])
    (hdigits : ∀ c ∈ digits, c.isDigit = true) (hrest : EndsNumber rest) :
    digits? (digits ++ rest) = some (digits, rest) := by
  have hnone : rest.takeWhile Char.isDigit = [] ∧ rest.dropWhile Char.isDigit = rest := by
    cases rest with
    | nil => exact ⟨rfl, rfl⟩
    | cons c rest =>
      obtain ⟨hc, -⟩ := hrest c rfl
      simp [hc]
  rw [digits?, List.takeWhile_append_of_pos hdigits, List.dropWhile_append_of_pos hdigits, hnone.1,
    hnone.2, List.append_nil, if_neg hne]

theorem fraction?_of_endsNumber {rest : Text} (h : EndsNumber rest) :
    fraction? rest = some ([], rest) := by
  unfold fraction?
  split
  case h_1 => exact absurd rfl (h '.' rfl).2.1
  case h_2 => rfl

theorem exponent?_of_endsNumber {rest : Text} (h : EndsNumber rest) :
    exponent? rest = some (none, rest) := by
  cases rest with
  | nil => rfl
  | cons c rest =>
    obtain ⟨-, -, hsmall, hcapital⟩ := h c rfl
    rw [exponent?, if_neg (by simp [hsmall, hcapital])]

theorem unsigned?_decimalText (negative : Bool) (n : Nat) {rest : Text} (h : EndsNumber rest) :
    unsigned? negative (decimalText n ++ rest)
      = some (.int (if negative then -n else n), rest) := by
  have hdigits : digits? (decimalText n ++ rest) = some (decimalText n, rest) :=
    digits?_append Nat.toDigits_ne_nil (fun _ => isDigit_of_mem_decimalText) h
  have hzero : ¬ ((decimalText n).head? = some '0' ∧ decimalText n ≠ ['0']) := by
    rintro ⟨hhead, hlong⟩
    rw [eq_zero_of_head_decimalText hhead] at hlong
    exact hlong rfl
  have hvalue : Nat.ofDigitChars 10 (decimalText n) 0 = n := Nat.ofDigitChars_ten_toDigits
  simp only [unsigned?, hdigits, if_neg hzero, fraction?_of_endsNumber h, exponent?_of_endsNumber h,
    hvalue, Option.bind_eq_bind, Option.bind_some, List.append_nil, if_true]

/-- **A whole number is read back.** -/
theorem number?_integerText (n : Int) {rest : Text} (h : EndsNumber rest) :
    number? (integerText n ++ rest) = some (.int n, rest) := by
  cases n with
  | ofNat n =>
    obtain ⟨c, t, ht, hdigit⟩ := exists_head_decimalText n
    have hc : c ≠ '-' := by
      rintro rfl
      cases hdigit
    have hnumber : number? (decimalText n ++ rest) = unsigned? false (decimalText n ++ rest) := by
      rw [ht, List.cons_append]
      unfold number?
      split
      case h_1 heq => exact absurd (List.cons.inj heq).1 hc
      case h_2 => rfl
    exact hnumber.trans (unsigned?_decimalText false n h)
  | negSucc n => exact unsigned?_decimalText true (n + 1) h

/-! ## Elements -/

/-- A sign that stands behind a value. -/
theorem endsNumber_cons {c : Char} (rest : Text)
    (hc : c.isDigit = false ∧ c ≠ '.' ∧ c ≠ 'e' ∧ c ≠ 'E') : EndsNumber (c :: rest) := by
  intro c' hc'
  rwa [← Option.some.inj hc']

/-- A text that does not begin with a space. -/
def Begins (s : Text) : Prop := ∃ c t, s = c :: t ∧ isSpace c = false

theorem Begins.skipSpaces_append {s : Text} (h : Begins s) (rest : Text) :
    skipSpaces (s ++ rest) = s ++ rest := by
  obtain ⟨c, t, rfl, hc⟩ := h
  rw [List.cons_append, skipSpaces, List.dropWhile_cons_of_neg (by simp [hc])]

/-- A text with a comma behind it, and more texts; or the last one. -/
theorem joined_append (text : Text) (texts : List Text) (rest : Text) :
    joinWith ", ".toList (text :: texts) ++ rest = text ++ if texts = [] then rest
      else ',' :: ' ' :: (joinWith ", ".toList texts ++ rest) := by
  cases texts with
  | nil => rfl
  | cons text' texts => simp [joinWith]

theorem length_joined_cons (text : Text) (texts : List Text) :
    (joinWith ", ".toList (text :: texts)).length
      = text.length + if texts = [] then 0 else (joinWith ", ".toList texts).length + 1 + 1 := by
  cases texts with
  | nil => rfl
  | cons text' texts => simp [joinWith]

/-- A text is no longer than all texts together. -/
theorem length_le_joined {texts : List Text} {t : Text} (h : t ∈ texts) :
    t.length ≤ (joinWith ", ".toList texts).length := by
  induction texts with
  | nil => cases h
  | cons text texts ih =>
    rw [length_joined_cons]
    rcases List.mem_cons.1 h with rfl | h
    · exact Nat.le_add_right _ _
    · have hrest := ih h
      rw [if_neg (List.ne_nil_of_mem h)]
      omega

/-- There are no more texts than characters in them, if none is empty. -/
theorem card_le_joined {texts : List Text} (h : ∀ t ∈ texts, Begins t) :
    texts.length ≤ (joinWith ", ".toList texts).length := by
  induction texts with
  | nil => exact Nat.le_refl _
  | cons text texts ih =>
    obtain ⟨⟨c, t, rfl, -⟩, htexts⟩ := List.forall_mem_cons.1 h
    have hrest := ih htexts
    rw [length_joined_cons, List.length_cons, List.length_cons]
    by_cases hne : texts = []
    · rw [if_pos hne, hne, List.length_nil]
      omega
    · rw [if_neg hne]
      omega

section Elements

variable {α β : Type} {element? : Text → Option (β × Text)} {text : α → Text} {result : α → β}
  {close : Char} {xs : List α}

theorem elements?_succ {x : β} {s s' s'' : Text} {more : Bool} (n : Nat)
    (hx : element? s = some (x, s')) (hcomma : comma? close s' = some (more, s'')) :
    elements? element? close (n + 1) s
      = if more then (elements? element? close n s'').map fun r => (x :: r.1, r.2)
        else some ([x], s'') := by
  simp only [elements?, hx, hcomma, Option.bind_eq_bind, Option.bind_some]

/-- **Elements are read back** up to the sign that ends them, if each of them is. -/
theorem elements?_joined (hclose : close = ']' ∨ close = '\x7d') (hne : xs ≠ [])
    (hbegins : ∀ x ∈ xs, Begins (text x))
    (hread : ∀ x ∈ xs, ∀ s rest, skipSpaces s = text x ++ rest → EndsNumber rest →
      element? s = some (result x, rest))
    {n : Nat} (hn : xs.length ≤ n) {s rest : Text}
    (hs : skipSpaces s = joinWith ", ".toList (xs.map text) ++ close :: rest) :
    elements? element? close n s = some (xs.map result, rest) := by
  induction xs generalizing n s with
  | nil => exact absurd rfl hne
  | cons x xs ih =>
    obtain ⟨hx, hxs⟩ := List.forall_mem_cons.1 hread
    obtain ⟨-, hbegins⟩ := List.forall_mem_cons.1 hbegins
    rw [List.length_cons] at hn
    obtain ⟨n, rfl⟩ : ∃ k, n = k + 1 := ⟨n - 1, by omega⟩
    rw [List.map_cons, joined_append] at hs
    -- The last element is followed by the closing sign, and any other one by a comma.
    cases xs with
    | nil =>
      have hcomma : comma? close (close :: rest) = some (false, rest) := by
        rcases hclose with rfl | rfl <;> rfl
      have hends : EndsNumber (close :: rest) := by
        apply endsNumber_cons
        rcases hclose with rfl | rfl <;> decide
      rw [List.map_nil, if_pos rfl] at hs
      rw [elements?_succ n (hx s _ hs hends) hcomma]
      rfl
    | cons y ys =>
      let behind := joinWith ", ".toList ((y :: ys).map text) ++ close :: rest
      have hcomma : comma? close (',' :: ' ' :: behind) = some (true, ' ' :: behind) := rfl
      have hbehind : skipSpaces (' ' :: behind) = behind := by
        show skipSpaces (joinWith ", ".toList ((y :: ys).map text) ++ close :: rest) = behind
        rw [List.map_cons, joined_append, (hbegins y List.mem_cons_self).skipSpaces_append,
          ← joined_append]
        rfl
      rw [if_neg (by simp)] at hs
      rw [elements?_succ n (hx s _ hs (endsNumber_cons _ (by decide))) hcomma, if_pos rfl,
        ih (List.cons_ne_nil _ _) hbegins hxs (by omega) hbehind]
      rfl

/-- **An array or an object** is read back, if each of its elements is. -/
theorem enclosed?_joined (hclose : close = ']' ∨ close = '\x7d')
    (hbegins : ∀ x ∈ xs, Begins (text x) ∧ (text x).head? ≠ some close)
    (hread : ∀ x ∈ xs, ∀ s rest, skipSpaces s = text x ++ rest → EndsNumber rest →
      element? s = some (result x, rest)) (rest : Text) :
    enclosed? element? close (joinWith ", ".toList (xs.map text) ++ close :: rest)
      = some (xs.map result, rest) := by
  by_cases hne : xs = []
  · subst hne
    rcases hclose with rfl | rfl <;> rfl
  · -- The first element does not begin with the closing sign.
    obtain ⟨x, ys, rfl⟩ := List.exists_cons_of_ne_nil hne
    obtain ⟨hx, hhead⟩ := hbegins x List.mem_cons_self
    have hspace : skipSpaces (joinWith ", ".toList ((x :: ys).map text) ++ close :: rest)
        = joinWith ", ".toList ((x :: ys).map text) ++ close :: rest := by
      rw [List.map_cons, joined_append, hx.skipSpaces_append]
    have hopen : (joinWith ", ".toList ((x :: ys).map text) ++ close :: rest).head?
        ≠ some close := by
      obtain ⟨c, t, ht, -⟩ := hx
      rw [List.map_cons, joined_append, ht]
      rwa [ht] at hhead
    have hlength : (x :: ys).length
        ≤ (joinWith ", ".toList ((x :: ys).map text) ++ close :: rest).length := by
      have hall : ∀ t ∈ (x :: ys).map text, Begins t :=
        List.forall_mem_map.2 fun x hx => (hbegins x hx).1
      have hcard := card_le_joined hall
      rw [List.length_map] at hcard
      rw [List.length_append]
      omega
    rw [enclosed?, sign?, hspace, if_neg hopen]
    exact elements?_joined hclose hne (fun x hx => (hbegins x hx).1) hread hlength hspace

end Elements

/-! ## Values -/

/-- **A value is read back** from its text, whatever stands behind it that does not go
    on with a number. -/
structure IsReadBack (v : Value) : Prop where
  begins : Begins v.json
  unclosed : v.json.head? ≠ some ']'
  reads : ∀ fuel s rest, v.json.length ≤ fuel → skipSpaces s = v.json ++ rest →
    EndsNumber rest → value? fuel s = some (v.untupled, rest)

/-- The text behind a word is left. -/
theorem word?_append (word : String) (v : Value) (rest : Text) :
    word? word v (word.toList ++ rest) = some (v, rest) := by
  rw [word?, if_pos (List.prefix_append _ _), List.drop_left]

/-- What is read depends on the characters only, as soon as there is one. -/
theorem IsReadBack.of_value {v : Value} {c : Char} {t : Text} (hv : v.json = c :: t)
    (hc : isSpace c = false) (hclosed : c ≠ ']')
    (hread : ∀ fuel rest, t.length ≤ fuel → EndsNumber rest →
      value? (fuel + 1) (c :: (t ++ rest)) = some (v.untupled, rest)) : IsReadBack v := by
  have hbegins : Begins v.json := ⟨c, t, hv, hc⟩
  refine ⟨hbegins, by simp [hv, hclosed], ?_⟩
  intro fuel s rest hfuel hs hrest
  rw [hv] at hfuel
  obtain ⟨fuel, rfl⟩ : ∃ k, fuel = k + 1 := ⟨fuel - 1, by rw [List.length_cons] at hfuel; omega⟩
  have hspace : skipSpaces s = skipSpaces (c :: (t ++ rest)) := by
    rw [hs, ← List.cons_append, ← hv, hbegins.skipSpaces_append]
  rw [← hread fuel rest (by simpa using hfuel) hrest, value?, value?, hspace]

theorem isReadBack_null : IsReadBack .null := by
  refine .of_value (c := 'n') rfl rfl (by decide) fun fuel rest _ _ => ?_
  exact word?_append "ull" .null rest

theorem isReadBack_bool (b : Bool) : IsReadBack (.bool b) := by
  cases b with
  | true =>
    refine .of_value (c := 't') rfl rfl (by decide) fun fuel rest _ _ => ?_
    exact word?_append "rue" (.bool true) rest
  | false =>
    refine .of_value (c := 'f') rfl rfl (by decide) fun fuel rest _ _ => ?_
    exact word?_append "alse" (.bool false) rest

theorem isReadBack_text (cs : Text) : IsReadBack (.text cs) := by
  refine .of_value (c := '"') rfl rfl (by decide) fun fuel rest _ _ => ?_
  show (string? (cs.flatMap JsonValue.escapeChar ++ ['"'] ++ rest)).map _ = _
  rw [List.append_assoc, List.singleton_append, string?_escaped]
  rfl

theorem isReadBack_int (n : Int) : IsReadBack (.int n) := by
  obtain ⟨c, t, hct, hc⟩ : ∃ c t, integerText n = c :: t ∧ (c = '-' ∨ c.isDigit = true) := by
    cases n with
    | ofNat n =>
      obtain ⟨c, t, hct, hdigit⟩ := exists_head_decimalText n
      exact ⟨c, t, hct, .inr hdigit⟩
    | negSucc n => exact ⟨'-', _, rfl, .inl rfl⟩
  -- The first character is none of the signs of the grammar, and no space.
  have hother : ∀ c' : Char, c'.isDigit = false → c' ≠ '-' → c ≠ c' := by
    rintro _ hdigit hminus rfl
    rcases hc with hc | hc
    · exact hminus hc
    · rw [hdigit] at hc
      cases hc
  have hspace : isSpace c = false := by
    simp [isSpace, hother ' ', hother '\t', hother '\n', hother '\r']
  refine .of_value hct hspace (hother ']' rfl (by decide)) fun fuel rest _ hrest => ?_
  have hskip : skipSpaces (c :: (t ++ rest)) = c :: (t ++ rest) :=
    Begins.skipSpaces_append ⟨c, t, rfl, hspace⟩ rest
  rw [value?, hskip]
  dsimp only
  rw [if_pos hc, ← List.cons_append, ← hct]
  exact number?_integerText n hrest

/-- **A list is read back**, if its elements are. -/
theorem isReadBack_list {xs : List Value} (h : ∀ x ∈ xs, IsReadBack x) :
    IsReadBack (.list xs) := by
  refine .of_value (c := '[') (t := joinWith ", ".toList (xs.map Value.json) ++ [']'])
    (Value.json_list xs) rfl (by decide) fun fuel rest hfuel _ => ?_
  have hread : ∀ x ∈ xs, ∀ s rest, skipSpaces s = x.json ++ rest → EndsNumber rest →
      value? fuel s = some (x.untupled, rest) := by
    -- An element is shorter than the list, and so is the depth to which it nests.
    intro x hx s rest hs hrest
    have hlength := length_le_joined (List.mem_map_of_mem (f := Value.json) hx)
    refine (h x hx).reads fuel s rest ?_ hs hrest
    rw [List.length_append] at hfuel
    omega
  have helements := enclosed?_joined (.inl rfl) (fun x hx => ⟨(h x hx).begins, (h x hx).unclosed⟩)
    hread rest
  rw [List.append_assoc, List.singleton_append]
  show (enclosed? (value? fuel) ']' _).map _ = _
  rw [helements, Value.untupled, Value.untupledAll_eq_map]
  rfl

theorem isReadBack_tuple {xs : List Value} (h : ∀ x ∈ xs, IsReadBack x) :
    IsReadBack (.tuple xs) := by
  -- A tuple has the text of a list, and is read as one.
  obtain ⟨hbegins, hunclosed, hreads⟩ := isReadBack_list h
  exact ⟨hbegins, hunclosed, hreads⟩

/-- An entry with a text for its key, of which the value is read back. -/
structure IsMember (e : Value × Value) : Prop where
  key : .text e.1.plain = e.1
  value : IsReadBack e.2

/-- **A member is read back.** -/
theorem member?_memberText {e : Value × Value} (he : IsMember e) {fuel : Nat} {s rest : Text}
    (hfuel : e.2.json.length ≤ fuel)
    (hs : skipSpaces s = JsonValue.memberText e.1.plain e.2.json ++ rest)
    (hrest : EndsNumber rest) :
    member? (value? fuel) s = some ((e.1, e.2.untupled), rest) := by
  have htext : JsonValue.memberText e.1.plain e.2.json ++ rest
      = '"' :: (e.1.plain.flatMap JsonValue.escapeChar ++ '"' :: ':' :: ' ' ::
          (e.2.json ++ rest)) := by
    simp [JsonValue.memberText, JsonValue.stringText]
  have hname : name? s = some (e.1.plain, ' ' :: (e.2.json ++ rest)) := by
    have hquote : sign? '"' s = some (e.1.plain.flatMap JsonValue.escapeChar
        ++ '"' :: ':' :: ' ' :: (e.2.json ++ rest)) := by
      rw [sign?, hs, htext]
      rfl
    have hcolon : sign? ':' (':' :: ' ' :: (e.2.json ++ rest)) = some (' ' :: (e.2.json ++ rest)) :=
      rfl
    simp only [name?, hquote, string?_escaped, hcolon, Option.bind_eq_bind, Option.bind_some]
  have hvalue : value? fuel (' ' :: (e.2.json ++ rest)) = some (e.2.untupled, rest) :=
    he.value.reads fuel _ rest hfuel (he.value.begins.skipSpaces_append rest) hrest
  simp only [member?, hname, hvalue, he.key, Option.bind_eq_bind, Option.bind_some]

/-- **A map is read back**, if its members are, and their names are unlike. -/
theorem isReadBack_map {entries : List (Value × Value)}
    (hunlike : (entries.map fun e => e.1.plain).Nodup) (h : ∀ e ∈ entries, IsMember e) :
    IsReadBack (.map entries) := by
  let texts := entries.map fun e => JsonValue.memberText e.1.plain e.2.json
  refine .of_value (c := '\x7b') (t := joinWith ", ".toList texts ++ ['\x7d'])
    (Value.json_map hunlike) rfl (by decide) fun fuel rest hfuel _ => ?_
  have hread : ∀ e ∈ entries, ∀ s rest,
      skipSpaces s = JsonValue.memberText e.1.plain e.2.json ++ rest → EndsNumber rest →
        member? (value? fuel) s = some ((e.1, e.2.untupled), rest) := by
    intro e he s rest hs hrest
    have hmem : JsonValue.memberText e.1.plain e.2.json ∈ texts := List.mem_map.2 ⟨e, he, rfl⟩
    have hlength := length_le_joined hmem
    refine member?_memberText (h e he) ?_ hs hrest
    rw [List.length_append] at hfuel
    rw [JsonValue.memberText, List.length_append, List.length_cons, List.length_cons] at hlength
    omega
  have hbegins : ∀ e ∈ entries, Begins (JsonValue.memberText e.1.plain e.2.json) ∧
      (JsonValue.memberText e.1.plain e.2.json).head? ≠ some '\x7d' :=
    fun e _ => ⟨⟨'"', _, rfl, rfl⟩, fun h => nomatch Option.some.inj h⟩
  have hmembers := enclosed?_joined (.inr rfl) hbegins hread rest
  rw [List.append_assoc, List.singleton_append]
  show (enclosed? (member? (value? fuel)) '\x7d' _).map _ = _
  rw [hmembers, Value.untupled, Value.untupledEntries_eq_map]
  rfl

/-- **All values with a form in JSON are read back**, at any depth of nesting. -/
theorem isReadBack_of_hasJsonForm {v : Value} (h : v.HasJsonForm) : IsReadBack v := by
  induction h with
  | null => exact isReadBack_null
  | bool b => exact isReadBack_bool b
  | int n => exact isReadBack_int n
  | text s => exact isReadBack_text s
  | list _ ih => exact isReadBack_list ih
  | tuple _ ih => exact isReadBack_tuple ih
  | @map entries names unlike keys _ ih =>
    refine isReadBack_map (by rwa [Value.plain_keys keys]) fun e he => ⟨?_, ih e he⟩
    have hkey : e.1 ∈ names.map Value.text := keys ▸ List.mem_map_of_mem he
    obtain ⟨name, -, hname⟩ := List.mem_map.1 hkey
    rw [← hname]
    rfl

/-- **A JSON text is read back**, with a line feed behind it. -/
theorem document?_json {v : Value} (h : v.HasJsonForm) :
    document? (v.json ++ ['\n']) = some v.untupled := by
  obtain ⟨hbegins, -, hreads⟩ := isReadBack_of_hasJsonForm h
  have hread : value? (v.json ++ ['\n']).length (v.json ++ ['\n']) = some (v.untupled, ['\n']) := by
    apply hreads
    · rw [List.length_append]
      omega
    · exact hbegins.skipSpaces_append _
    · exact endsNumber_cons [] (by decide)
  simp only [document?, hread, Option.bind_eq_bind, Option.bind_some]
  rfl

end JsonText

end SqlShell
