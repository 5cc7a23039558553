import SqlShell.Proofs.Text.Trimming
import SqlShell.Text.LetterCase

/-! # Lower Case

    A text in lower case stays as it is, and no blank or semicolon comes into a
    text with it.

    * **`lowerShift_small`**: the small letters of the runs of capitals are in no
      run themselves.
    * **`lowerChar_cases`**: a character is kept, or becomes a small letter.
    * **`lower_lower`**, **`not_isBlank_of_mem_lower`**,
      **`getLast?_lower_ne_semicolon`**: what follows for whole texts. -/

namespace SqlShell.Text

/-! ## Runs of capitals -/

/-- A run of capitals: the first and the last of them, the step, and the distance
    to the small letters. -/
abbrev CapitalRun := Nat × Nat × Nat × Int

namespace CapitalRun

/-- The first small letter that belongs to a run. -/
def lowest : CapitalRun → Nat
  | (first, _, _, shift) => (first + shift).toNat

/-- The last small letter that belongs to a run. -/
def highest : CapitalRun → Nat
  | (_, last, _, shift) => (last + shift).toNat

/-- **The small letters of a run lie apart** from the capitals of another one:
    before them, behind them, or between them, where small letters and capitals
    take turns. -/
def liesApart (run other : CapitalRun) : Bool :=
  Nat.blt run.highest other.1 || (Nat.blt other.2.1 run.lowest ||
    ((run.2.2.1 == 2 || run.lowest == run.highest) &&
      (other.2.2.1 == 2 && (run.lowest + other.1) % 2 == 1)))

end CapitalRun

/-- A character whose code point is shifted is in a run. -/
theorem lowerShift_cases (n : Nat) (runs : List CapitalRun) :
    lowerShift n runs = 0 ∨ ∃ first last step i, ∃ shift : Int,
      (first, last, step, shift) ∈ runs ∧ n = first + step * i ∧ n ≤ last ∧
        lowerShift n runs = shift := by
  induction runs with
  | nil => exact .inl rfl
  | cons run runs ih =>
    obtain ⟨first, last, step, shift⟩ := run
    rw [lowerShift]
    by_cases hlow : n < first
    · exact .inl (if_pos hlow)
    rw [if_neg hlow]
    by_cases hin : n ≤ last ∧ (n - first) % step = 0
    · have hstep := Nat.div_add_mod (n - first) step
      refine .inr ⟨first, last, step, (n - first) / step, shift, List.mem_cons_self, ?_, hin.1,
        if_pos hin⟩
      omega
    · rw [if_neg hin]
      rcases ih with h | ⟨first, last, step, i, shift, hmem, h⟩
      · exact .inl h
      · exact .inr ⟨first, last, step, i, shift, List.mem_cons_of_mem _ hmem, h⟩

theorem liesApart_capitalRuns :
    (capitalRuns.all fun run => capitalRuns.all fun other => CapitalRun.liesApart run other)
      = true := by
  decide +kernel

/-- **No small letter is a capital** of a run. -/
theorem lowerShift_small {first last step i : Nat} {shift : Int}
    (hrun : (first, last, step, shift) ∈ capitalRuns) (hfirst : 0 ≤ first + shift)
    (hlast : first + step * i ≤ last) :
    lowerShift (first + step * i + shift).toNat capitalRuns = 0 := by
  rcases lowerShift_cases (first + step * i + shift).toNat capitalRuns with
    h | ⟨first', last', step', i', shift', hrun', hn, hlast', -⟩
  · exact h
  · have hall := List.all_eq_true.1 (List.all_eq_true.1 liesApart_capitalRuns _ hrun) _ hrun'
    simp only [CapitalRun.liesApart, CapitalRun.lowest, CapitalRun.highest, Bool.or_eq_true,
      Bool.and_eq_true, Nat.blt_eq, beq_iff_eq] at hall
    exfalso
    rcases hall with hbefore | hbehind | ⟨rfl | hone, rfl, hodd⟩
    · omega
    · omega
    · omega
    · -- A run of one small letter is as good as one with a step of two.
      have hzero : step * i = 0 := by omega
      omega

/-! ## Single characters -/

/-- Lower case keeps the character. -/
def IsLower (c : Char) : Prop := lowerChar c = c ∧ c ≠ 'Σ' ∧ c ≠ 'İ'

instance : DecidablePred IsLower := fun _ => inferInstanceAs (Decidable (_ ∧ _))

/-- **A small letter**: lower case keeps it, and it is neither a blank nor a
    semicolon. -/
def IsSmallLetter (c : Char) : Prop := IsLower c ∧ isBlank c = false ∧ c ≠ ';'

instance : DecidablePred IsSmallLetter := fun _ => inferInstanceAs (Decidable (_ ∧ _))

/-- Code points that no capital is shifted to: the blanks and the semicolon, the
    capitals below U+0080, the dotted capital I, and what is no character. -/
def unshiftedTo : CodeSet :=
  [(0, 0x20), (0x3b, 0x3b), (0x41, 0x5a), (0x85, 0x85), (0xa0, 0xa0), (0x130, 0x130),
   (0x1680, 0x1680), (0x2000, 0x200a), (0x2028, 0x2029), (0x202f, 0x202f), (0x205f, 0x205f),
   (0x3000, 0x3000), (0xd800, 0xdfff)]

theorem unshiftedTo_capitalRuns : ∀ run ∈ capitalRuns, 0 ≤ run.1 + run.2.2.2 ∧
    run.2.1 + run.2.2.2 < 0x110000 ∧
      ∀ range ∈ unshiftedTo, run.2.1 + run.2.2.2 < range.1 ∨ range.2 < run.1 + run.2.2.2 := by
  decide +kernel

/-- A character that no capital is shifted away from is a small letter, if a capital
    may be shifted to it. -/
theorem isSmallLetter_of_lowerShift {c : Char}
    (hfree : ∀ range ∈ unshiftedTo, c.toNat < range.1 ∨ range.2 < c.toNat)
    (hshift : lowerShift c.toNat capitalRuns = 0) : IsSmallLetter c := by
  have hne {d : Char} (hd : ∃ range ∈ unshiftedTo, range.1 ≤ d.toNat ∧ d.toNat ≤ range.2) :
      c ≠ d := by
    rintro rfl
    obtain ⟨range, hrange, hd⟩ := hd
    have := hfree range hrange
    omega
  have hkept : lowerChar c = c := by
    unfold lowerChar
    split
    case isTrue hlow =>
      have hall : ∀ n < 128, n < 0x41 ∨ 0x5a < n → (Char.ofNat n).toLower = Char.ofNat n := by
        decide
      simpa using hall c.toNat hlow (hfree (0x41, 0x5a) (by decide))
    case isFalse =>
      rw [hshift]
      simp
  have hsigma : c ≠ 'Σ' := by
    rintro rfl
    exact absurd hshift (by decide)
  refine ⟨⟨hkept, hsigma, hne (by decide)⟩, ?_, hne (by decide)⟩
  -- All blanks are among the code points that no capital is shifted to.
  by_contra hblank
  have hblanks : ∀ n ∈ blankCodes, ∃ range ∈ unshiftedTo, range.1 ≤ n ∧ n ≤ range.2 := by decide
  exact hne (hblanks _ (mem_blankCodes (by simpa using hblank))) rfl

/-- **A character is kept, or becomes a small letter.** -/
theorem lowerChar_cases (c : Char) : lowerChar c = c ∨ IsSmallLetter (lowerChar c) := by
  by_cases hlow : c.toNat < 128
  · have hall : ∀ n < 128, lowerChar (Char.ofNat n) = Char.ofNat n ∨
        IsSmallLetter (lowerChar (Char.ofNat n)) := by decide
    simpa using hall c.toNat hlow
  rw [lowerChar, if_neg hlow]
  rcases lowerShift_cases c.toNat capitalRuns with
    h | ⟨first, last, step, i, shift, hrun, hn, hlast, h⟩
  · left
    rw [h]
    simp
  · right
    obtain ⟨hfirst, hvalid, hfree⟩ := unshiftedTo_capitalRuns _ hrun
    dsimp only at hfirst hvalid hfree
    -- The code point that the capital is shifted to is that of a character.
    have hfree' : ∀ range ∈ unshiftedTo, (c.toNat + shift).toNat < range.1 ∨
        range.2 < (c.toNat + shift).toNat := by
      intro range hrange
      have := hfree range hrange
      omega
    have hchar : (c.toNat + shift).toNat.isValidChar := by
      have hsurrogates := hfree' (0xd800, 0xdfff) (by decide)
      simp only [Nat.isValidChar]
      omega
    obtain ⟨d, hd⟩ : ∃ d : Char, d.toNat = (c.toNat + shift).toNat :=
      ⟨Char.ofNatAux _ hchar, rfl⟩
    rw [h, ← hd, Char.ofNat_toNat]
    apply isSmallLetter_of_lowerShift
    · rw [hd]
      exact hfree'
    · rw [hd, hn]
      exact lowerShift_small hrun hfirst (hn ▸ hlast)

/-! ## Texts -/

/-- What becomes of a character that stands between two texts. -/
def smallForm (before : Text) (c : Char) (after : Text) : Text :=
  if c = 'Σ' then (if casedNext before && !casedNext after then ['ς'] else ['σ'])
  else if c = 'İ' then ['i', '\u0307']
  else [lowerChar c]

theorem lowerAfter_cons (before : Text) (c : Char) (r : Text) :
    lowerAfter before (c :: r) = smallForm before c r ++ lowerAfter (c :: before) r := rfl

theorem smallForm_ne_nil (before : Text) (c : Char) (after : Text) :
    smallForm before c after ≠ [] := by
  unfold smallForm
  split
  · split <;> exact List.cons_ne_nil _ _
  · split <;> exact List.cons_ne_nil _ _

theorem smallForm_of_isLower {c : Char} (hc : IsLower c) (before after : Text) :
    smallForm before c after = [c] := by
  obtain ⟨hkept, hsigma, hdotted⟩ := hc
  rw [smallForm, if_neg hsigma, if_neg hdotted, hkept]

/-- A character becomes small letters, or is kept. -/
theorem mem_smallForm {before after : Text} {c d : Char} (hd : d ∈ smallForm before c after) :
    IsSmallLetter d ∨ d = c ∧ IsLower c := by
  have hsigmas : IsSmallLetter 'ς' ∧ IsSmallLetter 'σ' := by decide
  have hdotless : IsSmallLetter 'i' ∧ IsSmallLetter '\u0307' := by decide
  unfold smallForm at hd
  split at hd
  · split at hd
    · exact .inl (List.mem_singleton.1 hd ▸ hsigmas.1)
    · exact .inl (List.mem_singleton.1 hd ▸ hsigmas.2)
  split at hd
  · rcases List.mem_pair.1 hd with rfl | rfl
    · exact .inl hdotless.1
    · exact .inl hdotless.2
  case isFalse hsigma hdotted =>
    obtain rfl := List.mem_singleton.1 hd
    rcases lowerChar_cases c with hkept | hsmall
    · exact .inr ⟨hkept, hkept, hsigma, hdotted⟩
    · exact .inl hsmall

theorem mem_lowerAfter {before s : Text} {d : Char} (hd : d ∈ lowerAfter before s) :
    IsSmallLetter d ∨ d ∈ s ∧ IsLower d := by
  induction s generalizing before with
  | nil => cases hd
  | cons c s ih =>
    rw [lowerAfter_cons, List.mem_append] at hd
    rcases hd with hd | hd
    · rcases mem_smallForm hd with h | ⟨rfl, h⟩
      · exact .inl h
      · exact .inr ⟨List.mem_cons_self, h⟩
    · exact (ih hd).imp_right fun h => ⟨List.mem_cons_of_mem _ h.1, h.2⟩

/-- What lower case keeps letter by letter it keeps as a whole. -/
theorem lower_eq_self {s : Text} (hs : ∀ c ∈ s, IsLower c) : lower s = s := by
  have hafter : ∀ before : Text, lowerAfter before s = s := by
    induction s with
    | nil => exact fun _ => rfl
    | cons c s ih =>
      intro before
      rw [lowerAfter_cons, smallForm_of_isLower (hs c List.mem_cons_self),
        ih (fun d hd => hs d (List.mem_cons_of_mem _ hd))]
      rfl
  exact hafter []

/-- **A text in lower case stays as it is.** -/
theorem lower_lower (s : Text) : lower (lower s) = lower s := by
  apply lower_eq_self
  intro c hc
  rcases mem_lowerAfter hc with h | h
  · exact h.1
  · exact h.2

/-- **No blank comes into a text** with lower case. -/
theorem not_isBlank_of_mem_lower {s : Text} (hs : ∀ c ∈ s, isBlank c = false) :
    ∀ c ∈ lower s, isBlank c = false := by
  intro c hc
  rcases mem_lowerAfter hc with h | h
  · exact h.2.1
  · exact hs c h.1

theorem lowerAfter_ne_nil (before : Text) {s : Text} (hs : s ≠ []) : lowerAfter before s ≠ [] := by
  obtain ⟨c, s, rfl⟩ := List.exists_cons_of_ne_nil hs
  rw [lowerAfter_cons]
  exact List.append_ne_nil_of_left_ne_nil (smallForm_ne_nil _ _ _) _

/-- **No semicolon comes to the end of a text** with lower case. -/
theorem getLast?_lower_ne_semicolon {s : Text} (hs : s.getLast? ≠ some ';') :
    (lower s).getLast? ≠ some ';' := by
  have hafter : ∀ before : Text, (lowerAfter before s).getLast? ≠ some ';' := by
    induction s with
    | nil => exact fun _ => nofun
    | cons c s ih =>
      intro before hlast
      cases s with
      | nil =>
        have hmem := List.mem_of_getLast? hlast
        rw [lowerAfter_cons, lowerAfter, List.append_nil] at hmem
        rcases mem_smallForm hmem with h | ⟨rfl, -⟩
        · exact h.2.2 rfl
        · exact hs rfl
      | cons d s =>
        rw [lowerAfter_cons,
          List.getLast?_append_of_ne_nil _ (lowerAfter_ne_nil _ (List.cons_ne_nil d s))] at hlast
        exact ih (by simpa using hs) _ hlast
  exact hafter []

/-- Whether a text in lower case begins with a backslash is up to its first letter. -/
theorem head?_lower_append {s : Text} (hs : s ≠ []) (t : Text) :
    (lower (s ++ t)).head? = some '\\' ↔ (lower s).head? = some '\\' := by
  obtain ⟨c, s, rfl⟩ := List.exists_cons_of_ne_nil hs
  unfold lower
  rw [List.cons_append, lowerAfter_cons, lowerAfter_cons,
    List.head?_append_of_ne_nil _ (smallForm_ne_nil _ _ _),
    List.head?_append_of_ne_nil _ (smallForm_ne_nil _ _ _)]
  unfold smallForm
  -- A sigma is the only letter that looks at the text behind it, and it is no backslash.
  by_cases hsigma : c = 'Σ'
  · rw [if_pos hsigma, if_pos hsigma]
    constructor <;> intro h <;> split at h <;> cases h
  · rw [if_neg hsigma, if_neg hsigma]

/-- A semicolon has no case. -/
theorem mem_lower_append (s t : Text) : ';' ∈ lower (s ++ ';' :: t) := by
  have hafter : ∀ before : Text, ';' ∈ lowerAfter before (s ++ ';' :: t) := by
    induction s with
    | nil =>
      intro before
      exact List.mem_cons_self
    | cons c s ih =>
      intro before
      rw [List.cons_append, lowerAfter_cons]
      exact List.mem_append_right _ (ih (c :: before))
  exact hafter []

end SqlShell.Text
