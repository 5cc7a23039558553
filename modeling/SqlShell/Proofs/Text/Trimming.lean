import SqlShell.Text.Alphanumeric
import SqlShell.Text.Blank
import Mathlib.Data.List.DropRight

/-! # Trimming

    A text that is trimmed has no blank at either end; trimming gives it back
    out of any blanks around it. -/

namespace SqlShell.Text

/-- A list falls into what has a property at its start, what has it at its end,
    and what is left between the two. -/
theorem exists_inner {α : Type} (p : α → Bool) (l : List α) :
    ∃ a m b, l = a ++ (m ++ b) ∧ (∀ x ∈ a, p x = true) ∧ (∀ x ∈ b, p x = true) ∧
      (∀ x ∈ m.head?, p x = false) ∧ (∀ x ∈ m.getLast?, p x = false) := by
  refine ⟨l.takeWhile p, (l.dropWhile p).rdropWhile p, (l.dropWhile p).rtakeWhile p, ?_,
    fun x hx => List.mem_takeWhile_imp hx, fun x hx => List.mem_rtakeWhile_imp hx, ?_, ?_⟩
  · rw [List.rdropWhile_append_rtakeWhile, List.takeWhile_append_dropWhile]
  · intro x hx
    have hdrop : (l.dropWhile p).head? = some x := by
      obtain ⟨t, ht⟩ := List.rdropWhile_prefix p (l.dropWhile p)
      rw [← ht, List.head?_append, hx]
      rfl
    simpa [hdrop] using List.head?_dropWhile_not p l
  · intro x hx
    obtain ⟨hne, rfl⟩ := List.mem_getLast?_eq_getLast hx
    simpa using List.rdropWhile_last_not p (l.dropWhile p) hne

/-- There is no blank at either end. -/
structure IsTrimmed (s : Text) : Prop where
  head : ∀ c ∈ s.head?, isBlank c = false
  last : ∀ c ∈ s.getLast?, isBlank c = false

theorem trimStart_append {a s : Text} (ha : allBlank a = true)
    (hs : ∀ c ∈ s.head?, isBlank c = false) : trimStart (a ++ s) = s := by
  unfold trimStart
  rw [List.dropWhile_append_of_pos (List.all_eq_true.1 ha)]
  cases s with
  | nil => rfl
  | cons c s => rw [List.dropWhile_cons_of_neg (by simp [hs c rfl])]

theorem trimEnd_append {s b : Text} (hb : allBlank b = true)
    (hs : ∀ c ∈ s.getLast?, isBlank c = false) : trimEnd (s ++ b) = s := by
  have hrev : trimStart (b.reverse ++ s.reverse) = s.reverse := by
    apply trimStart_append
    · rwa [allBlank, List.all_reverse]
    · simpa using hs
  unfold trimEnd dropEndWhile
  unfold trimStart at hrev
  rw [List.reverse_append, hrev, List.reverse_reverse]

/-- **Trimming takes the blanks around a text away**, and nothing else. -/
theorem trim_append {a s b : Text} (ha : allBlank a = true) (hs : s.IsTrimmed) (hne : s ≠ [])
    (hb : allBlank b = true) : trim (a ++ (s ++ b)) = s := by
  have hhead : ∀ c ∈ (s ++ b).head?, isBlank c = false := by
    rw [List.head?_append_of_ne_nil s hne]
    exact hs.head
  rw [trim, trimStart_append ha hhead, trimEnd_append hb hs.last]

theorem IsTrimmed.trim_eq {s : Text} (hs : s.IsTrimmed) (hne : s ≠ []) : trim s = s := by
  simpa using trim_append (a := []) (b := []) rfl hs hne rfl

/-- Blanks behind a text are trimmed away with the others. -/
theorem trim_append_blank (s : Text) {b : Text} (hb : allBlank b = true) :
    trim (s ++ b) = trim s := by
  obtain ⟨a, m, e, rfl, ha, he, hhead, hlast⟩ := exists_inner isBlank s
  have ha : allBlank a = true := List.all_eq_true.2 ha
  have he : allBlank e = true := List.all_eq_true.2 he
  have heb : allBlank (e ++ b) = true := by
    rw [allBlank, List.all_append, Bool.and_eq_true]
    exact ⟨he, hb⟩
  by_cases hm : m = []
  · subst hm
    have hall {x : Text} (hx : allBlank x = true) : trim x = [] := by
      have hx := trimStart_append (s := []) hx (by simp)
      rw [List.append_nil] at hx
      rw [trim, hx]
      rfl
    rw [List.nil_append, List.append_assoc, hall, hall] <;>
      · rw [allBlank, List.all_append, Bool.and_eq_true]
        exact ⟨ha, ‹_›⟩
  · rw [List.append_assoc, List.append_assoc, trim_append ha ⟨hhead, hlast⟩ hm heb,
      trim_append ha ⟨hhead, hlast⟩ hm he]

theorem dropEndWhile_cons {p : Char → Bool} {c : Char} (hc : p c = false) (s : Text) :
    dropEndWhile p (c :: s) = c :: dropEndWhile p s := by
  unfold dropEndWhile
  rw [List.reverse_cons, List.dropWhile_append]
  split
  case isTrue h => simp [List.isEmpty_iff.1 h, hc]
  case isFalse => simp

/-! ## Ends of texts -/

section DropEndWhile

variable {p q : Char → Bool} (s : Text) {t : Text}

theorem dropEndWhile_append_of_forall (ht : ∀ c ∈ t, p c = true) :
    dropEndWhile p (s ++ t) = dropEndWhile p s := by
  have hrev : ∀ c ∈ t.reverse, p c = true := by
    intro c hc
    exact ht c (List.mem_reverse.1 hc)
  rw [dropEndWhile, List.reverse_append, List.dropWhile_append_of_pos hrev, dropEndWhile]

theorem dropEndWhile_append_of_exists (ht : ∃ c ∈ t, p c = false) :
    dropEndWhile p (s ++ t) = s ++ dropEndWhile p t := by
  obtain ⟨c, hc, hpc⟩ := ht
  have hne : (t.reverse.dropWhile p).isEmpty = false := by
    rw [List.isEmpty_eq_false_iff]
    intro hnil
    have hall := List.dropWhile_eq_nil_iff.1 hnil c (List.mem_reverse.2 hc)
    rw [hpc] at hall
    cases hall
  rw [dropEndWhile, List.reverse_append, List.dropWhile_append, hne]
  simp [dropEndWhile]

/-- What is dropped first would be dropped anyway. -/
theorem dropEndWhile_dropEndWhile (h : ∀ c, q c = true → p c = true) :
    dropEndWhile p (dropEndWhile q s) = dropEndWhile p s := by
  have hdrop : ∀ l : Text, (l.dropWhile q).dropWhile p = l.dropWhile p := by
    intro l
    induction l with
    | nil => rfl
    | cons c l ih =>
      by_cases hc : q c = true
      · rw [List.dropWhile_cons_of_pos hc, List.dropWhile_cons_of_pos (h c hc), ih]
      · rw [List.dropWhile_cons_of_neg hc]
  rw [dropEndWhile, dropEndWhile, List.reverse_reverse, hdrop, dropEndWhile]

end DropEndWhile

/-- What is left of a text that is not blank begins with no blank. -/
theorem exists_trimStart {s : Text} (h : allBlank s = false) :
    ∃ c t, trimStart s = c :: t ∧ isBlank c = false := by
  cases htrim : trimStart s with
  | nil =>
    have hall : allBlank s = true := List.all_eq_true.2 (List.dropWhile_eq_nil_iff.1 htrim)
    rw [hall] at h
    cases h
  | cons c t =>
    have hhead := List.head?_dropWhile_not isBlank s
    unfold trimStart at htrim
    rw [htrim] at hhead
    exact ⟨c, t, rfl, by simpa using hhead⟩

theorem trimStart_append_of_not_blank {s : Text} (h : allBlank s = false) (t : Text) :
    trimStart (s ++ t) = trimStart s ++ t := by
  obtain ⟨c, r, htrim, -⟩ := exists_trimStart h
  unfold trimStart at htrim ⊢
  rw [List.dropWhile_append, htrim]
  rfl

theorem trimStart_trimStart_append {s : Text} (h : allBlank s = false) (t : Text) :
    trimStart (trimStart s ++ t) = trimStart s ++ t := by
  obtain ⟨c, r, htrim, hc⟩ := exists_trimStart h
  rw [htrim]
  exact List.dropWhile_cons_of_neg (by simp [hc])

theorem trim_trim (s : Text) : trim (trim s) = trim s := by
  obtain ⟨a, m, b, rfl, ha, hb, hhead, hlast⟩ := exists_inner isBlank s
  have ha : allBlank a = true := List.all_eq_true.2 ha
  have hb : allBlank b = true := List.all_eq_true.2 hb
  by_cases hm : m = []
  · subst hm
    have htrim : trim (a ++ ([] ++ b)) = [] := by
      have hab : allBlank (a ++ b) = true := by
        rw [allBlank, List.all_append, Bool.and_eq_true]
        exact ⟨ha, hb⟩
      have hblank := trim_append_blank [] hab
      exact hblank
    rw [htrim]
    rfl
  · have hm' : IsTrimmed m := ⟨hhead, hlast⟩
    rw [trim_append ha hm' hm hb, hm'.trim_eq hm]

/-! ## Blanks and words -/

/-- The code points of the blanks. -/
def blankCodes : List Nat :=
  List.range' 9 5 ++ List.range' 28 5 ++ [0x85, 0xA0, 0x1680] ++ List.range' 0x2000 11
    ++ [0x2028, 0x2029, 0x202F, 0x205F, 0x3000]

theorem mem_blankCodes {c : Char} (hc : isBlank c = true) : c.toNat ∈ blankCodes := by
  simp only [isBlank, Bool.or_eq_true, Bool.and_eq_true, decide_eq_true_eq, beq_iff_eq] at hc
  simp only [blankCodes, List.mem_append, List.mem_range'_1, List.mem_cons, List.not_mem_nil]
  omega

/-- A blank is no part of a word. -/
theorem isAlphanumeric_of_isBlank {c : Char} (hc : isBlank c = true) :
    isAlphanumeric c = false ∧ c ≠ '_' := by
  have hall : ∀ n ∈ blankCodes, isAlphanumeric (Char.ofNat n) = false ∧ Char.ofNat n ≠ '_' := by
    decide +kernel
  simpa using hall c.toNat (mem_blankCodes hc)

end SqlShell.Text
