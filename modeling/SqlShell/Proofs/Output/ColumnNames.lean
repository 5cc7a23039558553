import Mathlib.Data.List.Nodup
import Mathlib.Data.List.Perm.Subperm
import Mathlib.Tactic.ByContra
import Mathlib.Tactic.Push
import SqlShell.Output.JsonLines

/-! # Names of Columns

    The members of a JSON object are told apart by their names, and so the names
    of the columns are made unlike each other.

    * **`freshName_spec`** says which name a column gets: its own, or the one with
      the least number that is not taken.  The search for it is bounded by the
      number of names taken, and that is enough.
    * **`nodup_distinctNames`**: no two columns get the same name.
    * **`names_kept_apart`** puts together what is known of each column and of all
      of them: what a column is called depends on the columns in front of it, and
      names that are unlike each other are left as they are. -/

namespace SqlShell

/-! ## Numbers at the end -/

theorem decimalText_injective : Function.Injective decimalText := by
  intro m n h
  calc
    m = Nat.ofDigitChars 10 (decimalText m) 0 := Nat.ofDigitChars_ten_toDigits.symm
    _ = Nat.ofDigitChars 10 (decimalText n) 0 := by rw [h]
    _ = n := Nat.ofDigitChars_ten_toDigits

theorem suffixed_injective (name : Text) : Function.Injective (suffixed name) := by
  intro m n h
  exact decimalText_injective (List.cons.inj (List.append_cancel_left h)).2

/-! ## One name -/

/-- The search ends at a number before which all are taken, and with one that is not
    taken unless its trials are used up. -/
theorem exists_freshSuffix (taken : List Text) (name : Text) (start fuel : Nat) :
    ∃ k, freshSuffix taken name start fuel = suffixed name k ∧ start ≤ k ∧ k ≤ start + fuel ∧
      (∀ j, start ≤ j → j < k → suffixed name j ∈ taken) ∧
      (suffixed name k ∈ taken → k = start + fuel) := by
  induction fuel generalizing start with
  | zero =>
    exact ⟨start, rfl, Nat.le_refl _, Nat.le_refl _, fun j h h' => absurd h (by omega),
      fun _ => rfl⟩
  | succ fuel ih =>
    unfold freshSuffix
    by_cases htaken : suffixed name start ∈ taken
    · obtain ⟨k, hk, hstart, hbound, hbefore, hlast⟩ := ih (start + 1)
      rw [if_pos htaken]
      refine ⟨k, hk, by omega, by omega, ?_, fun h => by rw [hlast h]; omega⟩
      intro j hj hjk
      by_cases hfirst : j = start
      · rwa [hfirst]
      · exact hbefore j (by omega) hjk
    · rw [if_neg htaken]
      exact ⟨start, rfl, Nat.le_refl _, by omega, fun j h h' => absurd h (by omega),
        fun h => absurd h htaken⟩

/-- If the first `n` numbers are taken, there are as many names taken. -/
theorem le_length_of_suffixed_mem {taken : List Text} {name : Text} {n : Nat}
    (h : ∀ j, 1 ≤ j → j ≤ n → suffixed name j ∈ taken) : n ≤ taken.length := by
  have hnodup : ((List.range' 1 n).map (suffixed name)).Nodup :=
    List.Nodup.map (suffixed_injective name) List.nodup_range'
  have hsubset : (List.range' 1 n).map (suffixed name) ⊆ taken := by
    intro s hs
    obtain ⟨j, hj, rfl⟩ := List.mem_map.1 hs
    rw [List.mem_range'_1] at hj
    exact h j hj.1 (by omega)
  have hlength := (List.subperm_of_subset hnodup hsubset).length_le
  rwa [List.length_map, List.length_range'] at hlength

/-- There are not as many names taken as there are numbers to try. -/
theorem exists_not_taken (taken : List Text) (name : Text) :
    ∃ k, 1 ≤ k ∧ k ≤ 1 + taken.length ∧ suffixed name k ∉ taken := by
  by_contra hall
  push Not at hall
  have hlength := le_length_of_suffixed_mem hall
  omega

/-- A name is not one of those made from it. -/
theorem suffixed_ne (name : Text) (k : Nat) : suffixed name k ≠ name := by
  intro h
  have hlength := congrArg List.length h
  rw [suffixed, List.length_append, List.length_cons] at hlength
  omega

/-- If the name itself is taken besides, one number less can be. -/
theorem suffix_le_length {taken : List Text} {name : Text} {k : Nat} (hname : name ∈ taken)
    (hk : 1 ≤ k) (h : ∀ j, 1 ≤ j → j < k → suffixed name j ∈ taken) : k ≤ taken.length := by
  have hothers : ∀ j, 1 ≤ j → j ≤ k - 1 → suffixed name j ∈ taken.erase name := by
    intro j hj hjk
    exact (List.mem_erase_of_ne (suffixed_ne name j)).2 (h j hj (by omega))
  have hlength := le_length_of_suffixed_mem hothers
  rw [List.length_erase_of_mem hname] at hlength
  have hpos := List.length_pos_of_mem hname
  omega

/-- **The name that a column gets**: its own, or the one with the least number that is
    not taken. -/
theorem freshName_spec (taken : List Text) (name : Text) :
    freshName taken name ∉ taken ∧
      if name ∉ taken then freshName taken name = name
      else ∃ k, 1 ≤ k ∧ freshName taken name = suffixed name k ∧
        ∀ j, 1 ≤ j → j < k → suffixed name j ∈ taken := by
  unfold freshName
  by_cases htaken : name ∈ taken
  · rw [if_pos htaken, if_neg (not_not_intro htaken)]
    obtain ⟨k, hk, hstart, -, hbefore, hlast⟩ := exists_freshSuffix taken name 1 taken.length
    refine ⟨?_, k, hstart, hk, hbefore⟩
    rw [hk]
    intro hmem
    -- All numbers that can be tried are taken, which are too many.
    obtain ⟨free, hone, hfree, hnot⟩ := exists_not_taken taken name
    have hlast := hlast hmem
    rcases Nat.lt_or_ge free k with hlt | hge
    · exact hnot (hbefore free hone hlt)
    · have heq : free = k := by omega
      exact hnot (heq ▸ hmem)
  · rw [if_neg htaken, if_pos htaken]
    exact ⟨htaken, rfl⟩

/-! ## All names -/

theorem length_distinctNamesAfter (taken names : List Text) :
    (distinctNamesAfter taken names).length = names.length := by
  induction names generalizing taken with
  | nil => rfl
  | cons name names ih => exact congrArg (· + 1) (ih _)

theorem length_distinctNames (names : List Text) :
    (distinctNames names).length = names.length := length_distinctNamesAfter [] names

/-- No name is given that is taken. -/
theorem not_mem_distinctNamesAfter {taken names : List Text} :
    ∀ name ∈ taken, name ∉ distinctNamesAfter taken names := by
  induction names generalizing taken with
  | nil =>
    intro name _ hmem
    cases hmem
  | cons first names ih =>
    intro name htaken hmem
    rcases List.mem_cons.1 hmem with rfl | hmem
    · exact (freshName_spec taken first).1 htaken
    · exact ih name (List.mem_cons_of_mem _ htaken) hmem

theorem nodup_distinctNamesAfter (taken names : List Text) :
    (distinctNamesAfter taken names).Nodup := by
  induction names generalizing taken with
  | nil => exact List.nodup_nil
  | cons name names ih =>
    exact List.nodup_cons.2
      ⟨not_mem_distinctNamesAfter (freshName taken name) List.mem_cons_self, ih _⟩

/-- **No two columns get the same name.** -/
theorem nodup_distinctNames (names : List Text) : (distinctNames names).Nodup :=
  nodup_distinctNamesAfter [] names

/-- What a column is called depends on the names given before it. -/
theorem getElem?_distinctNamesAfter (taken : List Text) {names : List Text} {i : Nat} {name : Text}
    (h : names[i]? = some name) :
    (distinctNamesAfter taken names)[i]?
      = some (freshName (((distinctNamesAfter taken names).take i).reverse ++ taken) name) := by
  induction names generalizing taken i with
  | nil => cases h
  | cons first names ih =>
    rw [distinctNamesAfter]
    cases i with
    | zero =>
      rw [List.getElem?_cons_zero, Option.some.injEq] at h
      rw [h]
      rfl
    | succ i =>
      rw [List.getElem?_cons_succ] at h
      rw [List.getElem?_cons_succ, ih _ h, List.take_succ_cons, List.reverse_cons,
        List.append_assoc]
      rfl

/-- Names that are unlike each other, and unlike those taken, are given as they are. -/
theorem distinctNamesAfter_eq_self {taken names : List Text} (hnodup : names.Nodup)
    (htaken : ∀ name ∈ names, name ∉ taken) : distinctNamesAfter taken names = names := by
  induction names generalizing taken with
  | nil => rfl
  | cons first names ih =>
    obtain ⟨hfirst, hnodup⟩ := List.nodup_cons.1 hnodup
    obtain ⟨hfree, htaken⟩ := List.forall_mem_cons.1 htaken
    have hfresh : freshName taken first = first := if_neg hfree
    have hrest : ∀ name ∈ names, name ∉ first :: taken := by
      intro name hname hmem
      rcases List.mem_cons.1 hmem with rfl | hmem
      · exact hfirst hname
      · exact htaken name hname hmem
    rw [distinctNamesAfter, hfresh, ih hnodup hrest]

/-- **Names are changed only to be told apart.** -/
theorem distinctNames_eq_self_iff (names : List Text) :
    distinctNames names = names ↔ names.Nodup := by
  constructor
  · intro h
    rw [← h]
    exact nodup_distinctNames names
  · intro hnodup
    exact distinctNamesAfter_eq_self hnodup fun _ _ => List.not_mem_nil

/-- **The names of columns are kept apart.**  There is one for each column, and no two
    are alike.  A column has its own name if none of those in front of it is called
    so, and otherwise the one with the least number that is free there; the search for
    it ends after no more trials than there are columns in front.  Names without
    repetition are left as they are, and so nothing changes the second time. -/
theorem names_kept_apart (names : List Text) :
    (distinctNames names).length = names.length ∧ (distinctNames names).Nodup ∧
      (∀ (i : Nat) (hi : i < names.length), ∃ key, (distinctNames names)[i]? = some key ∧
        key ∉ (distinctNames names).take i ∧
        if names[i] ∉ (distinctNames names).take i then key = names[i]
        else ∃ k, 1 ≤ k ∧ k ≤ i ∧ key = suffixed names[i] k ∧
          ∀ j, 1 ≤ j → j < k → suffixed names[i] j ∈ (distinctNames names).take i) ∧
      (distinctNames names = names ↔ names.Nodup) ∧
      distinctNames (distinctNames names) = distinctNames names := by
  have hsame := distinctNames_eq_self_iff (distinctNames names)
  refine ⟨length_distinctNames names, nodup_distinctNames names, ?_,
    distinctNames_eq_self_iff names, hsame.2 (nodup_distinctNames names)⟩
  intro i hi
  set earlier := (distinctNames names).take i with hearlier
  have hlength : earlier.length = i := by
    rw [hearlier, List.length_take, length_distinctNames]
    omega
  have hmem : ∀ name, name ∈ earlier.reverse ++ [] ↔ name ∈ earlier := by
    intro name
    rw [List.append_nil, List.mem_reverse]
  have hkey : (distinctNames names)[i]? = some (freshName (earlier.reverse ++ []) names[i]) :=
    getElem?_distinctNamesAfter [] (List.getElem?_eq_getElem hi)
  obtain ⟨hfree, hspec⟩ := freshName_spec (earlier.reverse ++ []) names[i]
  simp only [hmem] at hfree hspec
  refine ⟨_, hkey, hfree, ?_⟩
  by_cases htaken : names[i] ∈ earlier
  · rw [if_neg (not_not_intro htaken)] at hspec ⊢
    obtain ⟨k, hone, hname, hbefore⟩ := hspec
    have hbound := suffix_le_length htaken hone hbefore
    exact ⟨k, hone, hlength ▸ hbound, hname, hbefore⟩
  · rw [if_pos htaken] at hspec ⊢
    exact hspec

/-- A name that has been made up is taken when a column is called so. -/
example : distinctNames ["x".toList, "x".toList, "x_1".toList, "x".toList]
    = ["x".toList, "x_1".toList, "x_1_1".toList, "x_2".toList] := by
  decide +kernel

end SqlShell
