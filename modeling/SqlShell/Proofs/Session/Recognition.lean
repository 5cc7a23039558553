import SqlShell.Proofs.Session.Commanding
import SqlShell.Proofs.Session.Decoration
import SqlShell.Proofs.Session.Input
import SqlShell.Proofs.Statement.Commands

/-! # Recognizing Commands

    A line is looked at as it stands, before it is cut into commands, and what is
    cut off is looked at again.  The two agree, **unless the first command takes
    its whole line along**.

    * **`ofText_line`**: a command is recognized with its semicolon as without.
    * **`TakesLine`** says which commands take what follows them for arguments, or
      for a part of their name.
    * **`isCommand_line`**: a line with several commands is one by itself if and
      only if the first of them takes it along. -/

namespace SqlShell

open Text

/-! ## A command and its semicolon -/

/-- **A command is recognized** with its semicolon as without. -/
theorem ofText_line {ending : Text} (hending : allBlank ending = true) (c : Text)
    (k : ShellCommand) :
    Input.ofText (c ++ ';' :: ending) = .command k ↔ Input.ofText c = .command k := by
  have hdecoration : IsDecoration (';' :: ending) := by
    intro d hd
    rcases List.mem_cons.1 hd with rfl | hd
    · exact .inr rfl
    · exact .inl (List.all_eq_true.1 hending d hd)
  have hsame : undecorated (c ++ ';' :: ending) = undecorated c :=
    undecorated_append (u := []) rfl c hdecoration
  rw [ofText_of_undecorated hsame]
  exact Input.withText_eq_command_iff _ _ k

/-! ## Several commands on a line -/

/-- The first word of a text. -/
def firstWord (s : Text) : Text := (trimStart s).takeWhile (!isBlank ·)

/-- **The command takes its whole line along**: what follows it is an argument of
    it, or a part of its name. -/
def TakesLine (c : Text) : Prop :=
  (lower (firstWord c)).head? = some '\\' ∨
    ((Verb.ofName? (lower (firstWord c))).isSome = true ∧ ∃ d ∈ trimStart c, isBlank d = true)

instance : DecidablePred TakesLine := fun _ => inferInstanceAs (Decidable (_ ∨ _))

/-- No command has a semicolon in its name. -/
theorem ofName?_of_mem {name : Text} (h : ';' ∈ name) : (Verb.ofName? name).isSome = false := by
  have hall : ∀ entry ∈ verbNames, ';' ∉ entry.1 := by decide
  rw [Option.isSome_eq_false_iff, Option.isNone_iff_eq_none]
  cases hname : Verb.ofName? name with
  | none => rfl
  | some verb => exact absurd h (hall _ (mem_verbNames hname))

/-- **A command** begins with the name of one, or like one. -/
theorem isCommand_ofText (s : Text) (hs : trimStart (undecorated s) ≠ []) :
    (Input.ofText s).isCommand = true ↔
      (Verb.ofName? (lower (firstWord (undecorated s)))).isSome = true ∨
        (lower (firstWord (undecorated s))).head? = some '\\' := by
  unfold Input.ofText splitWord firstWord
  obtain ⟨d, t, htrim⟩ := List.exists_cons_of_ne_nil hs
  rw [htrim]
  dsimp only
  split
  case isTrue hname => exact iff_of_true rfl hname
  case isFalse hname => exact iff_of_false nofun hname

/-- The first word of a line is that of its first command, if that has more than one. -/
theorem firstWord_of_blank {c : Text} (hc : allBlank c = false) (r : Text)
    (hblank : ∃ d ∈ trimStart c, isBlank d = true) :
    firstWord (trimStart c ++ ';' :: r) = firstWord c := by
  unfold firstWord
  rw [trimStart_trimStart_append hc, List.takeWhile_append, if_neg]
  intro hlength
  have hself := List.takeWhile_eq_self_iff.1 ((List.takeWhile_prefix _).eq_of_length hlength)
  obtain ⟨d, hd, hblank⟩ := hblank
  simpa [hblank] using hself d hd

/-- A command of one word is followed by its semicolon at once. -/
theorem firstWord_of_word {c : Text} (hc : allBlank c = false) (r : Text)
    (hword : ¬ ∃ d ∈ trimStart c, isBlank d = true) :
    firstWord (trimStart c ++ ';' :: r) = firstWord c ++ ';' :: r.takeWhile (!isBlank ·) := by
  have hall : ∀ d ∈ trimStart c, (!isBlank d) = true := by
    intro d hd
    by_contra hblank
    exact hword ⟨d, hd, by simpa using hblank⟩
  unfold firstWord
  rw [trimStart_trimStart_append hc, List.takeWhile_append_of_pos hall,
    List.takeWhile_eq_self_iff.2 hall, List.takeWhile_cons_of_pos (by decide)]

/-- **A line with something behind its first command** is a command by itself if
    and only if that takes the line along. -/
theorem isCommand_line {c rest : Text} (hc : allBlank c = false)
    (hrest : ∃ d ∈ rest, (isBlank d || decide (d = ';')) = false) :
    (Input.ofText (c ++ ';' :: rest)).isCommand = true ↔ TakesLine c := by
  obtain ⟨r, hline⟩ : ∃ r, undecorated (c ++ ';' :: rest) = trimStart c ++ ';' :: r := by
    refine ⟨dropEndWhile (fun c => isBlank c || c = ';') rest, ?_⟩
    have happend : trimStart c ++ ';' :: rest = (trimStart c ++ [';']) ++ rest := by simp
    rw [undecorated_eq, trimStart_append_of_not_blank hc, happend,
      dropEndWhile_append_of_exists _ hrest]
    simp
  obtain ⟨d, t, htrim, hd⟩ := exists_trimStart hc
  have hne : trimStart (undecorated (c ++ ';' :: rest)) ≠ [] := by
    rw [hline, trimStart_trimStart_append hc, htrim]
    exact List.cons_ne_nil _ _
  rw [isCommand_ofText _ hne, hline]
  unfold TakesLine
  by_cases hblank : ∃ d ∈ trimStart c, isBlank d = true
  · rw [firstWord_of_blank hc r hblank, and_iff_left hblank, or_comm]
  · -- The name of a command would go on with a semicolon, and none does.
    have hword : firstWord c ≠ [] := by
      rw [firstWord, htrim, List.takeWhile_cons_of_pos (by simp [hd])]
      exact List.cons_ne_nil _ _
    rw [firstWord_of_word hc r hblank, ofName?_of_mem (mem_lower_append _ _),
      head?_lower_append hword]
    simp only [hblank, and_false, or_false, Bool.false_eq_true, false_or]

end SqlShell
