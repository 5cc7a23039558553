import SqlShell.Proofs.Text.LowerCase
import SqlShell.Session.Command

/-! # Decoration

    Blanks around a text, and semicolons and blanks at its end, say nothing about
    what it asks for.

    * **`IsDecoration`**: blanks and semicolons; a text of nothing else is empty.
    * **`undecorated_append`**: what is left of a text does not depend on what it
      is decorated with.
    * **`IsWords`**: a word and what follows it, with blanks between the two.  This
      is the form in which a command is found, and in which it is found again. -/

namespace SqlShell

open Text

/-! ## What is left without decoration -/

/-- **Decoration**: blanks and semicolons. -/
def IsDecoration (s : Text) : Prop := ∀ c ∈ s, isBlank c = true ∨ c = ';'

instance : DecidablePred IsDecoration :=
  List.decidableBAll fun c => isBlank c = true ∨ c = ';'

/-- **A bare text** has no blank at either end, and no semicolon at the last. -/
structure IsBare (s : Text) : Prop extends Text.IsTrimmed s where
  semicolon : s.getLast? ≠ some ';'

theorem undecorated_eq (s : Text) :
    undecorated s = dropEndWhile (fun c => isBlank c || c = ';') (trimStart s) := by
  apply dropEndWhile_dropEndWhile
  intro c hc
  rw [hc, Bool.true_or]

theorem undecorated_eq_nil_iff (s : Text) : undecorated s = [] ↔ IsDecoration s := by
  have hends : undecorated s = [] ↔ ∀ c ∈ trimStart s, isBlank c = true ∨ c = ';' := by
    rw [undecorated_eq, dropEndWhile, List.reverse_eq_nil_iff, List.dropWhile_eq_nil_iff]
    simp
  rw [hends]
  refine ⟨fun h c hc => ?_, fun h c hc => h c ((List.dropWhile_sublist _).subset hc)⟩
  rw [← List.takeWhile_append_dropWhile (p := isBlank) (l := s), List.mem_append] at hc
  rcases hc with hc | hc
  · exact .inl (List.mem_takeWhile_imp hc)
  · exact h c hc

/-- **What is left of a text** does not depend on what it is decorated with. -/
theorem undecorated_append {u w : Text} (hu : allBlank u = true) (t : Text)
    (hw : IsDecoration w) : undecorated (u ++ (t ++ w)) = undecorated t := by
  by_cases ht : allBlank t = true
  · -- Then nothing is left of either.
    have hall : ∀ {s : Text}, allBlank s = true → IsDecoration s :=
      fun hs c hc => .inl (List.all_eq_true.1 hs c hc)
    rw [(undecorated_eq_nil_iff t).2 (hall ht), undecorated_eq_nil_iff]
    intro c hc
    rcases List.mem_append.1 hc with hc | hc
    · exact hall hu c hc
    · rcases List.mem_append.1 hc with hc | hc
      · exact hall ht c hc
      · exact hw c hc
  · have hstart : trimStart (u ++ (t ++ w)) = trimStart t ++ w := by
      rw [← trimStart_append_of_not_blank (by simpa using ht), trimStart,
        List.dropWhile_append_of_pos (List.all_eq_true.1 hu), trimStart]
    rw [undecorated_eq, undecorated_eq, hstart]
    apply dropEndWhile_append_of_forall
    intro c hc
    simpa using hw c hc

theorem isBare_undecorated (s : Text) : IsBare (undecorated s) := by
  have hlast : ∀ c ∈ (undecorated s).getLast?, isBlank c = false ∧ c ≠ ';' := by
    intro c hc
    obtain ⟨hne, rfl⟩ := List.mem_getLast?_eq_getLast hc
    have hdropped := List.rdropWhile_last_not (fun c => isBlank c || decide (c = ';')) (trim s) hne
    simp only [Bool.or_eq_true, decide_eq_true_eq, not_or, Bool.not_eq_true] at hdropped
    exact hdropped
  refine ⟨⟨?_, fun c hc => (hlast c hc).1⟩, fun h => (hlast ';' h).2 rfl⟩
  -- What is dropped at the end leaves the beginning as it is.
  intro c hc
  rw [undecorated_eq] at hc
  have hhead : (trimStart s).head? = some c := by
    obtain ⟨t, ht⟩ := List.rdropWhile_prefix (fun c => isBlank c || decide (c = ';')) (trimStart s)
    have hc : ((trimStart s).rdropWhile fun c => isBlank c || decide (c = ';')).head? = some c := hc
    rw [← ht, List.head?_append, hc]
    rfl
  have hnot := List.head?_dropWhile_not isBlank s
  rw [trimStart] at hhead
  rw [hhead] at hnot
  simpa using hnot

/-- A bare text is left as it is. -/
theorem IsBare.undecorated_eq {s : Text} (hs : IsBare s) : undecorated s = s := by
  have hstart : trimStart s = s := trimStart_append (a := []) rfl hs.head
  rw [SqlShell.undecorated_eq, hstart]
  apply List.rdropWhile_eq_self_iff.2
  intro hne
  have hlast := List.getLast?_eq_some_getLast hne
  have hsemicolon : s.getLast hne ≠ ';' := fun h => hs.semicolon (h ▸ hlast)
  simp [hs.last _ hlast, hsemicolon]

/-! ## Words -/

/-- **A word and what follows it**, with blanks between the two. -/
structure IsWords (word gap rest : Text) : Prop where
  ne_nil : word ≠ []
  solid : ∀ c ∈ word, isBlank c = false
  blank : allBlank gap = true
  parted : gap = [] → rest = []
  bare : IsBare rest
  /-- A word by itself is bare as well. -/
  last : rest = [] → word.getLast? ≠ some ';'

namespace IsWords

variable {word gap rest : Text}

/-- A text of words is bare, but for the blanks behind a word by itself. -/
theorem undecorated_eq (h : IsWords word gap rest) :
    undecorated (word ++ (gap ++ rest)) = if rest = [] then word else word ++ (gap ++ rest) := by
  have hhead : ∀ t, ∀ c ∈ (word ++ t).head?, isBlank c = false := by
    intro t c hc
    rw [List.head?_append_of_ne_nil word h.ne_nil] at hc
    exact h.solid c (List.mem_of_head? hc)
  split
  case isTrue hrest =>
    subst hrest
    have hword : IsBare word := by
      refine ⟨⟨by simpa using hhead [], ?_⟩, h.last rfl⟩
      exact fun c hc => h.solid c (List.mem_of_getLast? hc)
    have hgap : IsDecoration gap := fun c hc => .inl (List.all_eq_true.1 h.blank c hc)
    rw [List.append_nil]
    exact (undecorated_append (u := []) rfl word hgap).trans hword.undecorated_eq
  case isFalse hrest =>
    have hlast : (word ++ (gap ++ rest)).getLast? = rest.getLast? := by
      rw [← List.append_assoc, List.getLast?_append_of_ne_nil _ hrest]
    apply IsBare.undecorated_eq
    exact ⟨⟨hhead _, hlast ▸ h.bare.last⟩, hlast ▸ h.bare.semicolon⟩

theorem splitWord_eq (h : IsWords word gap rest) :
    splitWord (word ++ (gap ++ rest)) = some (word, rest) := by
  obtain ⟨c, w, hword⟩ := List.exists_cons_of_ne_nil h.ne_nil
  have hstart : trimStart (word ++ (gap ++ rest)) = word ++ (gap ++ rest) := by
    rw [hword]
    exact List.dropWhile_cons_of_neg (by simp [h.solid c (hword ▸ List.mem_cons_self)])
  have hsolid : ∀ d ∈ word, (!isBlank d) = true := fun d hd => by simp [h.solid d hd]
  -- The word ends where the text does, or at the first blank behind it.
  have hnext : (gap ++ rest).takeWhile (!isBlank ·) = [] ∧
      (gap ++ rest).dropWhile (!isBlank ·) = gap ++ rest := by
    cases gap with
    | nil => simp [h.parted rfl]
    | cons d gap =>
      have hd : isBlank d = true := List.all_eq_true.1 h.blank d List.mem_cons_self
      simp [hd]
  have hsplit : splitWord (word ++ (gap ++ rest)) =
      some ((word ++ (gap ++ rest)).takeWhile (!isBlank ·),
        trimStart ((word ++ (gap ++ rest)).dropWhile (!isBlank ·))) := by
    unfold splitWord
    rw [hstart, hword]
    rfl
  rw [hsplit, List.takeWhile_append_of_pos hsolid, List.dropWhile_append_of_pos hsolid, hnext.1,
    hnext.2, List.append_nil, trimStart_append h.blank h.bare.head]

/-- **Words are split again** when they are put together. -/
theorem splitWord_undecorated (h : IsWords word gap rest) :
    splitWord (undecorated (word ++ (gap ++ rest))) = some (word, rest) := by
  rw [h.undecorated_eq]
  split
  case isTrue hrest =>
    subst hrest
    have halone : IsWords word [] [] := { h with blank := rfl, parted := fun _ => rfl }
    simpa using halone.splitWord_eq
  case isFalse => exact h.splitWord_eq

end IsWords

/-- **What is more than decoration** is a word and what follows it. -/
theorem exists_words {s : Text} (hs : ¬ IsDecoration s) :
    ∃ word gap rest, IsWords word gap rest ∧ undecorated s = word ++ (gap ++ rest) := by
  have hbare := isBare_undecorated s
  have hne : undecorated s ≠ [] := fun h => hs ((undecorated_eq_nil_iff s).1 h)
  generalize undecorated s = t at hbare hne
  obtain ⟨word, tail, rfl, hsolid, htail⟩ : ∃ word tail, t = word ++ tail ∧
      (∀ c ∈ word, isBlank c = false) ∧ ∀ c ∈ tail.head?, isBlank c = true := by
    refine ⟨t.takeWhile (!isBlank ·), t.dropWhile (!isBlank ·),
      List.takeWhile_append_dropWhile.symm, ?_, ?_⟩
    · intro c hc
      simpa using List.mem_takeWhile_imp hc
    · intro c hc
      have hnot := List.head?_dropWhile_not (!isBlank ·) t
      rw [hc] at hnot
      simpa using hnot
  obtain ⟨gap, rest, rfl, hgap, hrest⟩ : ∃ gap rest, tail = gap ++ rest ∧
      (∀ c ∈ gap, isBlank c = true) ∧ ∀ c ∈ rest.head?, isBlank c = false := by
    refine ⟨tail.takeWhile isBlank, tail.dropWhile isBlank,
      List.takeWhile_append_dropWhile.symm, fun c hc => List.mem_takeWhile_imp hc, ?_⟩
    intro c hc
    have hnot := List.head?_dropWhile_not isBlank tail
    rw [hc] at hnot
    simpa using hnot
  have hlast : ∀ c ∈ rest.getLast?, c ∈ (word ++ (gap ++ rest)).getLast? := by
    intro c hc
    rw [← List.append_assoc, List.getLast?_append, hc]
    rfl
  refine ⟨word, gap, rest, ⟨?_, hsolid, List.all_eq_true.2 hgap, ?_, ⟨⟨hrest, ?_⟩, ?_⟩, ?_⟩, rfl⟩
  · -- The text would begin with a blank.
    rintro rfl
    obtain ⟨c, r, htext⟩ := List.exists_cons_of_ne_nil hne
    rw [List.nil_append] at htext
    have hblank := htail c (by rw [htext]; rfl)
    rw [hbare.head c (by rw [List.nil_append, htext]; rfl)] at hblank
    cases hblank
  · rintro rfl
    cases rest with
    | nil => rfl
    | cons c r =>
      have hblank := htail c rfl
      rw [hrest c rfl] at hblank
      cases hblank
  · exact fun c hc => hbare.last c (hlast c hc)
  · exact fun h => hbare.semicolon (hlast ';' h)
  · -- Nor does the text end with one.
    rintro rfl hsemicolon
    cases hend : gap.getLast? with
    | none =>
      rw [List.getLast?_eq_none_iff] at hend
      subst hend
      exact hbare.semicolon (by simpa using hsemicolon)
    | some c =>
      have hblank := hgap c (List.mem_of_getLast? hend)
      rw [hbare.last c (by rw [List.append_nil, List.getLast?_append, hend]; rfl)] at hblank
      cases hblank

/-! ## What a text asks for -/

/-- What is asked for, with another text if it is a statement. -/
def Input.withText (text : Text) : Input → Input
  | .statement _ => .statement text
  | input => input

/-- A statement is no command, whatever its text. -/
theorem Input.withText_eq_command_iff (text : Text) (input : Input) (k : ShellCommand) :
    input.withText text = .command k ↔ input = .command k := by
  cases input <;> simp [withText]

/-- What a text of words asks for is up to its first word. -/
def Input.ofWords (text : Text) : Option (Text × Text) → Input
  | none => .empty
  | some (word, rest) =>
    if (Verb.ofName? (lower word)).isSome ∨ (lower word).head? = some '\\' then
      .command ⟨lower word, trim rest⟩
    else .statement text

theorem ofText_eq (s : Text) : Input.ofText s = Input.ofWords (trim s) (splitWord (undecorated s)) :=
  rfl

theorem Input.withText_ofWords (text text' : Text) (split : Option (Text × Text)) :
    (Input.ofWords text split).withText text' = Input.ofWords text' split := by
  cases split with
  | none => rfl
  | some words =>
    unfold Input.ofWords
    dsimp only
    split <;> rfl

/-- What is cut out of a line is asked for like the command itself. -/
theorem ofText_trim (c : Text) : Input.ofText (trim c) = Input.ofText c := by
  unfold Input.ofText undecorated
  rw [trim_trim]

/-- **Texts that differ in their decoration ask for the same**; only a statement
    shows its own text. -/
theorem ofText_of_undecorated {s t : Text} (h : undecorated s = undecorated t) :
    Input.ofText s = (Input.ofText t).withText (trim s) := by
  rw [ofText_eq, ofText_eq, h, Input.withText_ofWords]

/-- What is more than decoration is taken for a command or for a statement. -/
theorem exists_ofText {s : Text} (hs : ¬ IsDecoration s) :
    ∃ word gap rest, IsWords word gap rest ∧
      Input.ofText s = Input.ofWords (trim s) (some (word, rest)) := by
  obtain ⟨word, gap, rest, hwords, hs⟩ := exists_words hs
  exact ⟨word, gap, rest, hwords, by rw [ofText_eq, hs, hwords.splitWord_eq]⟩

theorem Input.ofWords_ne_empty (text word rest : Text) :
    Input.ofWords text (some (word, rest)) ≠ .empty := by
  unfold Input.ofWords
  dsimp only
  split <;> nofun

/-- **Nothing is asked for** by decoration, and by nothing else. -/
theorem ofText_eq_empty_iff (s : Text) : Input.ofText s = .empty ↔ IsDecoration s := by
  constructor
  · intro hempty
    by_contra hs
    obtain ⟨word, gap, rest, -, hs⟩ := exists_ofText hs
    exact Input.ofWords_ne_empty _ _ _ (hs.symm.trans hempty)
  · intro hs
    rw [ofText_eq, (undecorated_eq_nil_iff s).2 hs]
    rfl

/-- In lower case the words of a text are words as well. -/
theorem IsWords.lower {word gap rest : Text} (h : IsWords word gap rest) :
    IsWords (Text.lower word) [' '] rest where
  ne_nil := lowerAfter_ne_nil [] h.ne_nil
  solid := not_isBlank_of_mem_lower h.solid
  blank := by decide
  parted := nofun
  bare := h.bare
  last hrest := getLast?_lower_ne_semicolon (h.last hrest)

/-- **A command is written with its name, a blank and its arguments**, all of them
    without decoration, and is found again as it is. -/
theorem ofText_of_command {s : Text} {k : ShellCommand} (h : Input.ofText s = .command k) :
    (∀ c ∈ k.name, isBlank c = false) ∧ IsBare k.args ∧
      Input.ofText (k.name ++ ' ' :: k.args) = .command k := by
  have hs : ¬ IsDecoration s := by
    intro hs
    rw [(ofText_eq_empty_iff s).2 hs] at h
    cases h
  obtain ⟨word, gap, rest, hwords, hs⟩ := exists_ofText hs
  rw [hs, Input.ofWords] at h
  split at h
  case isFalse => cases h
  case isTrue hname =>
    obtain rfl := Input.command.inj h
    have hrest : trim rest = rest := by
      by_cases hrest : rest = []
      · rw [hrest]; rfl
      · exact hwords.bare.trim_eq hrest
    have hagain : splitWord (undecorated (Text.lower word ++ ' ' :: rest)) =
        some (Text.lower word, rest) := hwords.lower.splitWord_undecorated
    rw [hrest]
    refine ⟨hwords.lower.solid, hwords.bare, ?_⟩
    -- The name is found again as it is: it is in lower case already.
    rw [ofText_eq, hagain, Input.ofWords]
    dsimp only
    rw [lower_lower, if_pos hname, hrest]

/-- **Recognition ignores decoration and is stable.**  Let `t` be any text, with any
    blanks in front of it and any blanks and semicolons behind it.

    - With its decoration `t` asks for the same as without: for nothing, for the
      same command, or for a statement.
    - It asks for nothing if and only if it is made of blanks and semicolons.
    - The name of a command has no blanks, its arguments have no decoration, and
      the two with a blank between them are the same command.
    - The text of a statement is the same statement. -/
theorem recognition_is_stable (t : Text) {u w : Text} (hu : allBlank u = true)
    (hw : IsDecoration w) :
    (Input.ofText (u ++ (t ++ w)) = .empty ↔ Input.ofText t = .empty) ∧
    (∀ k, Input.ofText (u ++ (t ++ w)) = .command k ↔ Input.ofText t = .command k) ∧
    ((∃ s, Input.ofText (u ++ (t ++ w)) = .statement s) ↔ ∃ s, Input.ofText t = .statement s) ∧
    (Input.ofText t = .empty ↔ IsDecoration t) ∧
    (∀ name args, Input.ofText t = .command ⟨name, args⟩ →
      (∀ c ∈ name, isBlank c = false) ∧ IsBare args ∧
        Input.ofText (name ++ ' ' :: args) = .command ⟨name, args⟩) ∧
    (∀ s, Input.ofText t = .statement s → Input.ofText s = .statement s) := by
  have hsame := ofText_of_undecorated (undecorated_append hu t hw)
  refine ⟨?_, ?_, ?_, ofText_eq_empty_iff t, fun name args h => ofText_of_command h, ?_⟩
  · rw [hsame]
    cases Input.ofText t <;> simp [Input.withText]
  · intro k
    rw [hsame]
    exact Input.withText_eq_command_iff _ _ k
  · rw [hsame]
    cases Input.ofText t <;> simp [Input.withText]
  · intro s hs
    obtain rfl : s = trim t := by
      have htext := ofText_of_undecorated (s := t) (t := t) rfl
      rw [hs] at htext
      exact Input.statement.inj htext
    rw [ofText_trim, hs]

/-- A command between blanks and semicolons, in capitals. -/
theorem recognition_is_stable_format :
    allBlank " \t".toList = true ∧ IsDecoration " ;; ".toList ∧
      Input.ofText " \t FORMAT  csv; ;; ".toList = .command ⟨"format".toList, "csv".toList⟩ ∧
      Input.ofText "format csv".toList = .command ⟨"format".toList, "csv".toList⟩ := by
  have h := recognition_is_stable " FORMAT  csv;".toList (u := " \t".toList) (w := " ;; ".toList)
    (by decide) (by decide)
  have ht : Input.ofText " FORMAT  csv;".toList = .command ⟨"format".toList, "csv".toList⟩ := by
    decide
  exact ⟨by decide, by decide, (h.2.1 _).2 ht, (h.2.2.2.2.1 _ _ ht).2.2⟩

end SqlShell
