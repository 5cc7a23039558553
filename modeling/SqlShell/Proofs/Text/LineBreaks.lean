import SqlShell.Text.Lines

/-! # Lines and Line Breaks

    A text falls into lines at every line break, a stream at its line feeds
    only.

    * **`withLineFeeds`** writes every line break as a line feed.
    * **`not_mem_of_mem_lines`** and **`exists_of_mem_streamLinesAfter`** say
      where a line may hold one: nowhere, and at its end. -/

namespace SqlShell.Text

/-! ## Line breaks -/

/-- **A text with a line feed for every line break.** -/
def withLineFeeds (s : Text) : Text := s.map fun c => if isLineBreak c then '\n' else c

/-- Line feeds are the only line breaks. -/
def BreaksAtLineFeeds (s : Text) : Prop := ∀ c ∈ s, isLineBreak c = true → c = '\n'

instance : DecidablePred BreaksAtLineFeeds :=
  List.decidableBAll fun c => isLineBreak c = true → c = '\n'

theorem withLineFeeds_eq_self {s : Text} (h : BreaksAtLineFeeds s) : withLineFeeds s = s := by
  have hchar : ∀ c ∈ s, (if isLineBreak c then '\n' else c) = id c := by
    intro c hc
    by_cases hbreak : isLineBreak c = true
    · rw [if_pos hbreak, h c hc hbreak]
      rfl
    · rw [if_neg hbreak]
      rfl
  rw [withLineFeeds, List.map_congr_left hchar, List.map_id]

/-- Without carriage returns there is nothing to unify. -/
theorem unifyLineEnds_eq_self {s : Text} (h : '\r' ∉ s) : unifyLineEnds s = s := by
  induction s with
  | nil => rfl
  | cons c s ih =>
    have hc : c ≠ '\r' := by
      intro hc
      exact h (hc ▸ List.mem_cons_self)
    have hs : '\r' ∉ s := fun hmem => h (List.mem_cons_of_mem c hmem)
    rw [unifyLineEnds, if_neg hc, ih hs]
    intro r hr
    exact absurd hr hc

/-! ## Lines of a text -/

/-- Without carriage returns every line break stands for itself. -/
theorem linesAfter_cons (line : Text) {c : Char} (hc : c ≠ '\r') (s : Text) :
    linesAfter line (c :: s)
      = if isLineBreak c then line.reverse :: linesAfter [] s else linesAfter (c :: line) s := by
  rw [linesAfter]
  intro r hr
  exact absurd hr hc

/-- No line of a text holds a line break. -/
theorem not_isLineBreak_of_mem_linesAfter {line s : Text}
    (hline : ∀ c ∈ line, isLineBreak c = false) :
    ∀ l ∈ linesAfter line s, ∀ c ∈ l, isLineBreak c = false := by
  have hrev : ∀ c ∈ line.reverse, isLineBreak c = false := by
    intro c hc
    exact hline c (List.mem_reverse.1 hc)
  fun_induction linesAfter line s with
  | case1 line hempty =>
    intro l hl
    cases hl
  | case2 line hempty =>
    intro l hl
    rw [List.mem_singleton.1 hl]
    exact hrev
  | case3 line r ih =>
    intro l hl
    rcases List.mem_cons.1 hl with hl | hl
    · rw [hl]
      exact hrev
    · exact ih (by simp) (by simp) l hl
  | case4 line c r hcr hbreak ih =>
    intro l hl
    rcases List.mem_cons.1 hl with hl | hl
    · rw [hl]
      exact hrev
    · exact ih (by simp) (by simp) l hl
  | case5 line c r hcr hbreak ih =>
    have hcons : ∀ d ∈ c :: line, isLineBreak d = false := by
      intro d hd
      rcases List.mem_cons.1 hd with hd | hd
      · rw [hd]
        simpa using hbreak
      · exact hline d hd
    apply ih hcons
    intro d hd
    exact hcons d (List.mem_reverse.1 hd)

theorem not_mem_of_mem_lines {s l : Text} (hl : l ∈ lines s) : '\n' ∉ l := by
  intro hmem
  have hnone : ∀ c ∈ ([] : Text), isLineBreak c = false := by simp
  have hbreak := not_isLineBreak_of_mem_linesAfter hnone l hl '\n' hmem
  cases hbreak

/-! ## Lines of a stream -/

/-- A line of a stream is the line, and the line feed that may end it. -/
theorem exists_of_mem_streamLinesAfter {line s l : Text} (hline : '\n' ∉ line)
    (hl : l ∈ streamLinesAfter line s) : ∃ body, '\n' ∉ body ∧ (l = body ∨ l = body ++ ['\n']) := by
  induction s generalizing line with
  | nil =>
    by_cases hempty : line.isEmpty = true
    · rw [streamLinesAfter, if_pos hempty] at hl
      cases hl
    · rw [streamLinesAfter, if_neg hempty, List.mem_singleton] at hl
      exact ⟨line.reverse, by simpa using hline, .inl hl⟩
  | cons c s ih =>
    rw [streamLinesAfter] at hl
    by_cases hc : c = '\n'
    · rw [if_pos hc] at hl
      rcases List.mem_cons.1 hl with hl | hl
      · exact ⟨line.reverse, by simpa using hline, .inr (by rw [hl, hc, List.reverse_cons])⟩
      · exact ih (by simp) hl
    · rw [if_neg hc] at hl
      have hcons : '\n' ∉ c :: line := by
        intro hmem
        rcases List.mem_cons.1 hmem with hmem | hmem
        · exact hc hmem.symm
        · exact hline hmem
      exact ih hcons hl

/-! ## Line ends -/

/-- A line is itself without its end, and a blank end. -/
theorem exists_lineEnd (line : Text) :
    ∃ ending, allBlank ending = true ∧ line = dropLineEnd line ++ ending := by
  unfold dropLineEnd
  split
  case h_1 r hr =>
    refine ⟨['\r', '\n'], by decide, ?_⟩
    simpa using congrArg List.reverse hr
  case h_2 r _ hr =>
    refine ⟨['\n'], by decide, ?_⟩
    simpa using congrArg List.reverse hr
  case h_3 => exact ⟨[], rfl, (List.append_nil line).symm⟩

end SqlShell.Text
