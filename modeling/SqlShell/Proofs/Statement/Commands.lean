import SqlShell.Proofs.Statement.Stability
import SqlShell.Proofs.Text.LineBreaks

/-! # Commands Behind One Another

    Several commands may stand on one line, each with a semicolon behind it.

    * **`IsOneCommand`** says what is one: nothing in it ends a command, and
      nothing is left open at its end.
    * **`scan_uncut`**: up to the semicolon behind it the scanner goes through it.
    * **`takeLine_commands`**: the buffer gives out the commands of a line, one
      after the other. -/

namespace SqlShell

/-! ## One command -/

/-- **One command**, or one statement: it has content, no semicolon outside its
    literals and comments, and neither literal nor comment is open at its end. -/
structure IsOneCommand (c : Text) : Prop where
  uncut : ∀ p ∈ reading [] .normal c, p.isCut = false
  closed : modeAfter .normal (reading [] .normal c) = .normal
  content : hasContent (reading [] .normal c) = true

instance (c : Text) : Decidable (IsOneCommand c) :=
  decidable_of_iff ((∀ p ∈ reading [] .normal c, p.isCut = false) ∧
      modeAfter .normal (reading [] .normal c) = .normal ∧
      hasContent (reading [] .normal c) = true)
    ⟨fun ⟨huncut, hclosed, hcontent⟩ => ⟨huncut, hclosed, hcontent⟩,
      fun h => ⟨h.uncut, h.closed, h.content⟩⟩

/-- **Some commands on one line**, a semicolon behind each, and what ends the line. -/
def commandLine (cs : List Text) (ending : Text) : Text :=
  cs.flatMap (fun c => c ++ [';']) ++ ending

theorem commandLine_cons (c : Text) (cs : List Text) (ending : Text) :
    commandLine (c :: cs) ending = c ++ ';' :: commandLine cs ending := by
  simp [commandLine]

/-- Blanks and semicolons are read as blanks and cuts. -/
theorem isCut_or_isBlank {s : Text} (hs : ∀ d ∈ s, Text.isBlank d = true ∨ d = ';') (past : Text) :
    ∀ p ∈ reading past .normal s, p.isCut = true ∨ p.isBlank = true := by
  induction s generalizing past with
  | nil => exact fun _ hp => nomatch hp
  | cons c s ih =>
    obtain ⟨hc, hs⟩ := List.forall_mem_cons.1 hs
    have hpiece : ∃ role, pieceAt past .normal c s.head? = ⟨[c], .normal, role⟩ ∧
        (role = .cut ∨ Text.isBlank c = true) := by
      rcases hc with hc | rfl
      · exact ⟨_, pieceAt_blank hc past s.head?, .inr hc⟩
      · exact ⟨_, rfl, .inl rfl⟩
    obtain ⟨role, hpiece, hrole⟩ := hpiece
    rw [reading_cons hpiece rfl]
    intro p hp
    rcases List.mem_cons.1 hp with rfl | hp
    · rcases hrole with rfl | hblank
      · exact .inl rfl
      · exact .inr (List.all_eq_true.2 fun d hd => List.mem_singleton.1 hd ▸ hblank)
    · exact ih hs _ p hp

/-- A command is more than blanks and semicolons. -/
theorem IsOneCommand.exists_solid {c : Text} (h : IsOneCommand c) :
    ∃ d ∈ c, (Text.isBlank d || decide (d = ';')) = false := by
  by_contra hnone
  have hall : ∀ d ∈ c, Text.isBlank d = true ∨ d = ';' := by
    intro d hd
    by_contra hsolid
    rw [not_or] at hsolid
    exact hnone ⟨d, hd, by simp [hsolid.1, hsolid.2]⟩
  have hblank : ∀ p ∈ reading [] .normal c, p.isBlank = true := by
    intro p hp
    rcases isCut_or_isBlank hall [] p hp with hcut | hblank
    · rw [h.uncut p hp] at hcut
      cases hcut
    · exact hblank
  have hcontent := h.content
  rw [hasContent_of_blanks isTaken_of_mem hblank] at hcontent
  cases hcontent

/-- So is a line with a command on it. -/
theorem IsOneCommand.exists_solid_line {c : Text} (h : IsOneCommand c) (cs : List Text)
    (ending : Text) :
    ∃ d ∈ commandLine (c :: cs) ending, (Text.isBlank d || decide (d = ';')) = false := by
  obtain ⟨d, hd, hsolid⟩ := h.exists_solid
  rw [commandLine_cons]
  exact ⟨d, List.mem_append_left _ hd, hsolid⟩

theorem IsOneCommand.not_blank {c : Text} (h : IsOneCommand c) : Text.allBlank c = false := by
  obtain ⟨d, hd, hsolid⟩ := h.exists_solid
  rw [Bool.or_eq_false_iff] at hsolid
  by_contra hblank
  rw [Bool.not_eq_false] at hblank
  have hd := List.all_eq_true.1 hblank d hd
  rw [hsolid.1] at hd
  cases hd

/-! ## Scanning up to a semicolon -/

/-- At the last character the scanner does the same before a semicolon, if it
    leaves nothing open there. -/
theorem pieceAt_last {past : Text} {mode : ScanMode} {c : Char}
    (h : (pieceAt past mode c none).mode = .normal) :
    pieceAt past mode c (some ';') = pieceAt past mode c none := by
  generalize hnone : (none : Option Char) = next at h ⊢
  fun_cases pieceAt past mode c next <;> simp_all [pieceAt]

/-- **Up to the semicolon** behind a command the scanner goes through all of it. -/
theorem scan_uncut {before : Text} {mode : ScanMode} {c : Text} (content : Bool) (rest : Text)
    (huncut : ∀ p ∈ reading before mode c, p.isCut = false)
    (hclosed : modeAfter mode (reading before mode c) = .normal) :
    scan before mode content (c ++ ';' :: rest)
      = scan (c.reverse ++ before) .normal (content || hasContent (reading before mode c))
          (';' :: rest) := by
  have hlast : ∀ past m, ∀ d ∈ c.getLast?,
      (pieceAt past m d none).mode = modeAfter mode (reading before mode c) →
        pieceAt past m d (';' :: rest).head? = pieceAt past m d none := by
    intro past m d _ hmode
    exact pieceAt_last (hmode.trans hclosed)
  rw [scan_append_of_uncut content huncut hlast, hclosed]

/-- A command is cut off at its semicolon. -/
theorem IsOneCommand.scan_eq {c : Text} (h : IsOneCommand c) (rest : Text) :
    scan [] .normal false (c ++ ';' :: rest) = .statement (Text.trim c) rest := by
  have hcut : scan (c.reverse ++ []) .normal true (';' :: rest)
      = .statement (Text.trim (c.reverse ++ []).reverse) rest := rfl
  rw [scan_uncut false rest h.uncut h.closed, h.content, Bool.false_or, hcut, List.append_nil,
    List.reverse_reverse]

/-! ## Commands on a line -/

/-- The end of a line is no part of its commands. -/
theorem exists_commandLine (cs : List Text) {ending : Text}
    (hending : Text.allBlank ending = true) :
    ∃ rest, Text.allBlank rest = true ∧
      Text.dropLineEnd (commandLine cs ending) = commandLine cs rest := by
  obtain ⟨dropped, hdropped, hline⟩ := Text.exists_lineEnd (commandLine cs ending)
  generalize Text.dropLineEnd (commandLine cs ending) = line at hline
  unfold commandLine at hline ⊢
  rcases List.append_eq_append_iff.1 hline with ⟨a, ha, hsplit⟩ | ⟨a, ha, hsplit⟩
  · refine ⟨a, ?_, ha⟩
    rw [hsplit, Text.allBlank, List.all_append, Bool.and_eq_true] at hending
    exact hending.1
  · -- A part of the commands would end with their semicolon.
    refine ⟨[], rfl, ?_⟩
    have hnil : a = [] := by
      by_contra hne
      have hlast : ∀ d ∈ a.getLast?, d = ';' := by
        intro d hd
        rw [← List.getLast?_append_of_ne_nil line hne, ← ha] at hd
        cases cs using List.reverseRecOn with
        | nil => cases hd
        | append_singleton cs c => simpa [eq_comm] using hd
      have hsemicolon := hlast _ (List.getLast?_eq_some_getLast hne)
      rw [hsplit, Text.allBlank, List.all_append, Bool.and_eq_true] at hdropped
      have hblank := List.all_eq_true.1 hdropped.1 _ (List.getLast_mem hne)
      rw [hsemicolon] at hblank
      cases hblank
    rw [ha, hnil, List.append_nil, List.append_nil]

namespace StatementBuffer

/-- **The commands of a text** are given out one after the other. -/
theorem drain_commands {cs : List Text} {ending : Text} (hcs : ∀ c ∈ cs, IsOneCommand c)
    (hending : Text.allBlank ending = true) :
    drain { empty with waiting := commandLine cs ending } = (cs.map Text.trim, empty) := by
  induction cs with
  | nil =>
    have hnext : next { empty with waiting := ending } = (none, empty) := by
      unfold next
      rw [show ({ empty with waiting := ending } : StatementBuffer).mode = .normal from rfl]
      rw [scan_blank hending]
      rfl
    have hline : commandLine [] ending = ending := rfl
    rw [hline, drain_next, hnext]
    rfl
  | cons c cs ih =>
    obtain ⟨hc, hcs⟩ := List.forall_mem_cons.1 hcs
    have hnext : next { empty with waiting := c ++ ';' :: commandLine cs ending }
        = (some (Text.trim c), { empty with waiting := commandLine cs ending }) := by
      have hscan := hc.scan_eq (commandLine cs ending)
      unfold next
      dsimp only [empty]
      rw [hscan]
    rw [commandLine_cons, drain_next, hnext]
    dsimp only
    rw [ih hcs]
    rfl

/-- **The commands of a line** come out of it, and nothing is left of it. -/
theorem takeLine_commands {cs : List Text} {ending : Text} (hcs : ∀ c ∈ cs, IsOneCommand c)
    (hending : Text.allBlank ending = true) :
    empty.takeLine (commandLine cs ending) = (cs.map Text.trim, empty) := by
  obtain ⟨rest, hrest, hline⟩ := exists_commandLine cs hending
  have hblank : Text.allBlank (rest ++ ['\n']) = true := by
    rw [Text.allBlank, List.all_append, Bool.and_eq_true]
    exact ⟨hrest, rfl⟩
  have hdrain := drain_commands hcs hblank
  rw [atRest_empty.takeLine_eq, hline, commandLine, List.append_assoc]
  exact hdrain

end StatementBuffer

end SqlShell
