import SqlShell.Proofs.Launch.Opening

/-! # Scripts of One Run

    A run on scripts takes those that stand in the command line, and then those
    in files, each with a semicolon behind it.

    * **`RunsOn`** says which scripts a run is given.
    * **`scripts_submitted_apart`**: what a run submits is what each of its
      scripts submits alone, as long as none but the last ends inside a quote or
      a block comment.
    * **`open_quote_swallows_script`**: a quote that is left open takes the next
      script in. -/

namespace SqlShell

/-- **A run on scripts**: `commands` stand in the command line, and `files` are
    the texts of the files that it names. -/
structure RunsOn (p : Workplace) (words : List Text) (shell : Shell) (c : Choices) (d : Database)
    (commands files : List Text) : Prop where
  opens : Opens p words shell c files d
  chosen : c.commands = commands.map some
  given : commands ++ files ≠ []

namespace Shell

section Sources

variable {p : Workplace} {words : List Text} {shell : Shell} {c : Choices} {d : Database}
  {commands files : List Text}

theorem hasScripts_of_runsOn (h : RunsOn p words shell c d commands files) :
    c.hasScripts = true := by
  unfold Choices.hasScripts
  rw [h.chosen]
  by_cases hcommands : commands = []
  · have hfiles : files ≠ [] := by
      have hgiven := h.given
      rwa [hcommands, List.nil_append] at hgiven
    have hread := h.opens.read
    cases hc : c.files with
    | nil =>
      rw [hc] at hread
      exact absurd (Except.ok.inj hread).symm hfiles
    | cons path paths => simp
  · simp [hcommands]

/-- **The input of a run on scripts**: those of the command line, then those of
    the files. -/
theorem inputOf_scripts (h : RunsOn p words shell c d commands files) :
    inputOf p c files = (commands ++ files).flatMap itemsOfScript := by
  rw [inputOf, if_pos (hasScripts_of_runsOn h), h.chosen, ← List.map_append, List.flatMap_map]
  rfl

/-- **What a run on scripts submits** are the statements of each of them. -/
theorem submits_scripts (scripts : List Text) {last : Text}
    (h : RunsOn p words shell c d commands files) (hsources : commands ++ files = scripts ++ [last])
    (hfree : ∀ script ∈ scripts ++ [last], HoldsNoCommand (itemsOfScript script))
    (hclosed : ∀ script ∈ scripts, leavesOpen script = false) :
    Ensures (runProgram p words) shell fun _ after =>
      RunSubmits shell (p.engineOf c d) ((scripts ++ [last]).flatMap statementsOfScript)
        (leftOver (itemsOfScript last)) after := by
  obtain ⟨hstatements, hleft⟩ := statementsOfInput_scripts last hclosed
  have hinput : inputOf p c files = (scripts ++ [last]).flatMap itemsOfScript := by
    rw [inputOf_scripts h, hsources]
  have hplain : ∀ item ∈ inputOf p c files, item.IsPlain := by
    rw [hinput]
    intro item hitem
    obtain ⟨script, -, hitem⟩ := List.mem_flatMap.1 hitem
    exact isPlain_of_mem_itemsOfScript hitem
  have hnone : HoldsNoCommand (inputOf p c files) := by
    rw [hinput]
    exact holdsNoCommand_scripts hfree hclosed
  have hsubmits := submits_runProgram h.opens hplain hnone
  rw [hinput, hstatements, hleft] at hsubmits
  exact hsubmits

end Sources

/-- **Scripts do not run together**, if none of them but the last ends inside a
    quote or a block comment.  When nothing in them is a command, a run submits
    the statements of those in the command line and then of those in files, each
    script's as if that script was run alone.  If the last one is left open that
    is told, and nothing is done about it. -/
theorem scripts_submitted_apart {p : Workplace} {words : List Text} {shell : Shell} {c : Choices}
    {d : Database} {commands files : List Text} (h : RunsOn p words shell c d commands files)
    (hfree : ∀ script ∈ commands ++ files, HoldsNoCommand (itemsOfScript script))
    (hclosed : ∀ script ∈ (commands ++ files).dropLast, leavesOpen script = false) :
    (Ensures (runProgram p words) shell fun _ after =>
      RunSubmits shell (p.engineOf c d) ((commands ++ files).flatMap statementsOfScript)
        (leftOver (itemsOfScript ((commands ++ files).getLast h.given))) after) ∧
    ∀ script ∈ commands ++ files, ∀ (q : Workplace) (alone : List Text) (other : Shell)
        (choices : Choices) (e : Database) (commands files : List Text),
      commands ++ files = [script] → RunsOn q alone other choices e commands files →
      Ensures (runProgram q alone) other fun _ after =>
        RunSubmits other (q.engineOf choices e) (statementsOfScript script)
          (leftOver (itemsOfScript script)) after := by
  have hsources := List.dropLast_append_getLast h.given
  constructor
  · have hsubmits := submits_scripts _ h hsources.symm (hsources.symm ▸ hfree) hclosed
    rw [hsources] at hsubmits
    exact hsubmits
  · intro script hscript q alone other choices e commands files hone hruns
    have hsubmits := submits_scripts [] hruns hone
      (by simpa using hfree script hscript) (by simp)
    rw [List.nil_append, List.flatMap_singleton] at hsubmits
    exact hsubmits

/-- A database whose statements have no result. -/
@[irreducible] def silentDatabase : Database := fun _ => .ok { columns := none, rows := [] }

/-- A workplace with that database. -/
def silentWorkplace : Workplace where
  connect := fun _ => .ok silentDatabase

/-- A command line with two scripts, which keeps no history. -/
def twoScripts (first second : String) : List Text :=
  ["--no-history".toList, "-c".toList, first.toList, "-c".toList, second.toList]

/-- What it chooses. -/
def choicesOfTwo (first second : String) : Choices where
  commands := [some first.toList, some second.toList]
  noHistory := true

theorem runsOn_twoScripts (first second : String)
    (h : CommandLine.parse (twoScripts first second) = .ok (choicesOfTwo first second)) :
    RunsOn silentWorkplace (twoScripts first second) freshShell (choicesOfTwo first second)
      silentDatabase [first.toList, second.toList] [] where
  opens :=
    { parsed := h
      log := by
        intro path hpath
        cases hpath
      possible := rfl
      read := rfl
      connected := rfl
      format := by
        show (InitialFormat.resolve (.named "table".toList)).isOk = true
        decide
      unattended := .inl rfl
      console := isFaultless_freshShell
      buffer := rfl }
  chosen := rfl
  given := by simp

/-- **On the silent database** all the texts are submitted. -/
theorem offers_of_submits {p : Workplace} {words : List Text} {c : Choices} {texts : List Text}
    {left : Except Unterminated (Option Text)}
    (h : Ensures (runProgram p words) freshShell fun _ after =>
      RunSubmits freshShell (p.engineOf c silentDatabase) texts left after) :
    Ensures (runProgram p words) freshShell fun _ after => after.console.offers = texts := by
  refine h.mono ?_
  intro _ after hafter
  obtain ⟨xs, hoffers, -, hxs⟩ := hafter
  have hbefore : freshShell.console.offers = [] := rfl
  rw [hbefore, List.nil_append] at hoffers
  rcases hxs with ⟨hall, -⟩ | ⟨-, earlier, statement, stream, -, hsubmit, hending⟩
  · rw [hoffers, hall]
  · unfold silentDatabase at hsubmit
    cases hsubmit
    cases hending

/-- A comment ends with its script, and the last script may be left open. -/
theorem scripts_submitted_apart_comment :
    RunsOn silentWorkplace (twoScripts "select 1; select 2 -- two" "select 3; select 'a") freshShell
      (choicesOfTwo "select 1; select 2 -- two" "select 3; select 'a") silentDatabase
      ["select 1; select 2 -- two".toList, "select 3; select 'a".toList] [] ∧
    Ensures (runProgram silentWorkplace
        (twoScripts "select 1; select 2 -- two" "select 3; select 'a")) freshShell fun _ after =>
      after.console.offers
        = ["select 1".toList, "select 2 -- two".toList, "select 3".toList] := by
  have hruns := runsOn_twoScripts "select 1; select 2 -- two" "select 3; select 'a"
    (by decide +kernel)
  have hfree : ∀ script ∈ ["select 1; select 2 -- two".toList, "select 3; select 'a".toList] ++ [],
      HoldsNoCommand (itemsOfScript script) := by
    decide +kernel
  have hclosed : ∀ script ∈ (["select 1; select 2 -- two".toList,
      "select 3; select 'a".toList] ++ []).dropLast, leavesOpen script = false := by
    decide +kernel
  have htexts : (["select 1; select 2 -- two".toList, "select 3; select 'a".toList]
      ++ []).flatMap statementsOfScript
      = ["select 1".toList, "select 2 -- two".toList, "select 3".toList] := by
    decide +kernel
  obtain ⟨hsubmits, -⟩ := scripts_submitted_apart hruns hfree hclosed
  rw [htexts] at hsubmits
  exact ⟨hruns, offers_of_submits hsubmits⟩

/-- **A quote that is left open swallows the next script.**  Alone, each of the
    two scripts submits its statements, of which the second one has one; the run
    on both of them submits nothing. -/
theorem open_quote_swallows_script :
    RunsOn silentWorkplace (twoScripts "select 'a" "select 1") freshShell
      (choicesOfTwo "select 'a" "select 1") silentDatabase
      ["select 'a".toList, "select 1".toList] [] ∧
    (∀ script ∈ ["select 'a".toList, "select 1".toList], HoldsNoCommand (itemsOfScript script)) ∧
    ["select 'a".toList, "select 1".toList].flatMap statementsOfScript = ["select 1".toList] ∧
    Ensures (runProgram silentWorkplace (twoScripts "select 'a" "select 1")) freshShell
      fun _ after => after.console.offers = [] := by
  have hruns := runsOn_twoScripts "select 'a" "select 1" (by decide +kernel)
  have hplain : ∀ item ∈ inputOf silentWorkplace (choicesOfTwo "select 'a" "select 1") [],
      item.IsPlain := by
    decide +kernel
  have hnone : HoldsNoCommand
      (inputOf silentWorkplace (choicesOfTwo "select 'a" "select 1") []) := by
    decide +kernel
  have htexts : statementsOfInput (inputOf silentWorkplace (choicesOfTwo "select 'a" "select 1") [])
      = [] := by
    decide +kernel
  have hsubmits := submits_runProgram hruns.opens hplain hnone
  rw [htexts] at hsubmits
  exact ⟨hruns, by decide +kernel, by decide +kernel, offers_of_submits hsubmits⟩

end Shell

end SqlShell
