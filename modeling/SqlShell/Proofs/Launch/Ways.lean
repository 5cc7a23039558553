import SqlShell.Proofs.Launch.Sources

/-! # Three Ways to Give a Script

    A script stands in the command line, or in a file, or comes from the
    standard input.

    * **`IsGiven`** says how a run comes by its script.
    * **`ways_agree`**: the statements that are submitted depend on the text of
      the script only, as long as line feeds are its only line breaks.
    * **`literal_changed_in_command`**: another line break in a literal is
      written as a line feed, unless the script comes from the standard input. -/

namespace SqlShell

/-- How a script is given. -/
inductive Way where
  /-- It stands in the command line. -/
  | command
  /-- It is the text of a file. -/
  | file
  /-- It comes from the standard input. -/
  | stream
deriving DecidableEq, Repr

/-- The items of input that a script comes as. -/
def Way.items : Way → Text → List InputLine
  | command | file => itemsOfScript
  | stream => itemsOfStream

/-- **A run is given one script**, and nothing else to do. -/
inductive IsGiven (p : Workplace) (words : List Text) (shell : Shell) (c : Choices) (d : Database)
    (text : Text) : Way → Prop where
  | command (opens : Opens p words shell c [] d) (hcommands : c.commands = [some text]) :
    IsGiven p words shell c d text .command
  | file (path : Text) (content : List UInt8) (scripts : List Text)
    (opens : Opens p words shell c scripts d) (hcommands : c.commands = [])
    (hfiles : c.files = [some path]) (hread : (p.filesWithLog c).read path = .ok content)
    (htext : Utf8.decode content = .ok text) : IsGiven p words shell c d text .file
  | stream (opens : Opens p words shell c [] d) (hnone : c.hasScripts = false)
    (hinput : p.input = itemsOfStream text) : IsGiven p words shell c d text .stream

namespace Shell

section Ways

variable {p : Workplace} {words : List Text} {shell : Shell} {c : Choices} {d : Database}
  {text : Text} {way : Way}

/-- The script in the file is its text, which has no line ends to unify. -/
theorem scripts_eq_singleton {t : FileTree} {path : Text} {content : List UInt8}
    (hread : t.read path = .ok content) (htext : Utf8.decode content = .ok text)
    (hreturn : '\r' ∉ text) : t.scripts [some path] = .ok [text] := by
  have hscript : t.script path = .ok text := by
    rw [FileTree.script, hread]
    dsimp only
    rw [htext]
    dsimp only
    rw [Text.unifyLineEnds_eq_self hreturn]
  rw [FileTree.scripts, hscript]
  rfl

/-- **The input of a run that is given one script.** -/
theorem exists_opens (h : IsGiven p words shell c d text way) (hreturn : '\r' ∉ text) :
    ∃ scripts, Opens p words shell c scripts d ∧ inputOf p c scripts = way.items text := by
  cases h with
  | command opens hcommands =>
    have hruns : RunsOn p words shell c d [text] [] := ⟨opens, hcommands, by simp⟩
    refine ⟨[], opens, ?_⟩
    rw [inputOf_scripts hruns, List.append_nil, List.flatMap_singleton]
    rfl
  | file path content scripts opens hcommands hfiles hread htext =>
    have hone := scripts_eq_singleton hread htext hreturn
    rw [← hfiles, opens.read] at hone
    obtain rfl := Except.ok.inj hone
    have hruns : RunsOn p words shell c d [] [text] := ⟨opens, hcommands, by simp⟩
    refine ⟨[text], opens, ?_⟩
    rw [inputOf_scripts hruns, List.nil_append, List.flatMap_singleton]
    rfl
  | stream opens hnone hinput =>
    refine ⟨[], opens, ?_⟩
    rw [inputOf, hnone]
    exact hinput

theorem isPlain_of_mem_items {item : InputLine} (h : item ∈ way.items text) : item.IsPlain := by
  cases way with
  | stream =>
    obtain ⟨line, hline, rfl⟩ := List.mem_map.1 h
    exact isLine_of_mem_streamLines hline
  | command | file => exact isPlain_of_mem_itemsOfScript h

/-- **What is submitted** are the statements of the items that the script comes as. -/
theorem submits_given (h : IsGiven p words shell c d text way) (hreturn : '\r' ∉ text)
    (hnone : HoldsNoCommand (way.items text)) :
    Ensures (runProgram p words) shell fun _ after =>
      RunSubmits shell (p.engineOf c d) (statementsOfInput (way.items text))
        (leftOver (way.items text)) after := by
  obtain ⟨scripts, hopens, hinput⟩ := exists_opens h hreturn
  rw [← hinput] at hnone ⊢
  apply submits_runProgram hopens _ hnone
  rw [hinput]
  intro item hitem
  exact isPlain_of_mem_items hitem

/-- The three ways give the same statements, and no commands. -/
theorem statementsOfInput_items (hreturn : '\r' ∉ text)
    (hbreaks : way = .stream → text.BreaksAtLineFeeds)
    (hfree : HoldsNoCommand (itemsOfScript text)) :
    statementsOfInput (way.items text) = statementsOfScript text ∧
      HoldsNoCommand (way.items text) := by
  cases way with
  | stream =>
    have hsame := Text.withLineFeeds_eq_self (hbreaks rfl)
    have hstatements := statementsOfInput_stream hreturn
    have hnone := holdsNoCommand_stream hreturn hfree
    rw [hsame] at hstatements hnone
    exact ⟨hstatements, hnone⟩
  | command | file => exact ⟨rfl, hfree⟩

end Ways

/-- **It makes no difference how a script is given.**  Without carriage returns
    and without commands, a script in the command line and one in a file submit
    the same statements, and so does one from the standard input if line feeds
    are its only line breaks.  If it leaves nothing open these are the statements
    of its text; and then no character is changed on the way: one scan over the
    text itself finds them. -/
theorem ways_agree {p : Workplace} {words : List Text} {shell : Shell} {c : Choices} {d : Database}
    {text : Text} {way : Way} (h : IsGiven p words shell c d text way) (hreturn : '\r' ∉ text)
    (hbreaks : way = .stream → text.BreaksAtLineFeeds)
    (hfree : HoldsNoCommand (itemsOfScript text)) :
    (Ensures (runProgram p words) shell fun _ after =>
      RunSubmits shell (p.engineOf c d) (statementsOfScript text) (leftOver (way.items text))
        after) ∧
    (∀ texts, statementsOfText text = .ok texts → statementsOfScript text = texts) ∧
    (text.BreaksAtLineFeeds → statementsOfScript text
      = (wholeScan (withLastEnd text)).1 ++ tailOf (wholeScan (withLastEnd text)).2) := by
  obtain ⟨hstatements, hnone⟩ := statementsOfInput_items hreturn hbreaks hfree
  refine ⟨?_, ?_, ?_⟩
  · rw [← hstatements]
    exact submits_given h hreturn hnone
  · intro texts htexts
    obtain ⟨-, hlines⟩ := statementsOfInput_lines (Text.lines text)
    rw [statementsOfScript_eq_lines]
    rw [statementsOfText, hlines] at htexts
    cases hleft : leftOver ((Text.lines text).map .line) with
    | ok tail =>
      rw [hleft] at htexts
      exact Except.ok.inj htexts
    | error e =>
      rw [hleft] at htexts
      cases htexts
  · intro hplain
    have hstream := statementsOfInput_stream hreturn
    rw [Text.withLineFeeds_eq_self hplain] at hstream
    rw [← hstream, statementsOfInput_stream_eq_wholeScan hreturn]

/-- A workplace with a script on the standard input, and with a file. -/
def scriptWorkplace (text : Text) (content : List UInt8) : Workplace where
  files := { nodes := [([['s']], .file content)] }
  input := itemsOfStream text
  connect := fun _ => .ok silentDatabase

/-- The command line that gives the script in some way, and keeps no history. -/
def wordsOf (text : Text) : Way → List Text
  | .command => ["--no-history".toList, "-c".toList, text]
  | .file => ["--no-history".toList, "-f".toList, "s".toList]
  | .stream => ["--no-history".toList]

/-- What it chooses. -/
def choicesOf (text : Text) : Way → Choices
  | .command => { commands := [some text], noHistory := true }
  | .file => { files := [some "s".toList], noHistory := true }
  | .stream => { noHistory := true }

theorem opens_scriptWorkplace {text : Text} {content : List UInt8} {way : Way}
    {scripts : List Text}
    (hparsed : CommandLine.parse (wordsOf text way) = .ok (choicesOf text way))
    (hread : (scriptWorkplace text content).files.scripts (choicesOf text way).files
      = .ok scripts) :
    Opens (scriptWorkplace text content) (wordsOf text way) freshShell (choicesOf text way) scripts
      silentDatabase where
  parsed := hparsed
  log := by
    intro path hpath
    cases way <;> cases hpath
  possible := by cases way <;> rfl
  read := by cases way <;> exact hread
  connected := rfl
  format := by
    have hformat : Given.shown (choicesOf text way).format = "table".toList := by
      cases way <;> rfl
    rw [hformat]
    decide
  unattended := .inr rfl
  console := isFaultless_freshShell
  buffer := rfl

/-- A script with a semicolon and a line feed in a literal. -/
@[irreducible] def brokenLiteral : Text := "select 'a;\nb'; select 2 -- two".toList

/-- The file that holds it. -/
@[irreducible] def brokenLiteralFile : List UInt8 := brokenLiteral.map fun c => c.toNat.toUInt8

/-- The literal is submitted as it is, whichever way it comes. -/
theorem ways_agree_broken_literal :
    (Ensures (runProgram (scriptWorkplace brokenLiteral brokenLiteralFile)
        (wordsOf brokenLiteral .command)) freshShell fun _ after =>
      after.console.offers = ["select 'a;\nb'".toList, "select 2 -- two".toList]) ∧
    (Ensures (runProgram (scriptWorkplace brokenLiteral brokenLiteralFile)
        (wordsOf brokenLiteral .file)) freshShell fun _ after =>
      after.console.offers = ["select 'a;\nb'".toList, "select 2 -- two".toList]) ∧
    (Ensures (runProgram (scriptWorkplace brokenLiteral brokenLiteralFile)
        (wordsOf brokenLiteral .stream)) freshShell fun _ after =>
      after.console.offers = ["select 'a;\nb'".toList, "select 2 -- two".toList]) := by
  have hread : (scriptWorkplace brokenLiteral brokenLiteralFile).files.read "s".toList
      = .ok brokenLiteralFile := by
    decide +kernel
  have htext : Utf8.decode brokenLiteralFile = .ok brokenLiteral := by
    have hsome : (Utf8.decode brokenLiteralFile).toOption = some brokenLiteral := by
      unfold brokenLiteralFile brokenLiteral
      decide +kernel
    cases hdecoded : Utf8.decode brokenLiteralFile with
    | ok text =>
      rw [hdecoded] at hsome
      exact congrArg Except.ok (Option.some.inj hsome)
    | error f =>
      rw [hdecoded] at hsome
      cases hsome
  have hreturn : '\r' ∉ brokenLiteral := by
    unfold brokenLiteral
    decide +kernel
  have hbreaks : brokenLiteral.BreaksAtLineFeeds := by
    unfold brokenLiteral
    decide +kernel
  have hfree : HoldsNoCommand (itemsOfScript brokenLiteral) := by
    unfold brokenLiteral
    decide +kernel
  have hstatements : statementsOfScript brokenLiteral
      = ["select 'a;\nb'".toList, "select 2 -- two".toList] := by
    unfold brokenLiteral
    decide +kernel
  have hgiven : ∀ way, IsGiven (scriptWorkplace brokenLiteral brokenLiteralFile)
      (wordsOf brokenLiteral way) freshShell (choicesOf brokenLiteral way) silentDatabase
      brokenLiteral way := by
    intro way
    cases way with
    | command =>
      exact .command (opens_scriptWorkplace (by unfold brokenLiteral; decide +kernel) rfl) rfl
    | file =>
      exact .file "s".toList brokenLiteralFile [brokenLiteral]
        (opens_scriptWorkplace (by decide +kernel) (scripts_eq_singleton hread htext hreturn)) rfl
        rfl hread htext
    | stream => exact .stream (opens_scriptWorkplace (by decide +kernel) rfl) rfl rfl
  have hall : ∀ way, Ensures (runProgram (scriptWorkplace brokenLiteral brokenLiteralFile)
      (wordsOf brokenLiteral way)) freshShell fun _ after =>
        after.console.offers = ["select 'a;\nb'".toList, "select 2 -- two".toList] := by
    intro way
    obtain ⟨hsubmits, -⟩ := ways_agree (hgiven way) hreturn (fun _ => hbreaks) hfree
    rw [hstatements] at hsubmits
    exact offers_of_submits hsubmits
  exact ⟨hall .command, hall .file, hall .stream⟩

/-- A script with another line break in a literal. -/
@[irreducible] def separatedLiteral : Text := "select 'a\u2028b'".toList

/-- **A literal is changed in the command line**: where it holds a line break that
    is no line feed, a line feed is submitted.  From the standard input it is
    submitted as it is. -/
theorem literal_changed_in_command :
    IsGiven (scriptWorkplace separatedLiteral []) (wordsOf separatedLiteral .command) freshShell
      (choicesOf separatedLiteral .command) silentDatabase separatedLiteral .command ∧
    IsGiven (scriptWorkplace separatedLiteral []) (wordsOf separatedLiteral .stream) freshShell
      (choicesOf separatedLiteral .stream) silentDatabase separatedLiteral .stream ∧
    '\r' ∉ separatedLiteral ∧ HoldsNoCommand (itemsOfScript separatedLiteral) ∧
    (Ensures (runProgram (scriptWorkplace separatedLiteral [])
        (wordsOf separatedLiteral .command)) freshShell fun _ after =>
      after.console.offers = ["select 'a\nb'".toList]) ∧
    (Ensures (runProgram (scriptWorkplace separatedLiteral [])
        (wordsOf separatedLiteral .stream)) freshShell fun _ after =>
      after.console.offers = [separatedLiteral]) := by
  have hreturn : '\r' ∉ separatedLiteral := by
    unfold separatedLiteral
    decide +kernel
  have hscript : HoldsNoCommand (itemsOfScript separatedLiteral) ∧
      statementsOfInput (itemsOfScript separatedLiteral) = ["select 'a\nb'".toList] := by
    unfold separatedLiteral
    decide +kernel
  have hpiped : HoldsNoCommand (itemsOfStream separatedLiteral) ∧
      statementsOfInput (itemsOfStream separatedLiteral) = [separatedLiteral] := by
    unfold separatedLiteral
    decide +kernel
  have hcommand : IsGiven (scriptWorkplace separatedLiteral [])
      (wordsOf separatedLiteral .command) freshShell (choicesOf separatedLiteral .command)
      silentDatabase separatedLiteral .command :=
    .command (opens_scriptWorkplace (by unfold separatedLiteral; decide +kernel) rfl) rfl
  have hstream : IsGiven (scriptWorkplace separatedLiteral [])
      (wordsOf separatedLiteral .stream) freshShell (choicesOf separatedLiteral .stream)
      silentDatabase separatedLiteral .stream :=
    .stream (opens_scriptWorkplace (by decide +kernel) rfl) rfl rfl
  have hchanged := offers_of_submits (submits_given hcommand hreturn hscript.1)
  have hsame := offers_of_submits (submits_given hstream hreturn hpiped.1)
  refine ⟨hcommand, hstream, hreturn, hscript.1, ?_, ?_⟩
  · rw [← hscript.2]
    exact hchanged
  · have hitems : statementsOfInput (Way.stream.items separatedLiteral) = [separatedLiteral] :=
      hpiped.2
    rw [← hitems]
    exact hsame

end Shell

end SqlShell
