import SqlShell.Proofs.Session.Buffering
import SqlShell.Proofs.Session.Looping
import SqlShell.Proofs.Session.Recognition
import SqlShell.Proofs.Session.Rendering

/-! # What Lines Come To

    Between two requests the shell asks for lines and puts them together.  Two
    ways to write the same commands may differ in that, **but in nothing else**.

    * **`Step`** is a request, or one of the things in between, and **`carryOut`**
      takes several steps, as long as the session runs.
    * **`Handles`** says that the main loop handles certain requests for some
      lines, and does nothing else but ask for lines and assemble them.
    * **`handles_line`** is one line, and `Handles.append` puts lines together.
    * **`commands_on_one_line`** compares several commands on one line with the
      same commands on a line each, and **`handles_takesLine`** says what comes of
      the line if its first command takes it along. -/

namespace SqlShell

/-! ## Plans -/

/-- **What the shell does with lines**, piece by piece. -/
inductive Step where
  /-- A line is asked for. -/
  | ask
  /-- The line is cut into commands and statements. -/
  | assemble
  /-- A request is handled. -/
  | handle (input : Input)
deriving DecidableEq, Repr

/-- The request that is handled in a step. -/
def Step.handled? : Step → Option Input
  | .handle input => some input
  | .ask | .assemble => none

/-- The requests that are handled in some steps. -/
def handledIn (plan : List Step) : List Input := plan.filterMap Step.handled?

theorem mem_handledIn {plan : List Step} {input : Input} :
    input ∈ handledIn plan ↔ .handle input ∈ plan := by
  rw [handledIn, List.mem_filterMap]
  constructor
  · rintro ⟨step, hstep, hinput⟩
    cases step with
    | handle other =>
      cases hinput
      exact hstep
    | ask | assemble => cases hinput
  · intro h
    exact ⟨_, h, rfl⟩

namespace Shell

/-- Takes a step. -/
def take : Step → ShellM Unit
  | .ask => do ask ((← get).surroundings.patience + 2)
  | .assemble => enterPhase .assembling
  | .handle input => handle input

/-- **Carries a plan out**, as long as the session runs. -/
def carryOut : List Step → ShellM Unit
  | [] => pure ()
  | step :: rest => do
    if (← get).session.running then
      take step
      carryOut rest

/-- **The main loop handles some requests for some lines**: it carries out a plan
    with these requests, in this order, and goes on behind the lines.

    Nothing is being entered when they come, so the buffer is empty: between two
    lines an idle buffer is (`StatementBuffer.AtRest.idle`). -/
def Handles (lines : List Text) (inputs : List Input) : Prop :=
  ∃ plan, handledIn plan = inputs ∧ ∀ (shell : Shell) (rest : List InputLine),
    shell.buffer = .empty →
    loop (lines.map .line ++ rest) shell = (carryOut plan >>= fun _ => loop rest) shell

section Plans

variable {α β : Type} {shell : Shell}

theorem carryOut_of_left (plan : List Step) (h : shell.session.running = false) :
    carryOut plan shell = .ok () shell := by
  cases plan with
  | nil => rfl
  | cons step rest =>
    show (if shell.session.running = true then take step >>= fun _ => carryOut rest
      else pure ()) shell = _
    rw [h]
    rfl

theorem carryOut_of_running (step : Step) (rest : List Step) (h : shell.session.running = true) :
    carryOut (step :: rest) shell = (take step >>= fun _ => carryOut rest) shell := by
  show (if shell.session.running = true then take step >>= fun _ => carryOut rest
    else pure ()) shell = _
  rw [if_pos h]

/-- A plan behind a plan is carried out behind it. -/
theorem carryOut_append (plan plan' : List Step) :
    carryOut (plan ++ plan') = carryOut plan >>= fun _ => carryOut plan' := by
  induction plan with
  | nil => rfl
  | cons step rest ih =>
    funext shell
    cases hrunning : shell.session.running with
    | false =>
      rw [bind_of_ok (carryOut_of_left (step :: rest) hrunning), carryOut_of_left _ hrunning,
        carryOut_of_left _ hrunning]
    | true =>
      rw [List.cons_append, carryOut_of_running step _ hrunning, ih,
        bind_congr_state (carryOut_of_running step rest hrunning), bind_assoc]

/-- Texts are handled like a plan that asks for nothing else. -/
theorem handleAll_eq (texts : List Text) :
    handleAll texts = carryOut (texts.map fun text => .handle (Input.ofText text)) := by
  induction texts with
  | nil => rfl
  | cons text rest ih =>
    rw [List.map_cons, carryOut, handleAll, ih]
    rfl

/-! ## Between two statements -/

/-- **Nothing is being entered**, and the session is as it is given. -/
def IsIdle (session : Session) (shell : Shell) : Prop :=
  shell.session = session ∧ shell.buffer = .empty

/-- **The action leaves an idle shell idle**, however it ends. -/
def Idles (action : ShellM α) : Prop :=
  ∀ session shell, IsIdle session shell → Ensures action shell fun _ after => IsIdle session after

theorem Idles.bind {action : ShellM α} {next : α → ShellM β} (h : Idles action)
    (h' : ∀ a, Idles (next a)) : Idles (action >>= next) := by
  intro session shell hidle
  rw [ensures_bind]
  refine (h session shell hidle).mono ?_
  intro ended after hafter
  cases ended with
  | ok a => exact h' a session after hafter
  | error e => exact hafter

theorem Keeps.idles {action : ShellM α}
    (h : Keeps (fun shell => (shell.session, shell.buffer)) action) : Idles action := by
  rintro session shell ⟨rfl, hbuffer⟩
  refine (h shell).mono ?_
  intro ended after hafter
  obtain ⟨hsession, hsame⟩ := Prod.mk.inj hafter
  exact ⟨hsession, hsame.trans hbuffer⟩

theorem idles_discard : Idles discard := by
  have hempty : Idles (modify fun shell => { shell with buffer := .empty }) := by
    rintro session shell ⟨hsession, -⟩
    exact ⟨hsession, rfl⟩
  have hput (text : Text) : Keeps (fun shell => (shell.session, shell.buffer)) (put .out text) :=
    fun _ => rfl
  refine hempty.bind fun _ => keeps_get.idles.bind ?_
  intro shell
  split
  · exact (keeps_write hput _).idles
  · exact (keeps_pure _).idles

/-- **A question for a line** leaves an idle shell idle, also if its prompt is
    interrupted and it is put again. -/
theorem idles_ask (fuel : Nat) : Idles (ask fuel) := by
  induction fuel with
  | zero => exact (keeps_throw _).idles
  | succ fuel ih =>
    have hprompted (prompt : Text) : Idles (prompted fuel prompt) := by
      refine Idles.bind (Keeps.idles fun _ => rfl) ?_
      intro fault
      split
      · exact (keeps_pure _).idles
      · exact (keeps_throw _).idles
      · exact idles_discard.bind fun _ => ih
    have hquestion : Idles (question fuel) := by
      refine keeps_get.idles.bind fun shell => Idles.bind (Keeps.idles fun _ => rfl) fun _ => ?_
      split
      · exact hprompted _
      · exact (keeps_pure _).idles
    have hphase : Idles (enterPhase .awaitingInput) := by
      apply Keeps.idles
      exact keeps_enterPhase ⟨fun _ _ _ => rfl, fun _ _ => rfl⟩ (fun _ _ => rfl) _
    have hask : ask (fuel + 1) = (do
        if !(← get).buffer.inProgress then enterPhase .awaitingInput
        question fuel) := rfl
    rw [hask]
    refine keeps_get.idles.bind ?_
    intro shell
    split
    · exact hphase.bind fun _ => hquestion
    · exact hquestion

/-- **A plan** leaves the buffer empty. -/
theorem ensures_carryOut (plan : List Step) (hempty : shell.buffer = .empty) :
    Ensures (carryOut plan) shell fun _ after => after.buffer = .empty := by
  have htake (step : Step) {shell : Shell} (hempty : shell.buffer = .empty) :
      Ensures (take step) shell fun _ after => after.buffer = .empty := by
    cases step with
    | ask => exact (idles_ask _ shell.session shell ⟨rfl, hempty⟩).mono fun _ _ h => h.2
    | assemble => exact (unbuffered_enterPhase .assembling shell).mono fun _ _ h => h.trans hempty
    | handle input => exact (unbuffered_handle input shell).mono fun _ _ h => h.trans hempty
  induction plan generalizing shell with
  | nil => exact hempty
  | cons step rest ih =>
    rw [carryOut, ensures_bind, ensures_get]
    dsimp only
    split
    · rw [ensures_bind]
      refine (htake step hempty).mono ?_
      intro ended after hafter
      cases ended with
      | ok => exact ih hafter
      | error e => exact hafter
    · exact hempty

/-! ## Lines -/

/-- A turn of the main loop is a question, and a plan if the line is dealt with
    like one. -/
theorem turn_eq_carryOut {answer : ShellM Unit} {plan : List Step} (hempty : shell.buffer = .empty)
    (hanswer : ∀ asked : Shell, asked.buffer = .empty → asked.session.running = true →
      answer asked = carryOut plan asked) :
    turn answer shell = carryOut (.ask :: plan) shell := by
  have hturn : turn answer shell = (if shell.session.running then
      (ask (shell.surroundings.patience + 2) >>= fun _ => answer : ShellM Unit)
      else pure ()) shell := rfl
  cases hrunning : shell.session.running with
  | false =>
    rw [carryOut_of_left _ hrunning, hturn, hrunning]
    rfl
  | true =>
    have hturn : turn answer shell = (take .ask >>= fun _ => answer) shell := by
      rw [hturn, hrunning]
      rfl
    rw [hturn, carryOut_of_running .ask plan hrunning]
    have hidle := idles_ask (shell.surroundings.patience + 2) shell.session shell ⟨rfl, hempty⟩
    have hask : Ensures (take .ask) shell fun _ asked => IsIdle shell.session asked := hidle
    unfold Ensures at hask
    cases hended : take .ask shell with
    | error e asked => rw [bind_of_error hended, bind_of_error hended]
    | ok a asked =>
      rw [hended] at hask
      obtain ⟨hsession, hempty⟩ := hask
      rw [bind_of_ok hended, bind_of_ok hended, hanswer asked hempty (hsession ▸ hrunning)]

/-- A line that is a command is handled at once. -/
theorem readLine_of_command {line : Text} {c : ShellCommand} (hc : Input.ofText line = .command c)
    (hempty : shell.buffer = .empty) : readLine line shell = handle (.command c) shell := by
  have hget : (get : ShellM Shell) shell = .ok shell shell := rfl
  rw [readLine, bind_of_ok hget, hc, hempty]
  rfl

/-- Any other line is put together first. -/
theorem readLine_of_not_command {line : Text} {texts : List Text}
    (hnone : ∀ c, Input.ofText line ≠ .command c)
    (htake : StatementBuffer.empty.takeLine line = (texts, .empty))
    (hempty : shell.buffer = .empty) :
    readLine line shell = (take .assemble >>= fun _ => handleAll texts) shell := by
  have hget : (get : ShellM Shell) shell = .ok shell shell := rfl
  have hassemble : (do
      enterPhase .assembling
      modify fun shell => { shell with buffer := .empty }
      handleAll texts : ShellM Unit) shell = (take .assemble >>= fun _ => handleAll texts) shell := by
    have hphase := unbuffered_enterPhase .assembling shell
    unfold Ensures at hphase
    show _ = (enterPhase .assembling >>= _) shell
    cases hended : enterPhase .assembling shell with
    | error e after => rw [bind_of_error hended, bind_of_error hended]
    | ok a after =>
      rw [hended] at hphase
      -- What is left of the line is the buffer that was there.
      have hset : { after with buffer := .empty } = after := by
        rw [← hempty, ← hphase]
      rw [bind_of_ok hended, bind_of_ok hended]
      show handleAll texts { after with buffer := .empty } = handleAll texts after
      rw [hset]
  rw [readLine, bind_of_ok hget, hempty, htake]
  cases hinput : Input.ofText line with
  | command c => exact absurd hinput (hnone c)
  | statement _ | empty => exact hassemble

/-- **What a line is read for** is handled. -/
theorem handles_line {line : Text} {inputs : List Input}
    (h : StatementBuffer.empty.readOff line = (inputs, .empty)) : Handles [line] inputs := by
  have hturn (plan : List Step) (hplan : handledIn plan = inputs)
      (hread : ∀ asked : Shell, asked.buffer = .empty → asked.session.running = true →
        readLine line asked = carryOut plan asked) : Handles [line] inputs := by
    refine ⟨.ask :: plan, hplan, ?_⟩
    intro shell rest hempty
    exact bind_congr_state (turn_eq_carryOut hempty hread)
  by_cases hcommand : ∃ c, Input.ofText line = .command c
  · obtain ⟨c, hc⟩ := hcommand
    rw [StatementBuffer.readOff_command hc rfl] at h
    obtain ⟨rfl, -⟩ := Prod.mk.inj h
    apply hturn [.handle (.command c)] rfl
    intro asked hempty hrunning
    rw [readLine_of_command hc hempty, carryOut_of_running _ _ hrunning, carryOut, bind_pure_unit]
    rfl
  · rw [not_exists] at hcommand
    rw [StatementBuffer.readOff_of_not_command fun c hc _ => hcommand c hc] at h
    obtain ⟨rfl, hleft⟩ := Prod.mk.inj h
    apply hturn (.assemble
      :: (StatementBuffer.empty.takeLine line).1.map fun text => .handle (Input.ofText text))
    · rw [handledIn, List.filterMap_cons_none rfl, List.filterMap_map]
      exact congrFun List.filterMap_eq_map _
    intro asked hempty hrunning
    rw [readLine_of_not_command hcommand (Prod.ext rfl hleft) hempty,
      carryOut_of_running _ _ hrunning, handleAll_eq]

theorem Handles.append {lines lines' : List Text} {inputs inputs' : List Input}
    (h : Handles lines inputs) (h' : Handles lines' inputs') :
    Handles (lines ++ lines') (inputs ++ inputs') := by
  obtain ⟨plan, rfl, hplan⟩ := h
  obtain ⟨plan', rfl, hplan'⟩ := h'
  refine ⟨plan ++ plan', List.filterMap_append, ?_⟩
  intro shell rest hidle
  rw [List.map_append, List.append_assoc, hplan _ _ hidle, carryOut_append, bind_assoc]
  have hended := ensures_carryOut plan hidle
  unfold Ensures at hended
  cases hcarry : carryOut plan shell with
  | error e after => rw [bind_of_error hcarry, bind_of_error hcarry]
  | ok a after =>
    rw [hcarry] at hended
    rw [bind_of_ok hcarry, bind_of_ok hcarry]
    exact hplan' after rest hended

/-! ## Several commands -/

/-- **Commands on one line** are read off it as they are, unless the first of
    several takes the line along. -/
theorem readOff_commands {c : Text} {cs : List Text} {ending : Text}
    (hcs : ∀ d ∈ c :: cs, IsOneCommand d) (hending : Text.allBlank ending = true)
    (hfirst : cs = [] ∨ ¬ TakesLine c) :
    StatementBuffer.empty.readOff (commandLine (c :: cs) ending)
      = ((c :: cs).map Input.ofText, .empty) := by
  obtain ⟨hc, hrest⟩ := List.forall_mem_cons.1 hcs
  have hline := commandLine_cons c cs ending
  by_cases hcommand : ∃ k, Input.ofText (commandLine (c :: cs) ending) = .command k
  · obtain ⟨k, hk⟩ := hcommand
    rw [StatementBuffer.readOff_command hk rfl]
    rw [hline] at hk
    cases cs with
    | nil =>
      have hk := (ofText_line hending c k).1 hk
      rw [List.map_singleton, hk]
    | cons d rest =>
      -- Something stands behind the first command, so the line is none.
      have hsolid := (List.forall_mem_cons.1 hrest).1.exists_solid_line rest ending
      have htakes := hfirst.resolve_left (List.cons_ne_nil d rest)
      rw [← isCommand_line hc.not_blank hsolid, hk] at htakes
      exact absurd rfl htakes
  · rw [not_exists] at hcommand
    have htrim : Input.ofText ∘ Text.trim = Input.ofText := funext ofText_trim
    rw [StatementBuffer.readOff_of_not_command fun k hk _ => hcommand k hk,
      StatementBuffer.takeLine_commands hcs hending, List.map_map, htrim]

/-- **Commands on a line each** are handled one after the other. -/
theorem handles_each {cs : List Text} {ending : Text} (hcs : ∀ c ∈ cs, IsOneCommand c)
    (hending : Text.allBlank ending = true) :
    Handles (cs.map fun c => commandLine [c] ending) (cs.map Input.ofText) := by
  induction cs with
  | nil => exact ⟨[], rfl, fun _ _ _ => rfl⟩
  | cons c cs ih =>
    obtain ⟨hc, hrest⟩ := List.forall_mem_cons.1 hcs
    have hone : ∀ d ∈ [c], IsOneCommand d := fun d hd => List.mem_singleton.1 hd ▸ hc
    exact (handles_line (readOff_commands hone hending (.inl rfl))).append (ih hrest)

/-- **Several commands on one line** are handled like the same commands on a line
    each: the same commands with the same arguments, and the same statements, in
    the same order, until the session is left. -/
theorem commands_on_one_line (c : Text) (cs : List Text) (ending : Text)
    (hcs : ∀ d ∈ c :: cs, IsOneCommand d) (hending : Text.allBlank ending = true)
    (hfirst : cs = [] ∨ ¬ TakesLine c) :
    Handles [commandLine (c :: cs) ending] ((c :: cs).map Input.ofText) ∧
      Handles ((c :: cs).map fun d => commandLine [d] ending) ((c :: cs).map Input.ofText) :=
  ⟨handles_line (readOff_commands hcs hending hfirst), handles_each hcs hending⟩

/-- A query, and two commands behind it. -/
def mixedCommands : List Text := ["select 1".toList, " format csv".toList, " help".toList]

/-- What these ask for. -/
def mixedInputs : List Input :=
  [.statement "select 1".toList, .command ⟨"format".toList, "csv".toList⟩,
    .command ⟨"help".toList, []⟩]

theorem commands_on_one_line_query :
    (∀ d ∈ mixedCommands, IsOneCommand d) ∧ Text.allBlank ['\n'] = true ∧
    ¬ TakesLine "select 1".toList ∧
    Handles ["select 1; format csv; help;\n".toList] mixedInputs ∧
    Handles ["select 1;\n".toList, " format csv;\n".toList, " help;\n".toList] mixedInputs := by
  have hcs : ∀ d ∈ mixedCommands, IsOneCommand d := by decide +kernel
  have hfirst : ¬ TakesLine "select 1".toList := by decide +kernel
  have hline : commandLine mixedCommands ['\n'] = "select 1; format csv; help;\n".toList := by
    decide +kernel
  have hlines : mixedCommands.map (fun d => commandLine [d] ['\n'])
      = ["select 1;\n".toList, " format csv;\n".toList, " help;\n".toList] := by
    decide +kernel
  have hinputs : mixedCommands.map Input.ofText = mixedInputs := by decide +kernel
  have hboth := commands_on_one_line "select 1".toList [" format csv".toList, " help".toList]
    ['\n'] hcs rfl (.inr hfirst)
  change Handles [commandLine mixedCommands ['\n']] (mixedCommands.map Input.ofText) ∧
    Handles (mixedCommands.map fun d => commandLine [d] ['\n'])
      (mixedCommands.map Input.ofText) at hboth
  rw [hline, hlines, hinputs] at hboth
  exact ⟨hcs, rfl, hfirst, hboth⟩

/-! ## A command that takes its line along -/

/-- **A command that takes its line along** is all that is handled for it. -/
theorem handles_takesLine {c d : Text} (hc : IsOneCommand c) (hd : IsOneCommand d)
    (htakes : TakesLine c) (cs : List Text) (ending : Text) :
    ∃ k, Handles [commandLine (c :: d :: cs) ending] [.command k] := by
  have hcommand := (isCommand_line hc.not_blank (hd.exists_solid_line cs ending)).2 htakes
  rw [← commandLine_cons] at hcommand
  cases hinput : Input.ofText (commandLine (c :: d :: cs) ending) with
  | command k => exact ⟨k, handles_line (StatementBuffer.readOff_command hinput rfl)⟩
  | statement _ | empty =>
    rw [hinput] at hcommand
    cases hcommand

/-- A plan in which the session is left does not come back with it. -/
theorem returns_carryOut_quit {plan : List Step} {args : Text}
    (h : .handle (.command ⟨"quit".toList, args⟩) ∈ plan) :
    Returns (carryOut plan) shell fun _ after => after.session.running = false := by
  have hleft {after : Shell} (rest : List Step) (hleft : after.session.running = false) :
      Returns (carryOut rest) after fun _ last => last.session.running = false := by
    intro a last hok
    rw [carryOut_of_left rest hleft] at hok
    cases hok
    exact hleft
  have hquit (shell : Shell) : Returns (handle (.command ⟨"quit".toList, args⟩)) shell
      fun _ after => after.session.running = false := by
    refine Returns.bind (Q := fun _ _ => True) (fun _ _ _ => trivial) ?_
    intro _ ready _
    refine returns_get ?_
    rintro a after hok
    cases hok
    rfl
  induction plan generalizing shell with
  | nil => cases h
  | cons step rest ih =>
    cases hrunning : shell.session.running with
    | false => exact hleft (step :: rest) hrunning
    | true =>
      rw [Returns, carryOut_of_running step rest hrunning]
      change Returns (take step >>= fun _ => carryOut rest) shell _
      rcases List.mem_cons.1 h with rfl | hrest
      · exact (hquit shell).bind fun _ after => hleft rest
      · exact Returns.bind (Q := fun _ _ => True) (fun _ _ _ => trivial) fun _ _ _ => ih hrest

end Plans

/-- A command with an argument, and one that leaves the session. -/
def formatThenQuit : List Text := ["format csv".toList, " quit".toList]

/-- **A command with arguments** takes what follows it on its line for one of them:
    the session is not left, though it is on lines of their own. -/
theorem format_takes_quit :
    (∀ c ∈ formatThenQuit, IsOneCommand c) ∧ Text.allBlank ['\n'] = true ∧
    Handles (formatThenQuit.map fun c => commandLine [c] ['\n'])
      [.command ⟨"format".toList, "csv".toList⟩, .command ⟨"quit".toList, []⟩] ∧
    ¬ Handles [commandLine formatThenQuit ['\n']]
      [.command ⟨"format".toList, "csv".toList⟩, .command ⟨"quit".toList, []⟩] := by
  have hcs : ∀ c ∈ formatThenQuit, IsOneCommand c := by decide +kernel
  have hinputs : formatThenQuit.map Input.ofText
      = [.command ⟨"format".toList, "csv".toList⟩, .command ⟨"quit".toList, []⟩] := by
    decide +kernel
  refine ⟨hcs, rfl, hinputs ▸ handles_each hcs rfl, ?_⟩
  rintro ⟨plan, hplan, hloop⟩
  have hpasses : passes (loop [.line (commandLine formatThenQuit ['\n'])]) freshShell
      (fun _ after => after.session.running) = true := by
    decide +kernel
  obtain ⟨a, after, hok, hrunning⟩ := exists_of_passes _ _ _ hpasses
  have hquit : .handle (.command ⟨"quit".toList, []⟩) ∈ plan := by
    rw [← mem_handledIn, hplan]
    exact List.mem_cons_of_mem _ List.mem_cons_self
  have hreturns : Returns (carryOut plan >>= fun _ => loop []) freshShell
      fun _ after => after.session.running = false := by
    refine (returns_carryOut_quit hquit).bind ?_
    intro _ last hleft
    refine (ensures_loop_of_left [] hleft).returns ?_
    rintro _ _ ⟨-, rfl⟩
    exact hleft
  have hsame := hloop freshShell [] rfl
  rw [List.append_nil] at hsame
  have hstopped := hreturns a after (hsame ▸ hok)
  rw [hstopped] at hrunning
  cases hrunning

end Shell

end SqlShell
