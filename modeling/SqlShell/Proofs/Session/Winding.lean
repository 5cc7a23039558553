import SqlShell.Proofs.Session.Enduring

/-! # Winding a Statement Up

    What follows the presentation of a statement, whichever writes and flushes
    fail, and how it may end.

    * **`Ends`** says how an action may end, by the faults in the transcript.
    * **`Winds`** is the invariant of a statement that has been presented, and
      **`WindsUp`** the way in which it ends.
    * **`concludes_settle`**: a statement that has been presented is wound up, and
      its execution is over. -/

namespace SqlShell

/-! ## Faults in the transcript -/

/-- **Every fault is endured**: it is a text that has been struck off. -/
def AreEndured (entries : List Entry) : Prop :=
  ∀ e ∈ entries, e.fault? = none ∨ e.isStruck = true

theorem AreEndured.append {l l' : List Entry} (h : AreEndured l) (h' : AreEndured l') :
    AreEndured (l ++ l') := fun e he => (List.mem_append.1 he).elim (h e) (h' e)

/-- Nothing is written or offered, and no output fails. -/
def AreQuiet (entries : List Entry) : Prop :=
  ∀ e ∈ entries, e.isSilent = true ∧ e.offered? = none

theorem AreQuiet.areEndured {l : List Entry} (h : AreQuiet l) : AreEndured l :=
  fun e he => .inl (e.fault?_of_isSilent (h e he).1)

/-- Silent entries are quiet if nothing is offered among their milestones. -/
theorem areQuiet_of_miles {l : List Entry} (hsilent : ∀ e ∈ l, e.isSilent = true)
    (hmiles : ∀ text, .offered text ∉ l.filter Entry.isMilestone) : AreQuiet l := by
  intro e he
  refine ⟨hsilent e he, ?_⟩
  cases e with
  | offered text => exact absurd (List.mem_filter.2 ⟨he, rfl⟩) (hmiles text)
  | _ => rfl

/-- They are texts that have been written. -/
def AreWritten (entries : List Entry) : Prop := ∀ e ∈ entries, ∃ c text, e = .written c text

theorem AreWritten.areEndured {l : List Entry} (h : AreWritten l) : AreEndured l := by
  intro e he
  obtain ⟨c, text, rfl⟩ := h e he
  exact .inl rfl

theorem AreWritten.presents? {l : List Entry} (h : AreWritten l) : ∀ e ∈ l, e.presents? = none := by
  intro e he
  obtain ⟨c, text, rfl⟩ := h e he
  rfl

/-- **An output** is no milestone, and changes nothing about the course of a
    statement. -/
theorem Entry.of_not_isSilent {e : Entry} (h : e.isSilent = false) :
    e.isMilestone = false ∧ e.presents? = none ∧ e.offered? = none ∧
      ∀ prompt, e ≠ .asked prompt := by
  cases e with
  | written | unwritten | unflushed => exact ⟨rfl, rfl, rfl, nofun⟩
  | _ => cases h

/-- The entry tells of a text that is not written. -/
def Entry.IsUnwritten (e : Entry) : Prop := ∃ c f, e = .unwritten c f

/-- **An interruption is shielded** behind some entries: it strikes off a text of a
    statement in its course, or a prompt. -/
def IsShielded (writesPrompts : Bool) (before : List Entry) (e : Entry) : Prop :=
  e.isStruck = true ∧
    (isPresenting before = true ∨
      writesPrompts = true ∧ ∃ earlier prompt, before = earlier ++ [.asked prompt])

/-- **Nothing is shielded** behind these entries. -/
def IsExposed (writesPrompts : Bool) (before : List Entry) : Prop :=
  ∀ e, ¬ IsShielded writesPrompts before e

theorem isExposed_concat {writesPrompts : Bool} {l : List Entry} {e : Entry}
    (he : e.presents? = some false) (hasked : writesPrompts = true → ∀ prompt, e ≠ .asked prompt) :
    IsExposed writesPrompts (l ++ [e]) := by
  rintro e' ⟨-, hpresenting | ⟨hwrites, earlier, prompt, h⟩⟩
  · rw [isPresenting_concat he] at hpresenting
    cases hpresenting
  · exact hasked hwrites prompt (List.append_inj_right' h rfl |> List.singleton_inj.1)

/-- It stays so behind texts and most other entries. -/
theorem IsExposed.append {writesPrompts : Bool} {l l' : List Entry} (h : IsExposed writesPrompts l)
    (h' : ∀ e ∈ l', e.presents? = none) : IsExposed writesPrompts (l ++ l') := by
  rintro e ⟨hstruck, hpresenting | ⟨hwrites, earlier, prompt, happend⟩⟩
  · rw [isPresenting_append_of_none h'] at hpresenting
    exact h e ⟨hstruck, .inl hpresenting⟩
  · -- The prompt would be the last entry, which is one of `l'` if there are any.
    rcases List.eq_nil_or_concat l' with rfl | ⟨r, last, rfl⟩
    · rw [List.append_nil] at happend
      exact h e ⟨hstruck, .inr ⟨hwrites, earlier, prompt, happend⟩⟩
    · rw [List.concat_eq_append, ← List.append_assoc] at happend
      obtain rfl := List.singleton_inj.1 (List.append_inj_right' happend rfl)
      cases h' (.asked prompt) (by simp)

/-- **How an action may end** behind the entries `past`, when it adds some others:

    - if it returns, every fault has been endured;
    - if the output is lost, this is the first fault of its kind, and nothing is
      written or offered after it;
    - if it is interrupted, the interruption is not shielded, or it is not the first;
    - it breaks down only if it may. -/
def Ends (mayBreak : Prop) (writesPrompts : Bool) (past added : List Entry) :
    Except Exit Unit → Prop
  | .ok () => AreEndured added
  | .error (.outputLost f) => ∃ before e after, added = before ++ e :: after ∧
      AreEndured before ∧ e.fault? = some (.fault f) ∧ AreQuiet after
  | .error .interrupted => ∃ before e after, added = before ++ e :: after ∧
      e.fault? = some .interrupt ∧
      (IsShielded writesPrompts (past ++ before) e → ∃ e' ∈ before, e'.fault? ≠ none)
  | .error (.crashed _) => mayBreak
  | .error .stalled => True

section Ending

variable {mayBreak : Prop} {writesPrompts : Bool} {past added added' : List Entry}
  {ended : Except Exit Unit}

theorem Ends.append (h : AreEndured added)
    (h' : Ends mayBreak writesPrompts (past ++ added) added' ended) :
    Ends mayBreak writesPrompts past (added ++ added') ended := by
  match ended with
  | .ok () => exact h.append h'
  | .error (.outputLost f) =>
    obtain ⟨before, e, after, rfl, hbefore, hfault, hafter⟩ := h'
    exact ⟨added ++ before, e, after, by simp, h.append hbefore, hfault, hafter⟩
  | .error .interrupted =>
    obtain ⟨before, e, after, rfl, hfault, hshielded⟩ := h'
    refine ⟨added ++ before, e, after, by simp, hfault, ?_⟩
    intro hs
    rw [← List.append_assoc] at hs
    obtain ⟨e', he', hfault'⟩ := hshielded hs
    exact ⟨e', List.mem_append_right _ he', hfault'⟩
  | .error (.crashed _) => exact h'
  | .error .stalled => trivial

theorem Ends.imp {mayBreak' : Prop} (h : Ends mayBreak writesPrompts past added ended)
    (himp : mayBreak → mayBreak') : Ends mayBreak' writesPrompts past added ended := by
  match ended with
  | .error (.crashed _) => exact himp h
  | .ok () | .error (.outputLost _) | .error .interrupted | .error .stalled => exact h

/-- What follows quietly does not matter. -/
theorem Ends.append_quiet (h : Ends mayBreak writesPrompts past added ended)
    (h' : AreQuiet added') : Ends mayBreak writesPrompts past (added ++ added') ended := by
  match ended with
  | .ok () => exact AreEndured.append h h'.areEndured
  | .error (.outputLost f) =>
    obtain ⟨before, e, after, rfl, hbefore, hfault, hafter⟩ := h
    refine ⟨before, e, after ++ added', by simp, hbefore, hfault, ?_⟩
    intro x hx
    exact (List.mem_append.1 hx).elim (hafter x) (h' x)
  | .error .interrupted =>
    obtain ⟨before, e, after, rfl, hfault, hshielded⟩ := h
    exact ⟨before, e, after ++ added', by simp, hfault, hshielded⟩
  | .error (.crashed _) => exact h
  | .error .stalled => trivial

/-- **A fault ends the action** where nothing shields it. -/
theorem ends_of_fault {e : Entry} {f : SinkFault} (hfault : e.fault? = some f)
    (hopen : e.isStruck = true → IsExposed writesPrompts past) :
    Ends mayBreak writesPrompts past [e] (.error (Shell.exitOf f)) := by
  cases f with
  | interrupt =>
    refine ⟨[], e, [], rfl, hfault, ?_⟩
    intro hs
    rw [List.append_nil] at hs
    exact absurd hs (hopen hs.1 e)
  | fault f => exact ⟨[], e, [], rfl, nofun, hfault, nofun⟩

/-- A fault behind another one need not be looked at. -/
theorem ends_of_faults {e e' : Entry} {f : SinkFault} {texts : List Entry}
    (he' : e'.isStruck = true) (htexts : AreWritten texts) (hfault : e.fault? = some f) :
    Ends mayBreak writesPrompts past ([e'] ++ texts ++ [e]) (.error (Shell.exitOf f)) := by
  have hendured : AreEndured ([e'] ++ texts) := by
    refine AreEndured.append ?_ htexts.areEndured
    intro x hx
    obtain rfl := List.mem_singleton.1 hx
    exact .inr he'
  cases f with
  | interrupt =>
    refine ⟨[e'] ++ texts, e, [], rfl, hfault, fun _ => ⟨e', by simp, ?_⟩⟩
    simp [e'.fault?_of_isStruck he']
  | fault f => exact ⟨[e'] ++ texts, e, [], rfl, hendured, hfault, nofun⟩

end Ending

namespace Shell

/-! ## Texts -/

/-- **Some texts have been uttered**, all of them or up to a fault, which is of the
    kind `P`. -/
structure Uttered (P : Entry → Prop) (k : Console) (texts fault : List Entry)
    (ended : Except Exit Unit) : Prop where
  written : AreWritten texts
  ended : ended = .ok () ∧ fault = [] ∨ ∃ e f, fault = [e] ∧ e.fault? = some f ∧ P e ∧
    k.Allows e ∧ ended = .error (exitOf f)

/-- **An action utters some texts.** -/
def Utters (P : Entry → Prop) (shell : Shell) (ended : Except Exit Unit) (after : Shell) : Prop :=
  ∃ k texts fault, after = { shell with console := k } ∧ k.nature = shell.console.nature ∧
    k.entries = shell.console.entries ++ (texts ++ fault) ∧
    Uttered P shell.console texts fault ended

namespace Uttered

variable {P : Entry → Prop} {k : Console} {texts fault : List Entry} {ended : Except Exit Unit}

/-- A fault is not silent. -/
theorem outputs (h : Uttered P k texts fault ended) :
    ∀ e ∈ texts ++ fault, e.isSilent = false ∧ k.Allows e := by
  intro e he
  rcases List.mem_append.1 he with he | he
  · obtain ⟨c, text, rfl⟩ := h.written e he
    exact ⟨rfl, trivial⟩
  · rcases h.ended with ⟨-, rfl⟩ | ⟨e', f, rfl, hf, -, hallowed, -⟩
    · cases he
    · obtain rfl := List.mem_singleton.1 he
      refine ⟨Bool.eq_false_iff.2 fun hsilent => ?_, hallowed⟩
      rw [e.fault?_of_isSilent hsilent] at hf
      cases hf

/-- **They end as they may**, if nothing shields a text where they may be struck off. -/
theorem ends {mayBreak : Prop} {writesPrompts : Bool} {past : List Entry}
    (h : Uttered P k texts fault ended)
    (hopen : ∀ e, P e → e.isStruck = true → IsExposed writesPrompts past) :
    Ends mayBreak writesPrompts past (texts ++ fault) ended := by
  rcases h.ended with ⟨rfl, rfl⟩ | ⟨e, f, rfl, hf, hP, -, rfl⟩
  · rw [List.append_nil]
    exact h.written.areEndured
  · refine Ends.append h.written.areEndured (ends_of_fault hf ?_)
    intro hstruck
    exact (hopen e hP hstruck).append h.written.presents?

theorem ne_stalled (h : Uttered P k texts fault ended) : ended ≠ .error .stalled := by
  rcases h.ended with ⟨rfl, -⟩ | ⟨e, f, -, -, -, -, rfl⟩
  · exact nofun
  · cases f <;> exact nofun

end Uttered

section Uttering

variable {shell : Shell} {P : Entry → Prop}

theorem utters_write (c : Channel) (text : Text) (shell : Shell) :
    Ensures (write c text) shell (Utters Entry.IsUnwritten shell) := by
  rw [write, ensures_bind]
  refine (traces_put c text shell).mono ?_
  rintro ended after ⟨fault, k, rfl, rfl, hnature, hput⟩
  cases fault with
  | none =>
    refine ⟨k, [.written c text], [], rfl, hnature, by simpa using hput, ?_, .inl ⟨rfl, rfl⟩⟩
    intro e he
    exact ⟨c, text, List.mem_singleton.1 he⟩
  | some f =>
    refine ⟨k, [], [.unwritten c f], rfl, hnature, by simpa using hput.1, List.forall_mem_nil _,
      .inr ?_⟩
    exact ⟨_, f, rfl, rfl, ⟨c, f, rfl⟩, hput.2, rfl⟩

theorem utters_flushSink (c : Channel) (shell : Shell) :
    Ensures (flushSink c) shell (Utters (·.isStruck = false) shell) := by
  refine (traces_flushSink c shell).mono ?_
  rintro ended after ⟨fault, k, rfl, hnature, hflush⟩
  cases fault with
  | none => exact ⟨k, [], [], rfl, hnature, by simpa using hflush.2, nofun, .inl ⟨hflush.1, rfl⟩⟩
  | some f =>
    obtain ⟨rfl, hentries, hallowed⟩ := hflush
    refine ⟨k, [], [.unflushed c f], rfl, hnature, by simpa using hentries, nofun, .inr ?_⟩
    exact ⟨_, f, rfl, rfl, rfl, hallowed, rfl⟩

theorem Utters.bind {action : ShellM Unit} {next : Unit → ShellM Unit}
    (h : Ensures action shell (Utters P shell))
    (hnext : ∀ later, Ensures (next ()) later (Utters P later)) :
    Ensures (action >>= next) shell (Utters P shell) := by
  rw [ensures_bind]
  refine h.mono ?_
  rintro ended later ⟨k, texts, fault, rfl, hnature, hentries, htexts, ⟨rfl, rfl⟩ | hfault⟩
  · refine (hnext _).mono ?_
    rintro ended after ⟨k', texts', fault', rfl, hnature', hentries', htexts', hended⟩
    refine ⟨k', texts ++ texts', fault', rfl, hnature'.trans hnature, ?_, ?_, ?_⟩
    · rw [hentries']
      simp [hentries]
    · intro e he
      exact (List.mem_append.1 he).elim (htexts e) (htexts' e)
    · refine hended.imp_right ?_
      rintro ⟨e, f, he, hf, hP, hallowed, hended⟩
      exact ⟨e, f, he, hf, hP, (Console.allows_congr hnature e).1 hallowed, hended⟩
  · obtain ⟨e, f, he, hf, hP, hallowed, rfl⟩ := hfault
    exact ⟨k, texts, fault, rfl, hnature, hentries, htexts, .inr ⟨e, f, he, hf, hP, hallowed, rfl⟩⟩

theorem utters_pure (shell : Shell) : Ensures (pure ()) shell (Utters P shell) :=
  ⟨shell.console, [], [], rfl, rfl, by simp, nofun, .inl ⟨rfl, rfl⟩⟩

theorem utters_writeAll (c : Channel) (texts : List Text) (shell : Shell) :
    Ensures (writeAll c texts) shell (Utters Entry.IsUnwritten shell) := by
  induction texts generalizing shell with
  | nil => exact utters_pure shell
  | cons text rest ih => exact Utters.bind (utters_write c text shell) fun later => ih later

theorem utters_flush (shell : Shell) :
    Ensures flush shell (Utters (·.isStruck = false) shell) :=
  Utters.bind (utters_flushSink .out shell) fun later => utters_flushSink .err later

end Uttering

/-! ## After the presentation -/

/-- **A statement is being wound up** since its presentation was begun in `origin`,
    after these entries. -/
structure Winds (origin : Shell) (statement : Text) (added : List Entry) (shell : Shell) :
    Prop where
  standing : { shell.standing with errors := origin.errors } = origin.standing
  pursues : shell.Pursues statement (added.filter Entry.isMilestone)
  resting : shell.source.IsResting
  entries : shell.console.entries = origin.console.entries ++ added
  allowed : ∀ e ∈ added, origin.console.Allows e
  unasked : ∀ prompt, .asked prompt ∉ added

section Winding

variable {origin shell after : Shell} {statement : Text} {past added : List Entry}

theorem Winds.answer (h : Winds origin statement added shell) : shell.answer = origin.answer := by
  have hengine : shell.engine = origin.engine := congrArg Standing.engine h.standing
  have hsession : shell.session = origin.session := congrArg Standing.session h.standing
  funext text
  rw [Shell.answer, Shell.answer, hengine, hsession]

theorem Winds.nature (h : Winds origin statement added shell) :
    shell.console.nature = origin.console.nature := congrArg Standing.nature h.standing

/-- **A presentation that has endured** is wound up. -/
theorem Endures.winds {past' last : List Entry} (h : Endures origin statement past' last shell)
    (hlast : ∀ e ∈ last, ∃ c f, e = .unwritten c f) :
    ∃ added, AreEndured added ∧ Winds origin statement (added ++ last) shell ∧
      shell.errors = origin.errors := by
  obtain ⟨added, hentries, hsmooth, rfl⟩ := h.course
  have hnone : last.filter Entry.isMilestone = [] := by
    rw [List.filter_eq_nil_iff]
    intro e he
    obtain ⟨c, f, rfl⟩ := hlast e he
    exact Bool.false_ne_true
  refine ⟨added, fun e he => (hsmooth e he).fault, ⟨?_, ?_, h.resting, ?_, ?_, ?_⟩,
    congrArg Standing.errors h.standing⟩
  · rw [h.standing]
    rfl
  · rw [List.filter_append, hnone, List.append_nil]
    exact h.pursues
  · rw [hentries, List.append_assoc]
  · intro e he
    rcases List.mem_append.1 he with he | he
    · exact (hsmooth e he).allowed
    · exact h.allowed e he
  · intro prompt he
    rcases List.mem_append.1 he with he | he
    · cases (hsmooth _ he).presents
    · obtain ⟨c, f, hf⟩ := hlast _ he
      cases hf

/-- More may be told meanwhile, if it is no milestone. -/
theorem Winds.grow {k : Console} {more : List Entry} (h : Winds origin statement added shell)
    (hnature : k.nature = shell.console.nature)
    (hentries : k.entries = shell.console.entries ++ more)
    (hmore : ∀ e ∈ more, e.isMilestone = false ∧ origin.console.Allows e ∧
      ∀ prompt, e ≠ .asked prompt) :
    Winds origin statement (added ++ more) { shell with console := k } := by
  refine ⟨?_, ?_, h.resting, ?_, ?_, ?_⟩
  · rw [standing_console hnature]
    exact h.standing
  · have hnone : more.filter Entry.isMilestone = [] := by
      rw [List.filter_eq_nil_iff]
      intro e he
      simp [(hmore e he).1]
    rw [List.filter_append, hnone, List.append_nil]
    exact ⟨h.pursues.stage, h.pursues.limit,
      (Console.givesNotices_congr hnature).2 h.pursues.notices⟩
  · rw [hentries, h.entries, List.append_assoc]
  · intro e he
    exact (List.mem_append.1 he).elim (h.allowed e) fun he => (hmore e he).2.1
  · intro prompt he
    exact (List.mem_append.1 he).elim (h.unasked prompt) fun he => (hmore _ he).2.2 prompt rfl

/-- **Texts** may be uttered meanwhile. -/
theorem Winds.utters {P : Entry → Prop} {ended : Except Exit Unit}
    (h : Winds origin statement added shell) (hafter : Utters P shell ended after) :
    ∃ texts fault, Winds origin statement (added ++ (texts ++ fault)) after ∧
      after.errors = shell.errors ∧ after.source = shell.source ∧
      Uttered P shell.console texts fault ended := by
  obtain ⟨k, texts, fault, rfl, hnature, hentries, huttered⟩ := hafter
  refine ⟨texts, fault, h.grow hnature hentries ?_, rfl, rfl, huttered⟩
  intro e he
  obtain ⟨houtput, hallowed⟩ := huttered.outputs e he
  obtain ⟨hmile, -, -, hunasked⟩ := e.of_not_isSilent houtput
  exact ⟨hmile, (Console.allows_congr h.nature e).1 hallowed, hunasked⟩

/-- The flag may be raised meanwhile. -/
theorem Winds.raise (h : Winds origin statement added shell) (reason : Text) :
    Winds origin statement added { shell with source := shell.source.raise reason } where
  standing := h.standing
  pursues := ⟨h.pursues.stage.raise reason, h.pursues.limit, h.pursues.notices⟩
  resting := h.resting.raise reason
  entries := h.entries
  allowed := h.allowed
  unasked := h.unasked

/-- Failures may be counted meanwhile. -/
theorem Winds.count (h : Winds origin statement added shell) (n : Nat) :
    Winds origin statement added { shell with errors := n } where
  standing := h.standing
  pursues := ⟨h.pursues.stage, h.pursues.limit, h.pursues.notices⟩
  resting := h.resting
  entries := h.entries
  allowed := h.allowed
  unasked := h.unasked

/-- **Giving the statement up** ends its execution quietly. -/
theorem winds_closeEvents (h : Winds origin statement added shell) :
    Ensures closeEvents shell fun ended after => ended = .ok () ∧ ∃ quiet, AreQuiet quiet ∧
      Winds origin statement (added ++ quiet) after ∧ after.errors = shell.errors ∧
      after.source.IsOver (origin.answer statement) := by
  refine (proceeds_closeEvents h.pursues h.resting).mono ?_
  rintro ended after ⟨rfl, ⟨reports, hstanding, hpursues, quiet, hentries, hsilent, hmiles⟩, hover⟩
  have hmiles : quiet.filter Entry.isMilestone = reports.map .executed :=
    (List.append_cancel_left hmiles).symm
  refine ⟨rfl, quiet, ?_, ⟨?_, ?_, ?_, ?_, ?_, ?_⟩, congrArg Standing.errors hstanding, ?_⟩
  · -- The only milestones on the way are reports.
    refine areQuiet_of_miles (fun e he => (hsilent e he).1) ?_
    simp [hmiles]
  · rw [hstanding]
    exact h.standing
  · rw [List.filter_append, hmiles]
    exact hpursues
  · intro r hr
    rw [hr] at hover
    obtain ⟨stream, -, hover⟩ := hover
    simp [Running.isAtRest, hover.control]
  · rw [hentries, h.entries, List.append_assoc]
  · intro e he
    rcases List.mem_append.1 he with he | he
    · exact h.allowed e he
    · exact Console.allows_of_fault? (e.fault?_of_isSilent (hsilent e he).1)
  · intro prompt he
    rcases List.mem_append.1 he with he | he
    · exact h.unasked prompt he
    · cases (hsilent _ he).2
  · rwa [h.answer] at hover

/-- **The way in which a statement that has been wound up ends.** -/
def WindsUp (origin : Shell) (statement : Text) (past : List Entry) (errors : Nat)
    (ended : Except Exit Unit) (after : Shell) : Prop :=
  ended ≠ .error .stalled ∧ after.errors = errors ∧ ∃ added,
    Winds origin statement added after ∧ Ends False origin.writesPrompts past added ended

/-- **What follows a presentation** is its end, unless a flush fails. -/
theorem windsUp_conclude (past : List Entry) (outcome : Outcome Binary64)
    (h : Winds origin statement added shell) (hadded : AreEndured added) :
    Ensures (conclude outcome) shell fun ended after => WindsUp origin statement past
        (shell.errors + if outcome.isSuccess then 0 else 1) ended after ∧
      after.source.IsOver (origin.answer statement) := by
  rw [conclude, ensures_bind]
  refine (winds_closeEvents h).mono ?_
  rintro _ closed ⟨rfl, quiet, hquiet, hclosed, herrors, hover⟩
  have hflush (later : Shell) (hlater : Winds origin statement (added ++ quiet) later)
      (hsource : later.source = closed.source) :
      Ensures flush later fun ended after =>
        WindsUp origin statement past later.errors ended after ∧
        after.source.IsOver (origin.answer statement) := by
    refine (utters_flush later).mono ?_
    intro ended after hafter
    obtain ⟨texts, fault, hwinds, hcount, hsame, huttered⟩ := hlater.utters hafter
    refine ⟨⟨huttered.ne_stalled, hcount, _, hwinds, ?_⟩, by rwa [hsame, hsource]⟩
    refine Ends.append (hadded.append hquiet.areEndured) (huttered.ends ?_)
    intro e hstruck hs
    rw [hstruck] at hs
    cases hs
  dsimp only
  rw [← herrors]
  cases hsuccess : outcome.isSuccess with
  | true => exact hflush closed hclosed rfl
  | false =>
    simp only [Bool.not_false, if_true]
    rw [ensures_bind, countError, ensures_modify]
    exact hflush _ (hclosed.count (closed.errors + 1)) rfl

/-- **A statement that is given up at last** is over. -/
theorem windsUp_followedBy {action : ShellM Unit} {errors : Nat} {Q : Except Exit Unit → Prop}
    (h : Ensures action shell fun ended after =>
      WindsUp origin statement past errors ended after ∧ Q ended) :
    Ensures (followedBy action closeEvents) shell fun ended after =>
      (WindsUp origin statement past errors ended after ∧ Q ended) ∧
      after.source.IsOver (origin.answer statement) := by
  rw [followedBy, ensures_bind, ensures_attempt]
  refine h.mono ?_
  rintro ended later ⟨⟨hne, herrors, added, hwinds, hends⟩, hQ⟩
  dsimp only
  rw [ensures_bind]
  refine (winds_closeEvents hwinds).mono ?_
  rintro _ after ⟨rfl, quiet, hquiet, hwinds', herrors', hover⟩
  cases ended <;> exact ⟨⟨⟨hne, herrors'.trans herrors, _, hwinds', hends.append_quiet hquiet⟩, hQ⟩,
    hover⟩

/-- **A breakdown** brings one line; an interruption of that line ends the session. -/
theorem windsUp_reportCrash (past : List Entry) (c : Crash) (h : Winds origin statement added shell)
    (hadded : AreEndured added) :
    Ensures (reportCrash c) shell (WindsUp origin statement past (shell.errors + 1)) := by
  rw [reportCrash, ensures_bind]
  refine (ensures_note .unexpected h.pursues.notices).mono ?_
  rintro _ noted ⟨rfl, k, echoed, rfl, hnature, hentries⟩
  have hnoted := (h.grow hnature hentries (by simp [Entry.isMilestone, Console.Allows])).count
    (shell.errors + 1)
  dsimp only
  rw [ensures_bind, countError, ensures_modify]
  dsimp only
  refine (utters_write _ _ _).mono ?_
  intro ended after hafter
  obtain ⟨texts, fault, hwinds, hcount, -, huttered⟩ := hnoted.utters hafter
  have hnotice : AreEndured [.noted .unexpected echoed] := by
    intro e he
    obtain rfl := List.mem_singleton.1 he
    exact .inl rfl
  refine ⟨huttered.ne_stalled, hcount, _, hwinds, ?_⟩
  refine Ends.append (hadded.append hnotice) (huttered.ends ?_)
  intro _ _ _
  rw [← List.append_assoc]
  refine isExposed_concat rfl ?_
  intro _ _ hasked
  cases hasked

end Winding

/-! ## Settling -/

/-- What follows the presentation of a statement, by the way in which that ended. -/
def settle : Except Exit (Outcome Binary64) → ShellM Unit
  | .ok outcome => conclude outcome
  | .error .stalled => throw .stalled
  | .error (.outputLost f) => followedBy (throw (.outputLost f)) closeEvents
  | .error .interrupted => do
    raise interruptReason
    let outcome := Outcome.cancelled interruptReason Binary64.zero
    match ← attempt (tellOutcome outcome) with
    | .ok () => conclude outcome
    | .error e => followedBy (throw e) closeEvents
  | .error (.crashed c) => followedBy (reportCrash c) closeEvents

/-- How many failures there are in the presentation of a statement. -/
def failuresOf : Except Exit (Outcome Binary64) → Nat
  | .ok outcome => if outcome.isSuccess then 0 else 1
  | .error _ => 1

/-- **How a statement ends** that has been presented: the engine holds it up, or it
    is wound up and its execution is over. -/
def Concludes (origin : Shell) (statement : Text) (past : List Entry)
    (shown : Except Exit (Outcome Binary64)) (ended : Except Exit Unit) (after : Shell) : Prop :=
  ended = .error .stalled ∧ HeldUp origin statement after ∨
  (∃ errors, WindsUp origin statement past errors ended after ∧
    (ended = .ok () → errors = origin.errors + failuresOf shown)) ∧
  after.source.IsOver (origin.answer statement)

/-- **A statement that ends the session** is over as well. -/
theorem concludes_giveUp {origin shell : Shell} {statement : Text} {past : List Entry} {e : Exit}
    {errors : Nat} {shown : Except Exit (Outcome Binary64)}
    (h : WindsUp origin statement past errors (.error e) shell) :
    Ensures (followedBy (throw e) closeEvents) shell (Concludes origin statement past shown) := by
  have hthrow : Ensures (throw e) shell fun ended after =>
      WindsUp origin statement past errors ended after ∧ ended ≠ .ok () := ⟨h, nofun⟩
  refine (windsUp_followedBy hthrow).mono ?_
  rintro ended after ⟨⟨hwound, hne⟩, hover⟩
  exact .inr ⟨⟨_, hwound, fun h => absurd h hne⟩, hover⟩

theorem utters_tellOutcome (outcome : Outcome Binary64) (shell : Shell) :
    Ensures (tellOutcome outcome) shell (Utters Entry.IsUnwritten shell) := by
  rw [tellOutcome, ensures_bind, ensures_get]
  dsimp only
  split
  · exact utters_pure shell
  · exact utters_write _ _ shell

/-- **A statement that has been presented is wound up.** -/
theorem concludes_settle {origin shown : Shell} {statement : Text} (past : List Entry)
    (ended : Except Exit (Outcome Binary64)) (h : Endured origin statement ended shown) :
    Ensures (settle ended) shown (Concludes origin statement past ended) := by
  match ended with
  | .ok outcome =>
    obtain ⟨past', h⟩ := h
    obtain ⟨added, hadded, hwinds, herrors⟩ := h.winds nofun
    rw [List.append_nil] at hwinds
    refine (windsUp_conclude past outcome hwinds hadded).mono ?_
    rintro ended' after ⟨hwound, hover⟩
    exact .inr ⟨⟨_, hwound, fun _ => by rw [herrors]; rfl⟩, hover⟩
  | .error .stalled => exact .inl ⟨rfl, h⟩
  | .error (.outputLost f) =>
    obtain ⟨past', c, h⟩ := h
    obtain ⟨added, hadded, hwinds, -⟩ := h.winds fun e he => ⟨c, .fault f, List.mem_singleton.1 he⟩
    have hlost : WindsUp origin statement past shown.errors (.error (.outputLost f)) shown :=
      ⟨nofun, rfl, _, hwinds, Ends.append hadded (ends_of_fault (f := .fault f) rfl nofun)⟩
    exact concludes_giveUp hlost
  | .error .interrupted =>
    obtain ⟨past', c, h⟩ := h
    obtain ⟨added, hadded, hwinds, herrors⟩ :=
      h.winds fun e he => ⟨c, .interrupt, List.mem_singleton.1 he⟩
    -- The text that was struck off is the first fault, so that a failure of the line
    -- which tells of the cancellation is not.
    rw [settle, ensures_bind, raise, ensures_modify]
    dsimp only
    rw [ensures_bind, ensures_attempt]
    refine (utters_tellOutcome _ _).mono ?_
    intro ended' told htold
    obtain ⟨texts, fault, hwinds', herrors', -, htexts, hended⟩ :=
      (hwinds.raise interruptReason).utters htold
    have hstruck : AreEndured (added ++ [.unwritten c .interrupt]) := by
      refine hadded.append ?_
      intro e he
      obtain rfl := List.mem_singleton.1 he
      exact .inr rfl
    rcases hended with ⟨rfl, rfl⟩ | ⟨e, f, rfl, hf, -, -, rfl⟩
    · rw [List.append_nil] at hwinds'
      refine (windsUp_conclude past _ hwinds' (hstruck.append htexts.areEndured)).mono ?_
      rintro ended' after ⟨hwound, hover⟩
      exact .inr ⟨⟨_, hwound, fun _ => by rw [herrors', herrors]; rfl⟩, hover⟩
    · have hlost : WindsUp origin statement past told.errors (.error (exitOf f)) told := by
        refine ⟨by cases f <;> nofun, rfl, _, hwinds', ?_⟩
        rw [List.append_assoc]
        refine Ends.append hadded ?_
        rw [← List.append_assoc]
        exact ends_of_faults rfl htexts hf
      exact concludes_giveUp hlost
  | .error (.crashed c) =>
    obtain ⟨past', h⟩ := h
    obtain ⟨added, hadded, hwinds, herrors⟩ := h.winds nofun
    rw [List.append_nil] at hwinds
    have hcrash := windsUp_reportCrash past c hwinds hadded
    refine (windsUp_followedBy (Q := fun _ => True) (hcrash.mono fun _ _ h => ⟨h, trivial⟩)).mono ?_
    rintro ended' after ⟨⟨hwound, -⟩, hover⟩
    exact .inr ⟨⟨_, hwound, fun _ => by rw [herrors]; rfl⟩, hover⟩

end Shell

end SqlShell
