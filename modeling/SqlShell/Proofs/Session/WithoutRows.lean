import SqlShell.Proofs.Session.Playback

/-! # Results Without Rows

    A table without rows is not drawn, and all that is printed for it is the
    summary line, **unless the columns are measured by their types**: then the
    table is begun with the first batch, before anybody knows whether a row comes.

    * **`IsBare`** is the invariant of a writer that has drawn nothing and keeps
      nothing back; `batch_withoutRows` is its step, `takeEvents_withoutRows` the
      run.
    * **`empty_result_is_summed_up`** is the result.
    * **`present_headOnly`** says what is printed in the other case. -/

namespace SqlShell

/-- **A result without rows**, which comes in `n` batches and succeeds. -/
def emptyResult (schema : Schema) (n : Nat) (elapsed : Binary64) : List Recorded :=
  recordedResult (List.replicate n ⟨schema, []⟩) (.success 0 elapsed)

namespace TableDrawing

/-- **Nothing has been drawn**, and there is nothing to draw. -/
structure IsBare (w : TableDrawing) : Prop where
  pending : w.pending = []
  widths : w.widths = none

variable {w : TableDrawing}

/-- A batch without rows is taken in silence, if it does not bring the head. -/
theorem batch_withoutRows {schema : Schema}
    (hhead : 0 < w.lookaheadRows ∨ schema = []) (hschema : ∀ s ∈ w.schema, s = schema) :
    w.batch ⟨schema, []⟩ = .done { w with schema := some schema } := by
  have hcolumns : w.schema.getD schema = schema := by
    cases hw : w.schema with
    | none => rfl
    | some s => exact hschema s hw
  have hrest : addRows schema [] { w with schema := some schema }
      = .done { w with schema := some schema } := by
    unfold addRows
    split <;> rfl
  have hbegin : w.begin schema = .done { w with schema := some schema } := by
    unfold begin
    split
    case isTrue =>
      have hnone : ¬ (w.lookaheadRows ≤ 0 ∧ schema ≠ []) := by
        rintro ⟨htypes, hne⟩
        rcases hhead with hkept | hempty
        · omega
        · exact hne hempty
      rw [if_neg hnone]
    case isFalse hsome =>
      cases hw : w.schema with
      | none => simp [hw] at hsome
      | some s =>
        rw [← hschema s hw, ← hw]
  rw [batch_eq, hcolumns, hbegin, Production.done_andThen, hrest]

/-- Nothing is drawn at the end. -/
theorem IsBare.finish_eq (h : w.IsBare) : w.finish = .done w := by
  unfold finish
  split
  · rfl
  · split
    · rfl
    · rw [h.widths, h.pending]
      rfl

end TableDrawing

namespace Shell

section WithoutRows

variable {shell : Shell} {flag : Option Cancellation} {k : Console}

/-- **A batch of which nothing is written** does not touch the console. -/
theorem takeEvents_unwritten (fuel : Nat) {w w' : Writer} {b : Batch} (items : List Recorded)
    (h : accept (EventSource.recording [] flag).isRaised w b = .done w') :
    takeEvents (fuel + 1) w (shell.replaying (.event (.batch b) :: items) flag k)
      = takeEvents fuel w' (shell.replaying items flag k) := by
  have hnext : nextEvent (shell.replaying (.event (.batch b) :: items) flag k)
      = .ok (.event (.batch b)) (shell.replaying items flag k) := rfl
  have hidle : interlude (shell.replaying items flag k)
      = .ok () (shell.replaying items flag k) := rfl
  have hget : (get : ShellM Shell) (shell.replaying items flag k)
      = .ok (shell.replaying items flag k) (shell.replaying items flag k) := rfl
  have hraised : (shell.replaying items flag k).source.isRaised
      = (EventSource.recording [] flag).isRaised := rfl
  rw [takeEvents, bind_of_ok hnext]
  dsimp only
  rw [bind_of_ok hidle, bind_of_ok hget, hraised]
  unfold accept at h
  split at h
  case isTrue hflag =>
    have hw : w = w' := congrArg Production.last h
    rw [if_pos hflag, hw]
  case isFalse hflag =>
    rw [if_neg hflag, h]
    rfl

/-- **Batches without rows** leave the writer bare and the console as it is.  The
    head of the table is left out if rows are kept back, if there are no columns,
    if no batch brings it, or if the batches are dropped. -/
theorem takeEvents_withoutRows (fuel : Nat) (schema : Schema) (n : Nat) (elapsed : Binary64)
    {w : TableDrawing} (hw : w.IsBare) (hschema : ∀ s ∈ w.schema, s = schema)
    (hhead : 0 < w.lookaheadRows ∨ schema = [] ∨ n = 0 ∨
      (EventSource.recording [] flag).isRaised = true) :
    ∃ w' : TableDrawing, w'.IsBare ∧
      takeEvents (n + 1 + fuel) (.table w)
          (shell.replaying (emptyResult schema n elapsed) flag k)
        = .ok (.table w', some (.success 0 elapsed)) (shell.replaying [] flag k) := by
  induction n generalizing w with
  | zero =>
    refine ⟨w, hw, ?_⟩
    rw [Nat.zero_add, Nat.add_comm 1 fuel]
    rfl
  | succ n ih =>
    have hitems : emptyResult schema (n + 1) elapsed
        = .event (.batch ⟨schema, []⟩) :: emptyResult schema n elapsed := rfl
    have hfuel : n + 1 + 1 + fuel = n + 1 + fuel + 1 := by omega
    rw [hitems, hfuel]
    by_cases hflag : (EventSource.recording [] flag).isRaised = true
    · -- The flag is raised, and the batch is dropped.
      have haccept : accept (EventSource.recording [] flag).isRaised (.table w) ⟨schema, []⟩
          = .done (.table w) := by
        rw [accept, if_pos hflag]
      rw [takeEvents_unwritten _ _ haccept]
      exact ih hw hschema (.inr (.inr (.inr hflag)))
    · have hkept : 0 < w.lookaheadRows ∨ schema = [] := by
        rcases hhead with h | h | h | h
        · exact .inl h
        · exact .inr h
        · cases h
        · exact absurd h hflag
      have hbatch := TableDrawing.batch_withoutRows hkept hschema
      have haccept : accept (EventSource.recording [] flag).isRaised (.table w) ⟨schema, []⟩
          = .done (.table { w with schema := some schema }) := by
        rw [accept, if_neg hflag]
        show (w.batch ⟨schema, []⟩).map Writer.table = _
        rw [hbatch]
        rfl
      rw [takeEvents_unwritten _ _ haccept]
      refine ih ⟨hw.pending, hw.widths⟩ ?_ ?_
      · intro s hs
        exact (Option.some.inj hs).symm
      · rcases hkept with h | h
        · exact .inl h
        · exact .inr (.inl h)

/-- A text is written, or the output fails. -/
theorem write_replaying (items : List Recorded) (c : Channel) (text : Text) :
    write c text (shell.replaying items flag k)
      = match k.put c text with
        | (none, console) => .ok () (shell.replaying items flag console)
        | (some fault, console) => .error (exitOf fault) (shell.replaying items flag console) := by
  have hput : put c text (shell.replaying items flag k)
      = .ok (k.put c text).1 (shell.replaying items flag (k.put c text).2) := rfl
  rw [write, bind_of_ok hput]
  cases k.put c text with
  | mk fault console => cases fault <;> rfl

/-- What is seen of a success of which nothing is left but the report. -/
theorem seen_conclusion_bare {w : TableDrawing} (hw : w.IsBare) (rows : Int)
    (elapsed : Binary64) :
    seen (conclusion (.table w, some (.success rows elapsed))) (shell.replaying [] flag k)
      = if shell.session.settings.quiet then (.ok (.success rows elapsed), k)
        else match k.put .out (successLine rows elapsed shell.session.settings.timing) with
          | (none, console) => (.ok (.success rows elapsed), console)
          | (some fault, console) => (.error (exitOf fault), console) := by
  have hfinish : (Writer.table w).finish = .done (.table w) := by
    show w.finish.map Writer.table = _
    rw [hw.finish_eq]
    rfl
  have hproduce : produceAll (if (Outcome.success rows elapsed).isSuccess
        then (Writer.table w).finish else (Writer.table w).abort) (shell.replaying [] flag k)
      = .ok () (shell.replaying [] flag k) := by
    rw [Outcome.isSuccess, if_pos rfl, hfinish]
    rfl
  have hget : (get : ShellM Shell) (shell.replaying [] flag k)
      = .ok (shell.replaying [] flag k) (shell.replaying [] flag k) := rfl
  have hsettings : (shell.replaying [] flag k).session.settings = shell.session.settings := rfl
  unfold seen
  rw [conclusion, bind_of_ok hget]
  dsimp only [Option.getD_some]
  rw [bind_of_ok hproduce]
  cases hquiet : shell.session.settings.quiet with
  | true =>
    have htell : tellOutcome (.success rows elapsed) (shell.replaying [] flag k)
        = .ok () (shell.replaying [] flag k) := by
      rw [tellOutcome, bind_of_ok hget, hsettings, Outcome.closingLine, if_pos hquiet]
      rfl
    rw [bind_of_ok htell]
    rfl
  | false =>
    have htell : tellOutcome (.success rows elapsed) (shell.replaying [] flag k)
        = write .out (successLine rows elapsed shell.session.settings.timing)
            (shell.replaying [] flag k) := by
      rw [tellOutcome, bind_of_ok hget, hsettings, Outcome.closingLine, if_neg (by simp [hquiet])]
    have hwrite := @write_replaying shell flag k []
      .out (successLine rows elapsed shell.session.settings.timing)
    rw [bind_congr_state htell]
    cases hput : k.put .out (successLine rows elapsed shell.session.settings.timing) with
    | mk fault console =>
      rw [hput] at hwrite
      cases fault with
      | none =>
        rw [bind_of_ok hwrite]
        rfl
      | some fault =>
        rw [bind_of_error hwrite]
        rfl

end WithoutRows

/-- **A result without rows is summed up and not drawn.**  If rows are kept back to
    measure the columns, or there are no columns, or no batch comes, then whatever
    the outputs do: all that is handed to them is the summary line, and nothing at
    all in a quiet session. -/
theorem empty_result_is_summed_up (shell : Shell) (flag : Option Cancellation) (schema : Schema)
    (n : Nat) (elapsed : Binary64)
    (hhead : 0 < shell.session.settings.lookaheadRows ∨ schema = [] ∨ n = 0 ∨
      (EventSource.recording [] flag).isRaised = true) :
    seen (present (.create shell.session.settings .table))
        (shell.replaying (emptyResult schema n elapsed) flag shell.console)
      = if shell.session.settings.quiet then (.ok (.success 0 elapsed), shell.console)
        else match shell.console.put .out
            (successLine 0 elapsed shell.session.settings.timing) with
          | (none, console) => (.ok (.success 0 elapsed), console)
          | (some fault, console) => (.error (exitOf fault), console) := by
  have hbare : (Writer.tableFor shell.session.settings).IsBare := ⟨rfl, rfl⟩
  obtain ⟨w, hw, htake⟩ : ∃ w : TableDrawing, w.IsBare ∧
      takeEvents (n + 1 + 1) (.create shell.session.settings .table)
          (shell.replaying (emptyResult schema n elapsed) flag shell.console)
        = .ok (.table w, some (.success 0 elapsed)) (shell.replaying [] flag shell.console) :=
    takeEvents_withoutRows 1 schema n elapsed hbare (fun s hs => nomatch hs) hhead
  have hbound : (shell.replaying (emptyResult schema n elapsed) flag shell.console).replyBound
      = n + 1 + 1 := by
    show (emptyResult schema n elapsed).length + 1 = _
    rw [emptyResult, recordedResult, List.length_append, List.length_map, List.length_replicate]
    rfl
  have hpresent : present (.create shell.session.settings .table)
      (shell.replaying (emptyResult schema n elapsed) flag shell.console)
        = (takeEvents (n + 1 + 1) (.create shell.session.settings .table) >>= conclusion)
            (shell.replaying (emptyResult schema n elapsed) flag shell.console) := by
    rw [← hbound]
    rfl
  have hseen := @seen_conclusion_bare shell flag shell.console w hw 0 elapsed
  rw [← hseen]
  unfold seen
  rw [hpresent, bind_of_ok htake]

/-- An empty result in two batches, of which only the summary line is seen. -/
theorem empty_result_is_summed_up_two_batches :
    0 < freshShell.session.settings.lookaheadRows ∧ ∃ console : Console,
      seen (present (.create freshShell.session.settings .table))
          (freshShell.replaying (emptyResult numberColumn 2 .zero) none freshShell.console)
        = (.ok (.success 0 .zero), console) ∧
      console.printed .out = ["0 rows in set. Query took 0.000 seconds.\n".toList] := by
  have hkept : 0 < freshShell.session.settings.lookaheadRows := by decide
  refine ⟨hkept, ?_⟩
  rw [empty_result_is_summed_up freshShell none numberColumn 2 .zero (.inl hkept)]
  exact ⟨_, rfl, by decide⟩

/-! ## Columns that are measured by their types -/

theorem playedBack_recordedResult {flag : Option Cancellation} (bs : List Batch)
    (outcome : Outcome Binary64) (hflag : (EventSource.recording [] flag).isRaised = false) :
    playedBack flag (recordedResult bs outcome) = (bs, outcome) := by
  induction bs with
  | nil => rfl
  | cons b bs ih =>
    have hitems : recordedResult (b :: bs) outcome
        = .event (.batch b) :: recordedResult bs outcome := rfl
    rw [hitems, playedBack, hflag, ih]
    rfl

/-- **Otherwise an empty box is drawn**: the note, the names of the columns between
    two borders, and a third border. -/
theorem present_headOnly {shell : Shell} {flag : Option Cancellation} {schema : Schema} {n : Nat}
    (elapsed : Binary64) (hshell : shell.console.IsFaultless)
    (htypes : shell.session.settings.lookaheadRows ≤ 0) (hs : schema ≠ []) (hn : n ≠ 0)
    (hflag : (EventSource.recording [] flag).isRaised = false) :
    ∃ after, present (.create shell.session.settings .table)
        (shell.replaying (emptyResult schema n elapsed) flag shell.console)
          = .ok (.success 0 elapsed) after ∧
      ∀ c, after.console.printed c = shell.console.printed c
        ++ (if c = .out then (Writer.tableFor shell.session.settings).wholeTable schema [] else [])
        ++ reportOn shell.session.settings (.success 0 elapsed) c := by
  let new := Writer.tableFor shell.session.settings
  let bs : List Batch := List.replicate n ⟨schema, []⟩
  have hplayed : playedBack flag (emptyResult schema n elapsed) = (bs, .success 0 elapsed) :=
    playedBack_recordedResult bs _ hflag
  have hplayable : ∀ item ∈ emptyResult schema n elapsed, item.IsPlayable flag := by
    intro item hitem
    rcases List.mem_append.1 hitem with h | h
    · obtain ⟨b, -, rfl⟩ := List.mem_map.1 h
      trivial
    · rw [List.mem_singleton.1 h]
      trivial
  have hne : bs ≠ [] := by simp [bs, hn]
  have hb : HaveSchema schema bs := by
    intro b hmem
    rw [List.eq_of_mem_replicate hmem]
  have hrows : rowsOf bs = [] := by simp [rowsOf, bs]
  have hall := @Writer.gives_takeAll_table shell.session.settings schema bs hs hne hb
    (by simp [hrows]) (by simp [hrows])
  rw [hrows] at hall
  have hearly : new.IsEarly ([] : List Row).length := .inl htypes
  obtain ⟨texts, last, hfinish, hwhole⟩ := TableDrawing.gives_finish new hs (.inr hearly)
    (List.forall_mem_nil _)
  have hfirst : ((Writer.create shell.session.settings .table).takeAll
      (playedBack flag (emptyResult schema n elapsed)).1).Gives (new.written schema [])
        (.table (new.standing schema [])) := by
    rw [hplayed]
    exact hall
  have hsecond : (Writer.close (playedBack flag (emptyResult schema n elapsed)).2
      (.table (new.standing schema []))).Gives texts (.table last) := by
    rw [hplayed]
    exact hfinish.map Writer.table
  have hpresent := present_recording hshell hplayable hfirst hsecond
  rw [hplayed, hwhole] at hpresent
  exact hpresent

/-- An empty result in one batch. -/
@[irreducible] def noNumbers : List Recorded := emptyResult numberColumn 1 .zero

/-- With no rows kept back a box is drawn for it, and not only the summary line. -/
theorem empty_box_without_lookahead :
    ∃ after, present (.create drawingShell.session.settings .table)
        (drawingShell.replaying noNumbers none drawingShell.console)
          = .ok (.success 0 .zero) after ∧
      after.console.printed .out = [widthNote, "+-------------+\n".toList,
        "| n           |\n".toList, "+-------------+\n".toList, "+-------------+\n".toList,
        "0 rows in set. Query took 0.000 seconds.\n".toList] ∧
      (after.console.printed .out).flatten
        ≠ successLine 0 .zero drawingShell.session.settings.timing := by
  have hshell : drawingShell.console.IsFaultless := by
    unfold drawingShell
    exact isFaultless_freshShell
  have htypes : drawingShell.session.settings.lookaheadRows ≤ 0 := by
    unfold drawingShell
    decide
  have hs : numberColumn ≠ [] := by
    unfold numberColumn
    simp
  have hflag : (EventSource.recording [] none).isRaised = false := rfl
  obtain ⟨after, hpresent, hprinted⟩ :=
    present_headOnly .zero hshell htypes hs Nat.one_ne_zero hflag
  have hout : after.console.printed .out = [widthNote, "+-------------+\n".toList,
      "| n           |\n".toList, "+-------------+\n".toList, "+-------------+\n".toList,
      "0 rows in set. Query took 0.000 seconds.\n".toList] := by
    rw [hprinted]
    unfold drawingShell numberColumn
    rfl
  refine ⟨after, ?_, hout, ?_⟩
  · unfold noNumbers
    exact hpresent
  · rw [hout]
    unfold drawingShell
    decide

end Shell

end SqlShell
