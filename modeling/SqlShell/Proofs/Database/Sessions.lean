import SqlShell.Database.Session

/-! # Sessions of a Database

    What can be said of a session whatever is done with it:

    * **`closed_once`**: the connection is closed once at the most, and for certain
      by the first that closes the session.
    * **`stop_ends`**: a query that is told to stop gives no batch any more, whatever
      the database says to it.
    * **`broken_iff`**: only a session that has been closed and a database that
      breaks down keep a query from being told. -/

namespace SqlShell

/-- **What is done with a session.** -/
inductive SessionCall where
  | submit (statement : Text)
  /-- A query is told to stop, and the database meets with this fault. -/
  | stop (fault : Option DatabaseFault) (q : Query)
  | close

/-- The call closes the session. -/
def SessionCall.closes : SessionCall → Bool
  | .close => true
  | _ => false

namespace DatabaseSession

/-- One call, with the notices that it gives. -/
def call (s : DatabaseSession) : SessionCall → DatabaseSession × List Notice
  | .submit _ => (s, [])
  | .stop fault q => (s, (s.stop fault q).2.toOption.getD [])
  | .close => s.close

/-- **Calls one after the other**, with all their notices. -/
def calls (s : DatabaseSession) : List SessionCall → DatabaseSession × List Notice
  | [] => (s, [])
  | c :: cs => (((s.call c).1.calls cs).1, (s.call c).2 ++ ((s.call c).1.calls cs).2)

variable (s : DatabaseSession)

/-! ## Closing -/

/-- **What a call changes**: one that closes an open session leaves it closed, with
    the notice of it; behind any other call the session is as it was. -/
theorem call_cases (c : SessionCall) :
    (c.closes = true ∧ s.isOpen = true ∧ (s.call c).1.isOpen = false ∧
      (s.call c).2 = [.engineClosed]) ∨
    ((c.closes = true → s.isOpen = false) ∧ (s.call c).1 = s ∧ .engineClosed ∉ (s.call c).2) := by
  cases c with
  | submit statement => exact .inr ⟨nofun, rfl, List.not_mem_nil⟩
  | stop fault q =>
    refine .inr ⟨nofun, rfl, ?_⟩
    simp only [call, stop]
    split <;> simp [Except.toOption]
  | close =>
    simp only [call, close, isOpen]
    cases hs : s.connection with
    | some d => exact .inl ⟨rfl, rfl, rfl, rfl⟩
    | none => exact .inr ⟨fun _ => rfl, rfl, List.not_mem_nil⟩

/-- A session that has been closed stays so, and is not closed again. -/
theorem calls_of_closed (hclosed : s.isOpen = false) (cs : List SessionCall) :
    (s.calls cs).1 = s ∧ .engineClosed ∉ (s.calls cs).2 := by
  induction cs with
  | nil => exact ⟨rfl, List.not_mem_nil⟩
  | cons c cs ih =>
    rcases s.call_cases c with ⟨-, hopen, -⟩ | ⟨-, hsame, hnone⟩
    · rw [hclosed] at hopen
      cases hopen
    · simp only [calls, hsame]
      exact ⟨ih.1, fun h => (List.mem_append.1 h).elim hnone ih.2⟩

/-- **A session is closed once**, however often it is asked to: by the first call that
    closes it. -/
theorem closed_once (hopen : s.isOpen = true) (cs : List SessionCall) :
    (s.calls cs).1.isOpen = !cs.any SessionCall.closes ∧
    (s.calls cs).2.count .engineClosed = if cs.any SessionCall.closes then 1 else 0 := by
  induction cs with
  | nil => exact ⟨hopen, rfl⟩
  | cons c cs ih =>
    rcases s.call_cases c with ⟨hc, -, hclosed, hnotices⟩ | ⟨hc, hsame, hnone⟩
    · -- Behind the closing nothing changes any more.
      obtain ⟨hsame, hnone⟩ := (s.call c).1.calls_of_closed hclosed cs
      simp only [calls, hsame, hclosed, hnotices, hc, List.any_cons, Bool.true_or, Bool.not_true,
        if_true, List.count_append, List.count_eq_zero_of_not_mem hnone]
      exact ⟨trivial, by decide⟩
    · have hc : c.closes = false := by
        cases h : c.closes with
        | false => rfl
        | true => simp [hc h] at hopen
      simp only [calls, hsame, hc, List.any_cons, Bool.false_or, List.count_append,
        List.count_eq_zero_of_not_mem hnone, Nat.zero_add]
      exact ih

/-! ## Stopping -/

/-- **A query that is told to stop gives no batch any more**, whatever the database
    says to that, and whatever it would answer. -/
theorem stop_ends (fault : Option DatabaseFault) (q : Query) (database : Database) :
    ∃ why, ((s.stop fault q).1.next database).1 = .ended why := by
  obtain ⟨statement, size, stopped, state⟩ := q
  cases state <;> exact ⟨_, rfl⟩

/-- **What keeps a query from being told to stop**: there is no connection any more, or
    the database breaks down. What the database reports does not. -/
theorem broken_iff (fault : Option DatabaseFault) (q : Query) (c : Crash) :
    (s.stop fault q).2 = .error c ↔
      s.isOpen = false ∧ c = .connectionClosed "interrupt" ∨
      s.isOpen = true ∧ fault = some (.crash c) := by
  simp only [stop, isOpen]
  split <;> simp_all [eq_comm]

end DatabaseSession

end SqlShell
