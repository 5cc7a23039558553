import SqlShell.Database.Query

/-! # Fetching a Result

    A query gives its result a batch at a time: **all of it, in order, and no call
    of the database once it has been told to stop**.

    * **`EndsAfter`** says which batches the steps of a query give and why they end.
    * **`IsSplit`** is the right way to cut rows into batches, and **`Delivers`** what
      a query is to deliver for each answer of its database.
    * **`nextIn`** is a step of a query with the calls of the database made in any
      monad: `nextIn_stop` says that a query that has been stopped makes none.
    * **`delivers_result`** puts these together. -/

namespace SqlShell

/-! ## Faults -/

/-- **How a stream ends over a fault**: an interruption is a cancellation, any other
    fault that the database reports is the failure it becomes, and a breakdown
    comes through as it is. -/
inductive DatabaseFault.Surfaces : DatabaseFault → Ending → Prop where
  | interrupted (message : Text) : Surfaces (.reported .interrupted message) .cancelled
  | reported (kind : DatabaseFaultKind) (message : Text) (h : kind ≠ .interrupted) :
    Surfaces (.reported kind message)
      (.failed ⟨dropFaultLabel (Text.trim message), kind.stage⟩)
  | crash (c : Crash) : Surfaces (.crash c) (.crashed c)

theorem DatabaseFault.surfaces_ending (f : DatabaseFault) : f.Surfaces f.ending := by
  cases f with
  | crash c => exact .crash c
  | reported kind message =>
    by_cases hkind : kind = .interrupted
    · rw [hkind]
      exact .interrupted message
    · have hending : (reported kind message).ending
          = .failed ⟨dropFaultLabel (Text.trim message), kind.stage⟩ := by
        cases kind with
        | interrupted => exact absurd rfl hkind
        | _ => rfl
      rw [hending]
      exact .reported kind message hkind

theorem DatabaseFault.ending_ne_complete (f : DatabaseFault) : f.ending ≠ .complete := by
  intro h
  have hsurfaces := f.surfaces_ending
  rw [h] at hsurfaces
  cases hsurfaces

/-! ## Cursors -/

namespace Cursor

variable {c : Cursor} {size : Nat}

/-- The fault of a fetch, counted from the next one on. -/
def faultAt (c : Cursor) (k : Nat) : Option DatabaseFault :=
  match c.fault with
  | some (n, f) => if n = c.fetches + k then some f else none
  | none => none

/-- The cursor after a fetch. -/
def fetched (size : Nat) (c : Cursor) : Cursor :=
  { c with rows := c.rows.drop size, fetches := c.fetches + 1 }

/-- **A fetch** fails, waits, or gives the next rows. -/
theorem fetch_eq (size : Nat) (c : Cursor) : c.fetch size =
    match c.faultAt 0 with
    | some f => .fault f
    | none => if c.blocks && c.rows.isEmpty then .blocked else .rows (c.rows.take size)
        (c.fetched size) := by
  unfold fetch faultAt fetched
  dsimp only
  cases c.fault with
  | none => rfl
  | some fault =>
    obtain ⟨n, f⟩ := fault
    by_cases hn : n = c.fetches
    · simp [hn]
    · simp [hn]

theorem fetch_of_fault {f : DatabaseFault} (h : c.faultAt 0 = some f) :
    c.fetch size = .fault f := by
  rw [fetch_eq, h]

theorem fetch_of_no_fault (h : c.faultAt 0 = none) (hblocks : c.blocks = false) :
    c.fetch size = .rows (c.rows.take size) (c.fetched size) := by
  rw [fetch_eq, h]
  simp [hblocks]

/-- Behind the last row a fetch gives none. -/
theorem fetch_of_no_rows (h : c.faultAt 0 = none) (hblocks : c.blocks = false)
    (hrows : c.rows = []) : c.fetch size = .rows [] (c.fetched size) := by
  rw [fetch_of_no_fault h hblocks, hrows, List.take_nil]

theorem fetched_eq_of_fetch {rs : List Row} {rest : Cursor} (h : c.fetch size = .rows rs rest) :
    rs = c.rows.take size ∧ rest = c.fetched size := by
  rw [fetch_eq] at h
  split at h
  case h_1 => cases h
  case h_2 =>
    split at h
    case isTrue => cases h
    case isFalse =>
      cases h
      exact ⟨rfl, rfl⟩

/-- The faults behind a fetch are the faults that there were. -/
theorem faultAt_fetched (size k : Nat) : (c.fetched size).faultAt k = c.faultAt (k + 1) := by
  unfold faultAt fetched
  cases c.fault with
  | none => rfl
  | some fault =>
    obtain ⟨n, f⟩ := fault
    have hsame : n = c.fetches + 1 + k ↔ n = c.fetches + (k + 1) := by omega
    simp only [hsame]

/-- **One fetch fails** at the most. -/
theorem faultAt_unique {j k : Nat} {f : DatabaseFault} (h : c.faultAt k = some f) (hj : j ≠ k) :
    c.faultAt j = none := by
  unfold faultAt at h ⊢
  split at h
  case h_1 n f' _ =>
    by_cases hn : n = c.fetches + k
    · have hother : n ≠ c.fetches + j := by omega
      exact if_neg hother
    · rw [if_neg hn] at h
      cases h
  case h_2 => rfl

end Cursor

/-! ## Cutting rows into batches -/

/-- **Rows are cut into batches** of one size: batches that are not empty, all of them
    full but the last one, whose rows are the rows, one after the other. -/
structure IsSplit (schema : Schema) (size : Nat) (rows : List Row) (bs : List Batch) : Prop where
  schema : ∀ b ∈ bs, b.schema = schema
  nonempty : ∀ b ∈ bs, b.rows ≠ []
  full : ∀ b ∈ bs.dropLast, b.rows.length = size
  le : ∀ b ∈ bs, b.rows.length ≤ size
  flat : bs.flatMap Batch.rows = rows
  count : bs.length = (rows.length + size - 1) / size

/-- The batches of some rows. -/
def batchesOf (schema : Schema) (size : Nat) (rows : List Row) : List Batch :=
  (List.range ((rows.length + size - 1) / size)).map fun k =>
    ⟨schema, (rows.drop (k * size)).take size⟩

section Splitting

variable {schema : Schema} {size : Nat} {rows : List Row} {bs : List Batch} (hsize : 1 ≤ size)

include hsize

theorem batchesOf_nil : batchesOf schema size [] = [] := by
  have hnone : (([] : List Row).length + size - 1) / size = 0 := by
    apply Nat.div_eq_of_lt
    rw [List.length_nil]
    omega
  rw [batchesOf, hnone]
  rfl

/-- **The first batch** and the batches of the rows behind it. -/
theorem batchesOf_eq_cons (hrows : rows ≠ []) : batchesOf schema size rows
    = ⟨schema, rows.take size⟩ :: batchesOf schema size (rows.drop size) := by
  have hpos : 0 < rows.length := List.length_pos_iff.2 hrows
  have hcount : (rows.length + size - 1) / size
      = ((rows.drop size).length + size - 1) / size + 1 := by
    rw [List.length_drop]
    by_cases hlong : size ≤ rows.length
    · have hsum : rows.length + size - 1 = rows.length - size + size - 1 + size := by omega
      rw [hsum, Nat.add_div_right _ hsize]
    · have hnone : (rows.length - size + size - 1) / size = 0 := Nat.div_eq_of_lt (by omega)
      have hone : (rows.length - 1) / size = 0 := Nat.div_eq_of_lt (by omega)
      have hsum : rows.length + size - 1 = rows.length - 1 + size := by omega
      rw [hnone, hsum, Nat.add_div_right _ hsize, hone]
  unfold batchesOf
  rw [hcount, List.range_succ_eq_map, List.map_cons, List.map_map]
  congr 1
  · rw [Nat.zero_mul, List.drop_zero]
  · apply List.map_congr_left
    intro k _
    show Batch.mk schema ((rows.drop ((k + 1) * size)).take size)
      = ⟨schema, ((rows.drop size).drop (k * size)).take size⟩
    rw [List.drop_drop, Nat.succ_mul, Nat.add_comm]

/-- **One batch more**: the next rows in front. -/
theorem IsSplit.cons (hrows : rows ≠ []) (h : IsSplit schema size (rows.drop size) bs)
    (hcount : bs.length + 1 = (rows.length + size - 1) / size) :
    IsSplit schema size rows (⟨schema, rows.take size⟩ :: bs) := by
  have hpos : 0 < rows.length := List.length_pos_iff.2 hrows
  have htake : (rows.take size).length = min size rows.length := List.length_take
  constructor
  · intro b hb
    rcases List.mem_cons.1 hb with hfirst | hb
    · rw [hfirst]
    · exact h.schema b hb
  · intro b hb
    rcases List.mem_cons.1 hb with hfirst | hb
    · rw [hfirst]
      apply List.length_pos_iff.1
      show 0 < (rows.take size).length
      omega
    · exact h.nonempty b hb
  · intro b hb
    cases bs with
    | nil => cases hb
    | cons next bs =>
      rw [List.dropLast_cons_of_ne_nil (List.cons_ne_nil _ _)] at hb
      rcases List.mem_cons.1 hb with hfirst | hb
      · -- There are rows behind the first batch, so it is full.
        have hlong : size < rows.length := by
          by_cases hlong : size < rows.length
          · exact hlong
          · have hflat := h.flat
            rw [List.drop_eq_nil_of_le (Nat.le_of_not_lt hlong), List.flatMap_cons] at hflat
            exact absurd (List.append_eq_nil_iff.1 hflat).1 (h.nonempty next List.mem_cons_self)
        rw [hfirst]
        show (rows.take size).length = size
        omega
      · exact h.full b hb
  · intro b hb
    rcases List.mem_cons.1 hb with hfirst | hb
    · rw [hfirst]
      show (rows.take size).length ≤ size
      omega
    · exact h.le b hb
  · rw [List.flatMap_cons, h.flat]
    exact List.take_append_drop size rows
  · exact hcount

end Splitting

/-- **Induction over batches**: what holds of no rows, and of some rows if it holds of
    those behind their first batch, holds of all rows. -/
theorem batch_induction {size : Nat} (hsize : 1 ≤ size) {P : List Row → Prop} (hnil : P [])
    (hstep : ∀ rows, rows ≠ [] → P (rows.drop size) → P rows) (rows : List Row) : P rows := by
  by_cases hrows : rows = []
  · rw [hrows]
    exact hnil
  · exact hstep rows hrows (batch_induction hsize hnil hstep (rows.drop size))
termination_by rows.length
decreasing_by
  have hpos : 0 < rows.length := List.length_pos_iff.2 hrows
  rw [List.length_drop]
  omega

/-- **Batches are such a split.** -/
theorem isSplit_batchesOf {schema : Schema} {size : Nat} (hsize : 1 ≤ size) (rows : List Row) :
    IsSplit schema size rows (batchesOf schema size rows) := by
  have hcount (rows : List Row) :
      (batchesOf schema size rows).length = (rows.length + size - 1) / size := by
    rw [batchesOf, List.length_map, List.length_range]
  induction rows using batch_induction hsize with
  | hnil =>
    have hnone := hcount []
    rw [batchesOf_nil hsize] at hnone ⊢
    exact ⟨nofun, nofun, nofun, nofun, rfl, hnone⟩
  | hstep rows hrows ih =>
    have hlength := hcount rows
    rw [batchesOf_eq_cons hsize hrows] at hlength ⊢
    exact ih.cons hsize hrows hlength

namespace Query

/-! ## The steps of a query -/

/-- **The batches that the steps of a query give**, and why there are no more. -/
def EndsAfter (database : Text → Answer) (why : Ending) : List Batch → Query → Prop
  | [], q => (q.next database).1 = .ended why
  | b :: bs, q => (q.next database).1 = .batch b ∧ EndsAfter database why bs (q.next database).2

/-- The query after some steps. -/
def after (database : Text → Answer) : Nat → Query → Query
  | 0, q => q
  | n + 1, q => after database n (q.next database).2

section Steps

variable {database : Text → Answer} {q p : Query} {bs bs' : List Batch} {why why' : Ending}

/-- **There is one such list** and one such end. -/
theorem EndsAfter.unique (h : EndsAfter database why bs q) (h' : EndsAfter database why' bs' q) :
    bs = bs' ∧ why = why' := by
  induction bs generalizing q bs' with
  | nil =>
    cases bs' with
    | nil => exact ⟨rfl, Pull.ended.inj (h.symm.trans h')⟩
    | cons => cases h.symm.trans h'.1
  | cons b bs ih =>
    cases bs' with
    | nil => cases h.1.symm.trans h'
    | cons b' bs' =>
      obtain ⟨hrest, hwhy⟩ := ih h.2 h'.2
      have hfirst : b = b' := Pull.batch.inj (h.1.symm.trans h'.1)
      exact ⟨by rw [hfirst, hrest], hwhy⟩

/-- Only the next step counts. -/
theorem EndsAfter.congr (hnext : q.next database = p.next database)
    (h : EndsAfter database why bs p) : EndsAfter database why bs q := by
  cases bs with
  | nil => exact (congrArg Prod.fst hnext).trans h
  | cons b bs =>
    refine ⟨(congrArg Prod.fst hnext).trans h.1, ?_⟩
    rw [hnext]
    exact h.2

end Steps

/-! ## Fetching -/

/-- What a query makes of a fetch. -/
def ofFetched (schema : Schema) (first : Bool) : Fetched → Pull × QueryState
  | .fault f => (.ended f.ending, .done)
  | .blocked => (.ended .blocked, .done)
  | .rows [] _ => if first then (.batch ⟨schema, []⟩, .done) else (.ended .complete, .done)
  | .rows (r :: rs) rest => (.batch ⟨schema, r :: rs⟩, .fetching schema rest false)

theorem fetchNext_eq (size : Nat) (schema : Schema) (cursor : Cursor) (first : Bool) :
    fetchNext size schema cursor first = ofFetched schema first (cursor.fetch size) := by
  unfold fetchNext ofFetched
  cases cursor.fetch size with
  | fault | blocked => rfl
  | rows rs rest => cases rs <;> rfl

section Fetching

variable {database : Text → Answer} {schema : Schema} {cursor : Cursor} {first : Bool}
  {q : Query} {f : DatabaseFault}

/-- Nothing comes behind the end. -/
theorem endsAfter_of_done (hstate : q.state = .done) : EndsAfter database .complete [] q := by
  show (q.next database).1 = .ended .complete
  rw [next, hstate]

section Steps

variable (hstate : q.state = .fetching schema cursor first) (hrunning : q.stopped = false)

include hstate hrunning

/-- **The step of a query that is fetching.** -/
theorem next_of_fetching : q.next database
    = ((ofFetched schema first (cursor.fetch q.batchSize)).1,
      { q with state := (ofFetched schema first (cursor.fetch q.batchSize)).2 }) := by
  rw [← fetchNext_eq]
  unfold next
  simp [hstate, hrunning]

/-- The fetch fails. -/
theorem endsAfter_of_fault (hfetch : cursor.fetch q.batchSize = .fault f) :
    EndsAfter database f.ending [] q := by
  show (q.next database).1 = .ended f.ending
  rw [next_of_fetching hstate hrunning, hfetch]
  rfl

/-- **There are no rows**: a query that has given none gives an empty batch. -/
theorem endsAfter_of_no_rows {rest : Cursor} (hfetch : cursor.fetch q.batchSize = .rows [] rest) :
    EndsAfter database .complete (if first then [⟨schema, []⟩] else []) q := by
  have hnext : q.next database = _ := next_of_fetching hstate hrunning
  rw [hfetch] at hnext
  cases first with
  | false => exact congrArg Prod.fst hnext
  | true =>
    refine ⟨congrArg Prod.fst hnext, ?_⟩
    rw [hnext]
    exact endsAfter_of_done rfl

/-- **There are rows**: they are given, and what comes behind them is what a query
    gives that goes on with the cursor. -/
theorem endsAfter_of_rows {rs : List Row} {rest : Cursor} {bs : List Batch} {why : Ending}
    (hfetch : cursor.fetch q.batchSize = .rows rs rest) (hrows : rs ≠ [])
    (h : EndsAfter database why bs { q with state := .fetching schema rest false }) :
    EndsAfter database why (⟨schema, rs⟩ :: bs) q := by
  have hnext : q.next database = _ := next_of_fetching hstate hrunning
  rw [hfetch] at hnext
  cases rs with
  | nil => exact absurd rfl hrows
  | cons r rs =>
    refine ⟨congrArg Prod.fst hnext, ?_⟩
    rw [hnext]
    exact h

end Steps

theorem take_ne_nil {size : Nat} {rows : List Row} (hsize : 1 ≤ size) (hrows : rows ≠ []) :
    rows.take size ≠ [] := by
  intro hnone
  rcases List.take_eq_nil_iff.1 hnone with hzero | hnone
  · omega
  · exact hrows hnone

/-- **A fetch fails**: the batches in front of it are given, and nothing else. -/
theorem endsAfter_take_batchesOf {k : Nat} (hsize : 1 ≤ q.batchSize)
    (hstate : q.state = .fetching schema cursor first) (hrunning : q.stopped = false)
    (hblocks : cursor.blocks = false) (hfault : cursor.faultAt k = some f)
    (hk : k ≤ (batchesOf schema q.batchSize cursor.rows).length) :
    EndsAfter database f.ending ((batchesOf schema q.batchSize cursor.rows).take k) q := by
  -- Behind a fetch the fault is one fetch nearer.
  induction k generalizing q cursor first with
  | zero => exact endsAfter_of_fault hstate hrunning (Cursor.fetch_of_fault hfault)
  | succ k ih =>
    have hrows : cursor.rows ≠ [] := by
      intro hnone
      rw [hnone, batchesOf_nil hsize] at hk
      exact absurd hk (Nat.not_succ_le_zero k)
    have hfirst : cursor.faultAt 0 = none := Cursor.faultAt_unique hfault (by omega)
    rw [← Cursor.faultAt_fetched q.batchSize] at hfault
    rw [batchesOf_eq_cons hsize hrows] at hk ⊢
    apply endsAfter_of_rows hstate hrunning (Cursor.fetch_of_no_fault hfirst hblocks)
      (take_ne_nil hsize hrows)
    exact ih (q := { q with state := .fetching schema (cursor.fetched q.batchSize) false }) hsize
      rfl hrunning hblocks hfault (Nat.le_of_succ_le_succ hk)

/-- **No fetch fails**: all batches are given. -/
theorem endsAfter_batchesOf (hsize : 1 ≤ q.batchSize)
    (hstate : q.state = .fetching schema cursor first) (hrunning : q.stopped = false)
    (hblocks : cursor.blocks = false) (hfirst : first = true → cursor.rows ≠ [])
    (hnone : ∀ k ≤ (batchesOf schema q.batchSize cursor.rows).length, cursor.faultAt k = none) :
    EndsAfter database .complete (batchesOf schema q.batchSize cursor.rows) q := by
  -- Each fetch leaves fewer rows to be fetched.
  induction hn : cursor.rows.length using Nat.strongRecOn generalizing q cursor first with
  | ind n ih =>
    have hfault := hnone 0 (Nat.zero_le _)
    by_cases hrows : cursor.rows = []
    · have hlast : EndsAfter database .complete (if first then [⟨schema, []⟩] else []) q :=
        endsAfter_of_no_rows hstate hrunning (Cursor.fetch_of_no_rows hfault hblocks hrows)
      have hgiven : first ≠ true := fun h => hfirst h hrows
      rw [if_neg hgiven] at hlast
      rw [hrows, batchesOf_nil hsize]
      exact hlast
    · have hless : (cursor.fetched q.batchSize).rows.length < n := by
        have hpos : 0 < cursor.rows.length := List.length_pos_iff.2 hrows
        show (cursor.rows.drop q.batchSize).length < n
        rw [List.length_drop]
        omega
      rw [batchesOf_eq_cons hsize hrows] at hnone ⊢
      apply endsAfter_of_rows hstate hrunning (Cursor.fetch_of_no_fault hfault hblocks)
        (take_ne_nil hsize hrows)
      refine ih _ hless
        (q := { q with state := .fetching schema (cursor.fetched q.batchSize) false }) hsize rfl
        hrunning hblocks (fun h => Bool.noConfusion h) ?_ rfl
      intro k hk
      rw [Cursor.faultAt_fetched]
      exact hnone (k + 1) (Nat.succ_le_succ hk)

end Fetching

/-! ## The first step -/

section Starting

variable {database : Text → Answer} {q : Query} (hnew : q.state = .ready)
  (hrunning : q.stopped = false)

include hnew hrunning

/-- The statement is not executed. -/
theorem endsAfter_of_error {f : DatabaseFault} (h : database q.statement = .error f) :
    EndsAfter database f.ending [] q := by
  show (q.next database).1 = .ended f.ending
  unfold next
  simp [hnew, hrunning, h]

/-- The statement has no result. -/
theorem endsAfter_of_no_columns {cursor : Cursor} (h : database q.statement = .ok cursor)
    (hcolumns : cursor.columns = none ∨ cursor.columns = some []) :
    EndsAfter database .complete [] q := by
  show (q.next database).1 = .ended .complete
  unfold next
  rcases hcolumns with hcolumns | hcolumns <;> simp [hnew, hrunning, h, hcolumns]

/-- **The statement has a result**: the first step is a fetch. -/
theorem next_of_columns {cursor : Cursor} {schema : Schema} (h : database q.statement = .ok cursor)
    (hcolumns : cursor.columns = some schema) (hschema : schema ≠ []) :
    q.next database = { q with state := .fetching schema cursor true }.next database := by
  cases schema with
  | nil => exact absurd rfl hschema
  | cons column schema =>
    unfold next
    simp [hnew, hrunning, h, hcolumns]

end Starting

/-! ## Calls of the database -/

/-- **The next step of a query**, with the calls of its database made in any monad. -/
def nextIn {m : Type → Type} [Monad m] (execute : Text → m Answer)
    (fetch : Nat → Cursor → m Fetched) (q : Query) : m (Pull × Query) :=
  let leave (p : Pull × QueryState) : Pull × Query := (p.1, { q with state := p.2 })
  match q.state with
  | .done => pure (leave (.ended .complete, .done))
  | .ready =>
    if q.stopped then pure (leave (.ended .cancelled, .done))
    else do
      match ← execute q.statement with
      | .error f => pure (leave (.ended f.ending, .done))
      | .ok cursor =>
        match cursor.columns with
        | none | some [] => pure (leave (.ended .complete, .done))
        | some schema => do
          let fetched ← fetch q.batchSize cursor
          pure (leave (ofFetched schema true fetched))
  | .fetching schema cursor first =>
    if q.stopped then pure (leave (.ended .cancelled, .done))
    else do
      let fetched ← fetch q.batchSize cursor
      pure (leave (ofFetched schema first fetched))

/-- Without effects it is the step of the query. -/
theorem nextIn_id (database : Text → Answer) (q : Query) :
    nextIn (m := Id) database (fun size c => c.fetch size) q = q.next database := by
  unfold nextIn next
  simp only [fetchNext_eq]
  cases q.state with
  | done => rfl
  | fetching schema cursor first => cases q.stopped <;> rfl
  | ready =>
    cases q.stopped with
    | true => rfl
    | false =>
      dsimp only [bind, pure]
      cases database q.statement with
      | error f => rfl
      | ok cursor =>
        dsimp only
        cases cursor.columns with
        | none => rfl
        | some schema => cases schema <;> rfl

/-- How the next step of a query ends that has been told to stop. -/
def endingIfStopped (q : Query) : Ending :=
  match q.state with
  | .done => .complete
  | .ready | .fetching _ _ _ => .cancelled

/-- **A query that has been told to stop calls nothing**: in every monad its next step
    is without an effect. -/
theorem nextIn_stop {m : Type → Type} [Monad m] (execute : Text → m Answer)
    (fetch : Nat → Cursor → m Fetched) (q : Query) : nextIn execute fetch q.stop
      = pure (.ended q.endingIfStopped, { q.stop with state := .done }) := by
  obtain ⟨statement, size, stopped, state⟩ := q
  cases state <;> rfl

/-- **A step** ends the query, or it gives what the query makes of a fetch. -/
theorem next_cases (database : Text → Answer) (q : Query) :
    (∃ why, q.next database = (.ended why, { q with state := .done })) ∨
      ∃ schema first, ∃ cursor : Cursor, q.next database
        = ((ofFetched schema first (cursor.fetch q.batchSize)).1,
          { q with state := (ofFetched schema first (cursor.fetch q.batchSize)).2 }) := by
  unfold next
  simp only [fetchNext_eq]
  split
  case h_1 => exact .inl ⟨_, rfl⟩
  case h_2 =>
    split
    case isTrue => exact .inl ⟨_, rfl⟩
    case isFalse =>
      split
      case h_1 => exact .inl ⟨_, rfl⟩
      case h_2 =>
        split
        case h_1 => exact .inl ⟨_, rfl⟩
        case h_2 => exact .inl ⟨_, rfl⟩
        case h_3 => exact .inr ⟨_, _, _, rfl⟩
  case h_3 =>
    split
    case isTrue => exact .inl ⟨_, rfl⟩
    case isFalse => exact .inr ⟨_, _, _, rfl⟩

/-- **A batch is the last one** if it is empty, and only then. -/
theorem state_of_batch {database : Text → Answer} {q : Query} {b : Batch}
    (h : (q.next database).1 = .batch b) :
    b.rows = [] ∧ (q.next database).2.state = .done ∨
      b.rows ≠ [] ∧ (q.next database).2.state ≠ .done := by
  rcases next_cases database q with ⟨why, hnext⟩ | ⟨schema, first, cursor, hnext⟩
  · rw [hnext] at h
    cases h
  · rw [hnext] at h ⊢
    revert h
    cases cursor.fetch q.batchSize with
    | fault | blocked => exact fun h => nomatch h
    | rows rs rest =>
      intro h
      cases rs with
      | nil =>
        cases first with
        | false => cases h
        | true =>
          cases h
          exact .inl ⟨rfl, rfl⟩
      | cons r rs =>
        cases h
        exact .inr ⟨nofun, nofun⟩

/-- How a query ends that is told to stop behind some batches: it is cancelled, unless
    it has given the empty batch of a result without rows. -/
def endingBehind (given : List Batch) : Ending :=
  if given.any fun b => b.rows.isEmpty then .complete else .cancelled

/-- **A query that is told to stop behind some batches** ends in this way. -/
theorem endingIfStopped_after {database : Text → Answer} {q : Query} {bs : List Batch}
    {why : Ending} {j : Nat} (h : EndsAfter database why bs q) (hstate : q.state ≠ .done)
    (hj : j ≤ bs.length) : (q.after database j).endingIfStopped = endingBehind (bs.take j) := by
  induction j generalizing q bs with
  | zero =>
    show q.endingIfStopped = .cancelled
    unfold endingIfStopped
    cases hq : q.state with
    | done => exact absurd hq hstate
    | ready | fetching => rfl
  | succ j ih =>
    cases bs with
    | nil => exact absurd hj (Nat.not_succ_le_zero j)
    | cons b bs =>
      obtain ⟨hbatch, hrest⟩ := h
      rw [List.take_succ_cons, endingBehind, List.any_cons]
      show ((q.next database).2.after database j).endingIfStopped = _
      rcases state_of_batch hbatch with ⟨hempty, hdone⟩ | ⟨hfull, hgoing⟩
      · -- Behind the empty batch there is no other one to stop behind.
        have hnone : bs = [] := (hrest.unique (endsAfter_of_done hdone)).1
        have hzero : j = 0 := by
          rw [hnone] at hj
          exact Nat.le_zero.1 (Nat.le_of_succ_le_succ hj)
        rw [hzero, hempty]
        show (q.next database).2.endingIfStopped = .complete
        rw [endingIfStopped, hdone]
      · have hsome : b.rows.isEmpty = false := List.isEmpty_eq_false_iff.2 hfull
        rw [hsome, Bool.false_or]
        exact ih hrest hgoing (Nat.le_of_succ_le_succ hj)

/-! ## Whole results -/

section Streams

variable {database : Text → Answer} {schema : Schema} {cursor : Cursor} {first : Bool}
  {q : Query} {fuel : Nat}

/-- Fetching it all at once gives what the steps of the query give. -/
theorem endsAfter_fetchAll (hsize : 1 ≤ q.batchSize)
    (hstate : q.state = .fetching schema cursor first) (hrunning : q.stopped = false)
    (hfuel : cursor.rows.length < fuel) {bs : List Batch} {why : Ending}
    (hall : fetchAll q.batchSize schema fuel cursor = (bs, why))
    (hfirst : first = true → bs ≠ [] ∨ why ≠ .complete) : EndsAfter database why bs q := by
  -- There is more fuel than rows, and each fetch that goes on takes a row.
  induction fuel generalizing q cursor first bs with
  | zero => exact absurd hfuel (Nat.not_lt_zero _)
  | succ fuel ih =>
    unfold fetchAll at hall
    cases hfetch : cursor.fetch q.batchSize with
    | fault f =>
      rw [hfetch] at hall
      cases hall
      exact endsAfter_of_fault hstate hrunning hfetch
    | blocked =>
      rw [hfetch] at hall
      cases hall
      show (q.next database).1 = .ended .blocked
      rw [next_of_fetching hstate hrunning, hfetch]
      rfl
    | rows rs rest =>
      obtain ⟨htake, hrest⟩ := Cursor.fetched_eq_of_fetch hfetch
      rw [hfetch] at hall
      cases rs with
      | nil =>
        cases hall
        have hlast : EndsAfter database .complete (if first then [⟨schema, []⟩] else []) q :=
          endsAfter_of_no_rows hstate hrunning hfetch
        have hgiven : first ≠ true := fun h => (hfirst h).elim (absurd rfl) (absurd rfl)
        rw [if_neg hgiven] at hlast
        exact hlast
      | cons r rs =>
        have hless : rest.rows.length < fuel := by
          have hpos := congrArg List.length htake
          rw [List.length_cons, List.length_take] at hpos
          rw [hrest]
          show (cursor.rows.drop q.batchSize).length < fuel
          rw [List.length_drop]
          omega
        cases hall
        apply endsAfter_of_rows hstate hrunning hfetch nofun
        exact ih (q := { q with state := .fetching schema rest false }) hsize rfl hrunning hless
          rfl (fun h => Bool.noConfusion h)

/-- A result without rows has been seen by its first fetch. -/
theorem fetch_of_fetchAll_eq_nil {size : Nat}
    (h : fetchAll size schema (fuel + 1) cursor = ([], .complete)) :
    ∃ rest, cursor.fetch size = .rows [] rest := by
  unfold fetchAll at h
  cases hfetch : cursor.fetch size with
  | fault f =>
    rw [hfetch] at h
    exact absurd (congrArg Prod.snd h) f.ending_ne_complete
  | blocked =>
    rw [hfetch] at h
    cases h
  | rows rs rest =>
    cases rs with
    | nil => exact ⟨rest, rfl⟩
    | cons r rs =>
      rw [hfetch] at h
      cases h

theorem closable_stream (database : Text → Answer) (statement : Text) (size : Nat) :
    (stream database statement size).closable = true := by
  unfold stream
  split
  · rfl
  · split
    · rfl
    · rfl
    · split <;> rfl

/-- **The stream of a query** is what its steps give. -/
theorem endsAfter_stream (hnew : q.state = .ready) (hrunning : q.stopped = false)
    (hsize : 1 ≤ q.batchSize) :
    EndsAfter database (stream database q.statement q.batchSize).ending
      (stream database q.statement q.batchSize).batches q := by
  unfold stream
  cases hanswer : database q.statement with
  | error f => exact endsAfter_of_error hnew hrunning hanswer
  | ok cursor =>
    dsimp only
    split
    case h_1 hcolumns => exact endsAfter_of_no_columns hnew hrunning hanswer (.inl hcolumns)
    case h_2 hcolumns => exact endsAfter_of_no_columns hnew hrunning hanswer (.inr hcolumns)
    case h_3 schema hschema hcolumns =>
      -- Without rows the stream has an empty batch in place of what was fetched.
      apply EndsAfter.congr (next_of_columns hnew hrunning hanswer hcolumns hschema)
      split
      case h_1 hall =>
        obtain ⟨rest, hfetch⟩ := fetch_of_fetchAll_eq_nil hall
        exact endsAfter_of_no_rows (q := { q with state := .fetching schema cursor true }) rfl
          hrunning hfetch
      case h_2 bs why hother hall =>
        apply endsAfter_fetchAll (q := { q with state := .fetching schema cursor true }) hsize rfl
          hrunning (Nat.lt_succ_self _) hall
        intro _
        by_cases hbs : bs = []
        · exact .inr fun hwhy => hother hbs hwhy
        · exact .inl hbs

end Streams

/-! ## What a query is to deliver -/

/-- **What a query is to deliver**, as its database answers: which batches, and how
    they end. -/
inductive Delivers (size : Nat) : Answer → List Batch → Ending → Prop where
  /-- The statement is not executed. -/
  | refused (f : DatabaseFault) (why : Ending) (h : f.Surfaces why) :
    Delivers size (.error f) [] why
  /-- It has no result. -/
  | withoutResult (cursor : Cursor) (h : cursor.columns = none ∨ cursor.columns = some []) :
    Delivers size (.ok cursor) [] .complete
  /-- A fetch fails: all batches in front of it come, and no other. -/
  | failed (cursor : Cursor) (schema : Schema) (bs : List Batch) (k : Nat) (f : DatabaseFault)
    (why : Ending) (hcolumns : cursor.columns = some schema) (hschema : schema ≠ [])
    (hsplit : IsSplit schema size cursor.rows bs) (hk : k ≤ bs.length)
    (hfault : cursor.faultAt k = some f) (h : f.Surfaces why) :
    Delivers size (.ok cursor) (bs.take k) why
  /-- There are no rows: one batch tells the columns. -/
  | withoutRows (cursor : Cursor) (schema : Schema) (hcolumns : cursor.columns = some schema)
    (hschema : schema ≠ []) (hrows : cursor.rows = []) (hfault : cursor.faultAt 0 = none) :
    Delivers size (.ok cursor) [⟨schema, []⟩] .complete
  /-- All rows come. -/
  | complete (cursor : Cursor) (schema : Schema) (bs : List Batch)
    (hcolumns : cursor.columns = some schema) (hschema : schema ≠ []) (hrows : cursor.rows ≠ [])
    (hsplit : IsSplit schema size cursor.rows bs)
    (hnone : ∀ k ≤ bs.length, cursor.faultAt k = none) : Delivers size (.ok cursor) bs .complete

/-- **A query delivers that.** -/
theorem exists_delivers {database : Text → Answer} {q : Query} (hnew : q.state = .ready)
    (hrunning : q.stopped = false) (hsize : 1 ≤ q.batchSize)
    (hblocks : ∀ cursor, database q.statement = .ok cursor → cursor.blocks = false) :
    ∃ bs why, Delivers q.batchSize (database q.statement) bs why ∧
      EndsAfter database why bs q := by
  cases hanswer : database q.statement with
  | error f =>
    exact ⟨[], f.ending, .refused f f.ending f.surfaces_ending,
      endsAfter_of_error hnew hrunning hanswer⟩
  | ok cursor =>
    have hcursor := hblocks cursor hanswer
    by_cases hcolumns : cursor.columns = none ∨ cursor.columns = some []
    · exact ⟨[], .complete, .withoutResult cursor hcolumns,
        endsAfter_of_no_columns hnew hrunning hanswer hcolumns⟩
    · obtain ⟨schema, hcolumns, hschema⟩ :
          ∃ schema, cursor.columns = some schema ∧ schema ≠ [] := by
        cases hsome : cursor.columns with
        | none => exact absurd (.inl hsome) hcolumns
        | some schema =>
          refine ⟨schema, rfl, ?_⟩
          intro hnone
          rw [hnone] at hsome
          exact hcolumns (.inr hsome)
      have hnext := next_of_columns hnew hrunning hanswer hcolumns hschema
      have hsplit : IsSplit schema q.batchSize cursor.rows
          (batchesOf schema q.batchSize cursor.rows) := isSplit_batchesOf hsize cursor.rows
      by_cases hfault : ∃ k ≤ (batchesOf schema q.batchSize cursor.rows).length, ∃ f,
          cursor.faultAt k = some f
      · obtain ⟨k, hk, f, hf⟩ := hfault
        exact ⟨_, f.ending,
          .failed cursor schema _ k f f.ending hcolumns hschema hsplit hk hf f.surfaces_ending,
          .congr hnext (endsAfter_take_batchesOf
            (q := { q with state := .fetching schema cursor true }) hsize rfl hrunning hcursor hf
            hk)⟩
      · have hnone : ∀ k ≤ (batchesOf schema q.batchSize cursor.rows).length,
            cursor.faultAt k = none := by
          intro k hk
          cases hf : cursor.faultAt k with
          | none => rfl
          | some f => exact absurd ⟨k, hk, f, hf⟩ hfault
        have hfirst := hnone 0 (Nat.zero_le _)
        by_cases hrows : cursor.rows = []
        · exact ⟨_, .complete, .withoutRows cursor schema hcolumns hschema hrows hfirst,
            .congr hnext (endsAfter_of_no_rows
              (q := { q with state := .fetching schema cursor true }) rfl hrunning
              (Cursor.fetch_of_no_rows hfirst hcursor hrows))⟩
        · exact ⟨_, .complete, .complete cursor schema _ hcolumns hschema hrows hsplit hnone,
            .congr hnext (endsAfter_batchesOf
              (q := { q with state := .fetching schema cursor true }) hsize rfl hrunning hcursor
              (fun _ => hrows) hnone)⟩

/-- **A query delivers the result exactly.**  Whatever the statement and the size of the
    batches, and however the database answers, the steps of a query that is left
    alone give the batches that it is to deliver and end as they are to end, and
    its stream is the same. A query that is told to stop, before its first step or
    behind any of these batches, makes no call of the database any more: in every
    monad its next step is an end without effects. -/
theorem delivers_result (database : Text → Answer) (q : Query) (hnew : q.state = .ready)
    (hrunning : q.stopped = false) (hsize : 1 ≤ q.batchSize)
    (hblocks : ∀ cursor, database q.statement = .ok cursor → cursor.blocks = false) :
    ∃ bs why, Delivers q.batchSize (database q.statement) bs why ∧
      EndsAfter database why bs q ∧
      stream database q.statement q.batchSize = ⟨bs, why, true⟩ ∧
      ∀ j ≤ bs.length,
        EndsAfter database (endingBehind (bs.take j)) [] (q.after database j).stop ∧
        ∀ (m : Type → Type) [Monad m] (execute : Text → m Answer)
          (fetch : Nat → Cursor → m Fetched),
          nextIn execute fetch (q.after database j).stop
            = pure (.ended (endingBehind (bs.take j)),
              { (q.after database j).stop with state := .done }) := by
  obtain ⟨bs, why, hdelivers, hends⟩ := exists_delivers hnew hrunning hsize hblocks
  refine ⟨bs, why, hdelivers, hends, ?_, ?_⟩
  · obtain ⟨hbatches, hending⟩ := (endsAfter_stream hnew hrunning hsize).unique hends
    have hclosable := closable_stream database q.statement q.batchSize
    rw [← hbatches, ← hending, ← hclosable]
  · intro j hj
    have hstop {m : Type → Type} [Monad m] (execute : Text → m Answer)
        (fetch : Nat → Cursor → m Fetched) : nextIn execute fetch (q.after database j).stop
          = pure (.ended (endingBehind (bs.take j)),
            { (q.after database j).stop with state := .done }) := by
      have hstate : q.state ≠ .done := by
        rw [hnew]
        nofun
      rw [nextIn_stop, endingIfStopped_after hends hstate hj]
    refine ⟨?_, fun m _ => hstop⟩
    show ((q.after database j).stop.next database).1 = _
    rw [← nextIn_id, hstop]
    rfl

/-- A cursor over three rows whose second fetch is interrupted. -/
def interruptedCursor : Cursor where
  columns := some [⟨"n".toList, "INTEGER".toList⟩]
  rows := [[.int 1], [.int 2], [.int 3]]
  fault := some (1, .reported .interrupted "Interrupted!".toList)

/-- The first batch is delivered, and then the interruption. -/
theorem delivers_result_interrupted :
    let q : Query := { statement := "select".toList, batchSize := 2 }
    q.state = .ready ∧ q.stopped = false ∧ 1 ≤ q.batchSize ∧ interruptedCursor.blocks = false ∧
      stream (fun _ => .ok interruptedCursor) q.statement q.batchSize
        = ⟨[⟨[⟨"n".toList, "INTEGER".toList⟩], [[.int 1], [.int 2]]⟩], .cancelled, true⟩ := by
  intro q
  have hsize : 1 ≤ q.batchSize := by decide
  refine ⟨rfl, rfl, hsize, rfl, ?_⟩
  obtain ⟨bs, why, -, hends, hstream, -⟩ := delivers_result (fun _ => .ok interruptedCursor) q rfl
    rfl hsize fun cursor h => Except.ok.inj h ▸ rfl
  have hgives : EndsAfter (fun _ => .ok interruptedCursor) .cancelled
      [⟨[⟨"n".toList, "INTEGER".toList⟩], [[.int 1], [.int 2]]⟩] q := ⟨rfl, rfl⟩
  obtain ⟨hbatches, hwhy⟩ := hends.unique hgives
  rw [hstream, hbatches, hwhy]

end Query

end SqlShell
