import Mathlib.Data.List.Induction
import SqlShell.Output.Writer

/-! # Productions of a Writer

    What comes of the requests to a writer that it does not give up:

    - `Production.Gives` tells the texts of a production and its last state, and
      is put together and taken apart along `andThen`;
    - `forEach_induction` proves what holds of every writer that has taken all
      elements of a list;
    - `Writer.takeAll` is a writer that takes many batches. -/

namespace SqlShell

namespace Production

variable {σ τ α : Type}

/-- **The texts** of a production, in order. -/
def texts (p : Production σ) : List Text := p.steps.map Prod.snd

/-- **A production that is not given up**, its texts and its last state. -/
structure Gives (p : Production σ) (texts : List Text) (last : σ) : Prop where
  texts : p.texts = texts
  last : p.last = last
  whole : p.crash = none

theorem gives {p : Production σ} (h : p.crash = none) : p.Gives p.texts p.last := ⟨rfl, rfl, h⟩

theorem gives_done (s : σ) : (done s).Gives [] s := ⟨rfl, rfl, rfl⟩

theorem gives_write (s : σ) (text : Text) : (write s text).Gives [text] s := ⟨rfl, rfl, rfl⟩

/-- What is given up gives nothing. -/
theorem not_gives_fail (s : σ) (c : Crash) {texts : List Text} {last : σ} :
    ¬ (fail s c).Gives texts last := fun h => nomatch h.whole

/-- A production gives one thing only. -/
theorem Gives.unique {p : Production σ} {texts texts' : List Text} {last last' : σ}
    (h : p.Gives texts last) (h' : p.Gives texts' last') : texts = texts' ∧ last = last' :=
  ⟨h.texts.symm.trans h'.texts, h.last.symm.trans h'.last⟩

@[simp] theorem texts_map (f : σ → τ) (p : Production σ) : (p.map f).texts = p.texts :=
  List.map_map

theorem Gives.map {p : Production σ} {texts : List Text} {last : σ} (h : p.Gives texts last)
    (f : σ → τ) : (p.map f).Gives texts (f last) :=
  ⟨(texts_map f p).trans h.texts, congrArg f h.last, h.whole⟩

theorem Gives.of_map {p : Production σ} {f : σ → τ} {texts : List Text} {last : τ}
    (h : (p.map f).Gives texts last) : ∃ s, last = f s ∧ p.Gives texts s :=
  ⟨p.last, h.last.symm, (texts_map f p).symm.trans h.texts, rfl, h.whole⟩

/-! ## One after the other -/

section AndThen

variable {p : Production σ} {next : σ → Production σ}

/-- Nothing follows where the writer breaks down. -/
theorem andThen_of_crash {c : Crash} (h : p.crash = some c) : p.andThen next = p := by
  simp only [andThen, h]

theorem crash_andThen (h : p.crash = none) : (p.andThen next).crash = (next p.last).crash := by
  simp only [andThen, h]

theorem last_andThen (h : p.crash = none) : (p.andThen next).last = (next p.last).last := by
  simp only [andThen, h]

theorem Gives.andThen {texts texts' : List Text} {s s' : σ} (h : p.Gives texts s)
    (h' : (next s).Gives texts' s') : (p.andThen next).Gives (texts ++ texts') s' := by
  obtain ⟨rfl, rfl, hc⟩ := h
  obtain ⟨rfl, rfl, hc'⟩ := h'
  refine ⟨?_, ?_, ?_⟩ <;> simp [Production.andThen, Production.texts, hc, hc']

theorem Gives.of_andThen {texts : List Text} {last : σ} (h : (p.andThen next).Gives texts last) :
    ∃ first s second, p.Gives first s ∧ (next s).Gives second last ∧ texts = first ++ second := by
  -- What is not given up as a whole is not given up in its first part.
  obtain ⟨rfl, rfl, hc⟩ := h
  cases hp : p.crash with
  | some c => simp [Production.andThen, hp] at hc
  | none =>
    refine ⟨p.texts, p.last, (next p.last).texts, Production.gives hp, ⟨rfl, ?_, ?_⟩, ?_⟩
    · simp [Production.andThen, hp]
    · simpa [Production.andThen, hp] using hc
    · simp [Production.andThen, Production.texts, hp]

/-- The texts of what comes next follow, even if it is given up. -/
theorem Gives.texts_andThen {texts : List Text} {s : σ} (h : p.Gives texts s) :
    (p.andThen next).texts = texts ++ (next s).texts := by
  obtain ⟨rfl, rfl, hc⟩ := h
  simp [Production.andThen, Production.texts, hc]

/-- What has been written stays. -/
theorem prefix_andThen : p.texts <+: (p.andThen next).texts := by
  cases hp : p.crash with
  | some c => simp [andThen, hp]
  | none => exact ⟨_, (gives hp).texts_andThen.symm⟩

theorem andThen_assoc (third : σ → Production σ) :
    (p.andThen next).andThen third = p.andThen fun s => (next s).andThen third := by
  cases h : p.crash with
  | some c => simp [andThen, h]
  | none => cases h' : (next p.last).crash <;> simp [andThen, h, h']

@[simp] theorem done_andThen (s : σ) : (done s).andThen next = next s := by simp [andThen, done]

end AndThen

/-! ## For each element -/

variable {f : σ → α → Production σ}

theorem forEach_append (s : σ) (as bs : List α) :
    forEach f s (as ++ bs) = (forEach f s as).andThen fun s' => forEach f s' bs := by
  induction as generalizing s with
  | nil => simp [forEach]
  | cons a as ih => simp [forEach, ih, andThen_assoc]

theorem Gives.forEach_singleton {s : σ} {a : α} {texts : List Text} {last : σ}
    (h : (f s a).Gives texts last) : (forEach f s [a]).Gives texts last := by
  have hone : forEach f s [a] = (f s a).andThen done := rfl
  simpa [hone] using h.andThen (gives_done last)

/-- **Induction over a list of requests.**  What holds before the first of them,
    and is kept by each that the writer does not give up, holds after all. -/
theorem forEach_induction {P : List α → List Text → σ → Prop} {s : σ} (start : P [] [] s)
    (next : ∀ as texts s a texts' s', P as texts s → (f s a).Gives texts' s' →
      P (as ++ [a]) (texts ++ texts') s')
    {as : List α} {texts : List Text} {last : σ} (h : (forEach f s as).Gives texts last) :
    P as texts last := by
  -- The last request is taken off, as the property goes from shorter lists to longer ones.
  induction as using List.reverseRecOn generalizing texts last with
  | nil =>
    obtain ⟨rfl, rfl⟩ := h.unique (gives_done s)
    exact start
  | append_singleton as a ih =>
    rw [forEach_append] at h
    obtain ⟨first, s', second, hfirst, hsecond, rfl⟩ := h.of_andThen
    obtain ⟨second, s'', none, ha, hnone, rfl⟩ := hsecond.of_andThen
    obtain ⟨rfl, rfl⟩ := hnone.unique (gives_done s'')
    simpa using next as first s' a second last (ih hfirst) ha

/-- Texts that are written one after the other. -/
theorem gives_forEach_write (s : σ) (lines : List Text) :
    (forEach write s lines).Gives lines s := by
  induction lines with
  | nil => exact gives_done s
  | cons line lines ih => exact (gives_write s line).andThen ih

end Production

/-! ## Many batches -/

namespace Writer

/-- **Takes many batches**, one after the other. -/
def takeAll (w : Writer) (bs : List Batch) : Production Writer :=
  Production.forEach (fun w b => w.batch b) w bs

/-- **Takes the whole result** and ends it. -/
def takeWhole (w : Writer) (bs : List Batch) : Production Writer := (w.takeAll bs).andThen finish

variable {w w' : Writer} {bs : List Batch} {texts : List Text}

theorem takeAll_append (w : Writer) (bs bs' : List Batch) :
    w.takeAll (bs ++ bs') = (w.takeAll bs).andThen fun w => w.takeAll bs' :=
  Production.forEach_append w bs bs'

/-- A writer that has taken some batches takes one more. -/
theorem takeAll_concat {b : Batch} {texts' : List Text} {w'' : Writer}
    (h : (w.takeAll bs).Gives texts w') (hb : (w'.batch b).Gives texts' w'') :
    (w.takeAll (bs ++ [b])).Gives (texts ++ texts') w'' := by
  rw [takeAll_append]
  exact h.andThen (Production.Gives.forEach_singleton hb)

/-- What it writes of the next batch, even if it gives it up, belongs to what it
    writes of any result that goes on so. -/
theorem takeAll_prefix {b : Batch} {all : List Batch} (h : (w.takeAll bs).Gives texts w')
    (hall : bs ++ [b] <+: all) : texts ++ (w'.batch b).texts <+: (w.takeAll all).texts := by
  obtain ⟨rest, rfl⟩ := hall
  have hone : (w.takeAll (bs ++ [b])).texts
      = texts ++ ((w'.batch b).andThen Production.done).texts := by
    rw [takeAll_append, h.texts_andThen]
    rfl
  have hb : (w'.batch b).texts <+: ((w'.batch b).andThen Production.done).texts :=
    Production.prefix_andThen
  rw [takeAll_append]
  exact ((List.prefix_append_right_inj texts).2 hb).trans (hone ▸ Production.prefix_andThen)

end Writer

end SqlShell
