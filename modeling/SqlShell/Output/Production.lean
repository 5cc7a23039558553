import SqlShell.Failure

/-! # Productions

    A writer is a state that turns batches into texts.  What it does with one
    request is a production: the texts that it hands to the output one after
    the other, and the state that it ends in.  Since the output may break off
    between two texts, each text carries the state that the writer is in while
    it is being written. -/

namespace SqlShell

/-- **What a writer does with one request.** -/
structure Production (σ : Type) where
  /-- The texts, each with the state in force while it is written. -/
  steps : List (σ × Text)
  /-- The state afterwards. -/
  last : σ
  /-- Why the writer gave up, if it did. -/
  crash : Option Crash := none

namespace Production

variable {σ τ : Type}

/-- A request that writes nothing. -/
def done (s : σ) : Production σ := { steps := [], last := s }

/-- A request that the writer gives up in the state `s`. -/
def fail (s : σ) (c : Crash) : Production σ := { steps := [], last := s, crash := some c }

/-- A single text, written in the state `s`, which stays. -/
def write (s : σ) (text : Text) : Production σ := { steps := [(s, text)], last := s }

/-- Goes on with `next` unless the writer has given up. -/
def andThen (p : Production σ) (next : σ → Production σ) : Production σ :=
  match p.crash with
  | some _ => p
  | none =>
    let q := next p.last
    { q with steps := p.steps ++ q.steps }

/-- Does `f` for every element of a list, in order. -/
def forEach {α : Type} (f : σ → α → Production σ) (s : σ) : List α → Production σ
  | [] => done s
  | a :: r => (f s a).andThen fun s' => forEach f s' r

/-- The same production of a writer that this one is part of. -/
def map (f : σ → τ) (p : Production σ) : Production τ :=
  { steps := p.steps.map fun (s, text) => (f s, text), last := f p.last, crash := p.crash }

/-- All the text that is written. -/
def text (p : Production σ) : Text := p.steps.flatMap Prod.snd

end Production

end SqlShell
