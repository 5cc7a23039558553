/-! # Keyed Entries

    A list of keys with values in which no key stands twice.  Keys are
    compared by a given test, since two unlike keys may count as the same. -/

namespace SqlShell.Entries

variable {κ υ : Type}

/-- Gives `k` the value `v`: in the place of an entry with the same key, which
    keeps its own key, or else at the end. -/
def insert (same : κ → κ → Bool) (k : κ) (v : υ) : List (κ × υ) → List (κ × υ)
  | [] => [(k, v)]
  | (k', v') :: r => if same k' k then (k', v) :: r else (k', v') :: insert same k v r

/-- The entries of a list in which a key may be repeated. -/
def ofList (same : κ → κ → Bool) (entries : List (κ × υ)) : List (κ × υ) :=
  entries.foldl (fun kept (k, v) => insert same k v kept) []

end SqlShell.Entries
