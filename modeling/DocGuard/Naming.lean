/-!
# Named entries in order

A table from names to things is kept as a list in ascending order of names, so that equal tables
are equal lists and output is in a fixed order. Setting a name again replaces what it names.
-/

namespace DocGuard

/-- A table from names, in ascending order. -/
abbrev Table (α : Type) := List (String × α)

namespace Table

variable {α : Type}

def find? : Table α → String → Option α
  | [], _ => none
  | (k, v) :: rest, name => if k = name then some v else find? rest name

def set : Table α → String → α → Table α
  | [], name, v => [(name, v)]
  | (k, w) :: rest, name, v =>
    if k = name then (name, v) :: rest
    else if name < k then (name, v) :: (k, w) :: rest
    else (k, w) :: set rest name v

def ofEntries (entries : List (String × α)) : Table α :=
  entries.foldl (fun t e => t.set e.1 e.2) []

def names (t : Table α) : List String :=
  t.map Prod.fst

@[simp] theorem find?_set_self (t : Table α) (name : String) (v : α) :
    (t.set name v).find? name = some v := by
  induction t with
  | nil => simp [set, find?]
  | cons e rest ih =>
    obtain ⟨k, w⟩ := e
    by_cases hk : k = name
    · simp [set, find?, hk]
    · by_cases hl : name < k
      · simp [set, find?, hk, hl]
      · simp [set, find?, hk, hl, ih]

end Table

end DocGuard
