import DocGuard.Guard.Basic

/-!
# Guarded watching

The row filter of a user also narrows what the user can watch: its paths are read within the
changed document. Every change is then validated like a document that is read.
-/

namespace DocGuard

open DocGuard.Text

mutual

/-- A filter that reads its paths within the document under a name. -/
def prefixFields (name : String) : List (String × Value) → List (String × Value)
  | [] => []
  | (key, v) :: rest => prefixEntry name key v :: prefixFields name rest

def prefixEntry (name key : String) : Value → String × Value
  | .array children =>
    if key = "$and" ∨ key = "$or" ∨ key = "$nor" then (key, .array (prefixChildren name children))
    -- any other name with a dollar stays, even where filters take it for a path
    else if beginsWith key "$" then (key, .array children)
    else (name ++ "." ++ key, .array children)
  | v => if beginsWith key "$" then (key, v) else (name ++ "." ++ key, v)

def prefixChildren (name : String) : List Value → List Value
  | [] => []
  | .doc child :: rest => .doc (prefixFields name child) :: prefixChildren name rest
  | v :: rest => v :: prefixChildren name rest

end

namespace Guard

def watchStages (g : Guard) : Except Fault (List Document) := do
  -- a watcher asks no query of their own, so the empty one in its place is left out
  let parts := (← queryParts g.filters [] g.user).filter fun part => !part.isEmpty
  let prefixed := parts.map (prefixFields "fullDocument")
  return if prefixed.isEmpty then [] else [[("$match", .doc (conjoin prefixed))]]

def watch (g : Guard) (c : Collection) (pipeline : List Document) : Except Fault ChangeStream :=
  if g.asSystem then ChangeStream.subscribe c pipeline
  else do ChangeStream.subscribe c ((← g.watchStages) ++ pipeline)

def reviewDifference (g : Guard) (x : Difference) : Traced Difference := do
  if x.updated.isEmpty then return x
  -- the updated fields are read like a document that has nothing else
  else return { x with updated := (← g.validate x.updated .read).getD [] }

def reviewUpdated (g : Guard) (change : Change) : Traced Change :=
  match change.difference with
  | none => pure change
  | some x => do return { change with difference := some (← g.reviewDifference x) }

/-- A change as far as the user may see it; a change of a document that the user may not read is
dropped. -/
def review (g : Guard) (change : Change) : Traced (Option Change) :=
  if g.asSystem then pure (some change)
  else
    match change.full with
    -- a change without a document shows no more than its id, and nothing is validated
    | none => do return some (← g.reviewUpdated change)
    | some d => do
      match ← g.validate d .read with
      | none => return none
      | some seen => return some (← g.reviewUpdated { change with full := some seen })

end Guard

end DocGuard
