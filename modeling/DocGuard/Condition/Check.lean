import DocGuard.Condition.Leaf

/-!
# Checking conditions

A condition is a document: `$and` and `$or` hold lists of conditions, and every other key is a
path with a leaf. All keys have to hold. Keys and children are looked at from the left and only as
far as needed, so a fault behind the deciding place does not show.
-/

namespace DocGuard

/-- Refuses a list that holds something else than conditions. -/
def requireConditions (key : String) : List Value → Except Fault Unit
  | [] => .ok ()
  | .doc _ :: rest => requireConditions key rest
  | other :: _ => .error (.rule (.conditionExpected key other))

mutual

/-- Whether a condition holds of the data. The empty condition always holds. -/
def checkCondition (lead : PathLead) (data : Document) :
    List (String × Value) → Except Fault Bool
  | [] => .ok true
  | (key, spec) :: rest => do
    if ← checkEntry lead data key spec then checkCondition lead data rest else return false

def checkEntry (lead : PathLead) (data : Document) (key : String) : Value → Except Fault Bool
  | .array children =>
    if key = "$and" then do
      requireConditions key children
      checkAll lead data children
    else if key = "$or" then do
      requireConditions key children
      -- no alternatives at all are no demand
      if children.isEmpty then return true else checkAny lead data children
    else checkLeaf lead data key (.array children)
  | spec =>
    if key = "$and" ∨ key = "$or" then .error (.rule (.listExpected key))
    else checkLeaf lead data key spec

def checkAll (lead : PathLead) (data : Document) : List Value → Except Fault Bool
  | [] => .ok true
  | .doc condition :: rest => do
    if ← checkCondition lead data condition then checkAll lead data rest else return false
  -- only conditions are left here: other items have been refused
  | _ :: rest => checkAll lead data rest

def checkAny (lead : PathLead) (data : Document) : List Value → Except Fault Bool
  | [] => .ok false
  | .doc condition :: rest => do
    if ← checkCondition lead data condition then return true else checkAny lead data rest
  | _ :: rest => checkAny lead data rest

end

mutual

/-- The paths that a condition names, in order. -/
def conditionPaths (lead : PathLead) : List (String × Value) → List String
  | [] => []
  | (key, spec) :: rest => entryPaths lead key spec ++ conditionPaths lead rest

def entryPaths (lead : PathLead) (key : String) : Value → List String
  | .array children =>
    if key = "$and" ∨ key = "$or" then childPaths lead children else [resolvePath lead key]
  | _ => if key = "$and" ∨ key = "$or" then [] else [resolvePath lead key]

def childPaths (lead : PathLead) : List Value → List String
  | [] => []
  | .doc condition :: rest => conditionPaths lead condition ++ childPaths lead rest
  | _ :: rest => childPaths lead rest

end

def pathsRead? (lead : PathLead) : Value → Option (List String)
  | .doc condition => some (conditionPaths lead condition)
  | _ => none

end DocGuard
