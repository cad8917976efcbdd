import DocGuard.Condition.Operator
import DocGuard.Document.Path

/-!
# Filters

A filter is a document that selects stored documents: `$and`, `$or` and `$nor` hold lists of
filters, and every other key is a path with what to find there. A list at a path also matches
through its elements. As in conditions, a fault behind the deciding place does not show.
-/

namespace DocGuard

open DocGuard.Text

/-- Whether the value found is the expected one, or a list with it among its elements; a missing
value also counts as null. -/
def equalsOrContains (actual : Option Value) (expected : Value) : Bool :=
  if sameValue actual (some expected) then true
  else
    match actual, expected with
    | none, .null => true
    | some (.array items), _ => items.any fun item => sameValue (some item) (some expected)
    | _, _ => false

/-- Whether a document lists operators: its first key begins with a dollar. -/
def listsOperators : Document → Bool
  | [] => false
  | (key, _) :: _ => beginsWith key "$"

/-- Whether what is found at a path is as one operator expects. Flags beside a pattern are no
operator and always hold. -/
def matchesOperator (actual flags : Option Value) (name : String) (expected : Value) :
    Except Fault Bool :=
  if name = "$options" then .ok true
  else if name = "$exists" then .ok (actual.isSome == truthy (some expected))
  else if name = "$eq" then .ok (equalsOrContains actual expected)
  else if name = "$ne" then .ok (!equalsOrContains actual expected)
  else do (← Operator.ofName name).apply actual (some expected) flags

mutual

def matchesField (actual : Option Value) : Value → Except Fault Bool
  | .doc entries =>
    if listsOperators entries then
      matchesOperators actual (Document.get? entries "$options") entries
    else .ok (equalsOrContains actual (.doc entries))
  | .regex source letters => Operator.pattern.apply actual (some (.regex source letters)) none
  | expected => .ok (equalsOrContains actual expected)

/-- Whether what is found at a path is as all listed operators expect; `$not` turns round what is
expected under it. -/
def matchesOperators (actual flags : Option Value) :
    List (String × Value) → Except Fault Bool
  | [] => .ok true
  | (name, expected) :: rest => do
    let here ←
      if name = "$not" then (matchesField actual expected).map (!·)
      else matchesOperator actual flags name expected
    if here then matchesOperators actual flags rest else return false

end

/-- Refuses a list that holds something else than filters. -/
def requireFilters (key : String) : List Value → Except Fault Unit
  | [] => .ok ()
  | .doc _ :: rest => requireFilters key rest
  | _ :: _ => .error (.store (.filterExpected key))

mutual

def matchesFilter (document : Document) : List (String × Value) → Except Fault Bool
  | [] => .ok true
  | (key, spec) :: rest => do
    if ← matchesEntry document key spec then matchesFilter document rest else return false

def matchesEntry (document : Document) (key : String) : Value → Except Fault Bool
  | .array children =>
    if key = "$and" then do
      requireFilters key children
      matchesAll document children
    else if key = "$or" then do
      requireFilters key children
      matchesSome document children
    else if key = "$nor" then do
      requireFilters key children
      return !(← matchesSome document children)
    else matchesField (document.getPath key) (.array children)
  | spec =>
    if key = "$and" ∨ key = "$or" ∨ key = "$nor" then .error (.store (.filterListExpected key))
    else matchesField (document.getPath key) spec

def matchesAll (document : Document) : List Value → Except Fault Bool
  | [] => .ok true
  | .doc filter :: rest => do
    if ← matchesFilter document filter then matchesAll document rest else return false
  -- only filters are left here: other items have been refused
  | _ :: rest => matchesAll document rest

def matchesSome (document : Document) : List Value → Except Fault Bool
  | [] => .ok false
  | .doc filter :: rest => do
    if ← matchesFilter document filter then return true else matchesSome document rest
  | _ :: rest => matchesSome document rest

end

/-- The documents that satisfy a filter, in order; all of them are looked at. -/
def select (filter : Document) : List Document → Except Fault (List Document)
  | [] => .ok []
  | d :: rest => do
    let here ← matchesFilter d filter
    let others ← select filter rest
    return if here then d :: others else others

/-- The first document that satisfies a filter; those behind it are not looked at. -/
def selectFirst (filter : Document) : List Document → Except Fault (Option Document)
  | [] => .ok none
  | d :: rest => do
    if ← matchesFilter d filter then return some d else selectFirst filter rest

end DocGuard
