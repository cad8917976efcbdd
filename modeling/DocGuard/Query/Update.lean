import DocGuard.Query.Pipeline

/-!
# Updates

An update is a document of operators, each with the paths that it changes. Every operator becomes
one pipeline stage, so the outcome of an update can be computed before anything is written.
-/

namespace DocGuard

open DocGuard.Text

/-- An expression for a value as it is written, whatever it looks like. -/
def quoteValue (v : Value) : Value :=
  .doc [("$literal", v)]

def pathReference (path : String) : Value :=
  .str ("$" ++ path)

/-- An expression for the value at a path, or for a fallback where there is none. -/
def orElse (path : String) (fallback : Value) : Value :=
  .doc [("$ifNull", .array [pathReference path, fallback])]

/-- An expression for the list at a path, empty where there is none. -/
def currentList (path : String) : Value :=
  orElse path (.array [])

/-- What an update adds to a list: the items under `$each`, or the value itself. -/
def addedItems (v : Value) : List Value :=
  match v with
  | .doc modifier =>
    match Document.get? modifier "$each" with
    | some (.array items) => items
    | _ => [v]
  | _ => [v]

def addedList (v : Value) : Value :=
  .array ((addedItems v).map quoteValue)

inductive UpdateOperator where
  | set
  | unset
  | inc
  | push
  | addToSet
  | pull
deriving DecidableEq, Repr

namespace UpdateOperator

def ofName? (name : String) : Option UpdateOperator :=
  match name with
  | "$set" => some set
  | "$unset" => some unset
  | "$inc" => some inc
  | "$push" => some push
  | "$addToSet" => some addToSet
  | "$pull" => some pull
  | _ => none

/-- The expression for the new value of a path; to unset a path no expression is needed. -/
def expression? (path : String) (v : Value) : UpdateOperator → Option Value
  | set => some (quoteValue v)
  | unset => none
  -- the operand of `$inc` alone is not quoted
  | inc => some (.doc [("$add", .array [orElse path (.int32 0), v])])
  | push => some (.doc [("$concatArrays", .array [currentList path, addedList v])])
  | addToSet => some (.doc [("$setUnion", .array [currentList path, addedList v])])
  | pull =>
    some (.doc [("$filter", .doc [
      ("input", currentList path),
      ("cond", .doc [("$ne", .array [.str "$$this", quoteValue v])])])])

def stage (op : UpdateOperator) (fields : Document) : Document :=
  match op with
  | unset => [("$unset", .array (fields.keys.map .str))]
  | op =>
    [("$set", .doc (fields.filterMap fun e => (op.expression? e.1 e.2).map fun x => (e.1, x)))]

end UpdateOperator

def updateStage (name : String) (fields : Value) : Except Fault Document :=
  if ¬ beginsWith name "$" then .error (.store .atomicOperatorsRequired)
  else
    match fields with
    | .doc d =>
      match UpdateOperator.ofName? name with
      | some op => .ok (op.stage d)
      | none => .error (.store (.unknownUpdate name))
    | _ => .error (.store (.documentExpected name))

def entryStages : List (String × Value) → Except Fault (List Document)
  | [] => .ok []
  | (name, fields) :: rest => do
    let stage ← updateStage name fields
    return stage :: (← entryStages rest)

/-- The stages for an update, which has to name at least one operator. -/
def updateStages (update : Document) : Except Fault (List Document) :=
  if update.isEmpty then .error (.store .emptyUpdate) else entryStages update

end DocGuard
