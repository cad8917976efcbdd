import DocGuard.Query.Expression
import DocGuard.Query.Filter

/-!
# Pipelines

A pipeline is a list of stages, each a document with a single field that names what to do with the
documents at hand. A stage is read when it is reached, so a malformed stage shows only if all the
stages in front of it succeed; it shows even when no documents are left.
-/

namespace DocGuard

inductive Transform where
  | keep (filter : Document)
  | limit (count : Nat)
  | skip (count : Nat)
  | assign (fields : Document)
  | unset (paths : List String)
  | project (projection : Document)

def requireDocument (name : String) : Value → Except Fault Document
  | .doc d => .ok d
  | _ => .error (.store (.documentExpected name))

/-- The count that a stage needs: a whole number of any numeric kind, not below zero. A count
beyond `2^64 - 1` stands for that. -/
def requireCount (name : String) (spec : Value) : Except Fault Nat :=
  match spec.number?.bind Decimal.natValue? with
  | some n => .ok (min n (Nat.pow 2 64 - 1))
  | none => .error (.store (.countExpected name))

def requireNames : List Value → Except Fault (List String)
  | [] => .ok []
  | .str s :: rest => do return s :: (← requireNames rest)
  | _ :: _ => .error (.store .unsetNames)

/-- The paths to remove: one, or a list of them. -/
def requirePaths : Value → Except Fault (List String)
  | .str path => .ok [path]
  | .array items => requireNames items
  | _ => .error (.store .unsetShape)

def Transform.read : Document → Except Fault Transform
  | [(name, spec)] =>
    match name with
    | "$match" => do return .keep (← requireDocument name spec)
    | "$limit" => do return .limit (← requireCount name spec)
    | "$skip" => do return .skip (← requireCount name spec)
    | "$set" => do return .assign (← requireDocument name spec)
    | "$addFields" => do return .assign (← requireDocument name spec)
    | "$unset" => do return .unset (← requirePaths spec)
    | "$project" => do return .project (← requireDocument name spec)
    | _ => .error (.store (.unknownStage name))
  | _ => .error (.store .stageShape)

/-- The values to assign, all for the document as it is before any of them is assigned. -/
def assignedValues (d : Document) : List (String × Value) →
    Except Fault (List (String × Option Value))
  | [] => .ok []
  | (path, expression) :: rest => do
    let here ← evaluate d none expression
    let others ← assignedValues d rest
    return (path, here) :: others

/-- Sets a path, or removes it where there is no value. -/
def Document.assignPath (d : Document) (path : String) : Option Value → Document
  | some v => d.setPath path v
  | none => d.removePath path

def Document.assign (fields d : Document) : Except Fault Document := do
  let values ← assignedValues d fields
  return values.foldl (fun d e => d.assignPath e.1 e.2) d

/-- Whether a projection keeps the id: unless it says otherwise. -/
def keepsId (projection : Document) : Bool :=
  match projection.get? "_id" with
  | some v => truthy (some v)
  | none => true

/-- Whether a projection says what to keep, and not what to remove: some name other than the id is
wanted. -/
def isInclusion (projection : Document) : Bool :=
  projection.any fun e => e.1 ≠ "_id" && truthy (some e.2)

def keepsName (projection : Document) (name : String) : Bool :=
  if name = "_id" then keepsId projection else truthy (projection.get? name)

def Document.project (projection d : Document) : Document :=
  if isInclusion projection then d.filter fun e => keepsName projection e.1
  -- what is removed goes by its whole name and is never walked as a path
  else
    (projection.keys.filter fun key => key ≠ "_id" || !keepsId projection).foldl Document.erase d

def Transform.apply (documents : List Document) : Transform → Except Fault (List Document)
  | .keep filter => select filter documents
  | .limit count => .ok (documents.take count)
  | .skip count => .ok (documents.drop count)
  | .assign fields => documents.mapM (Document.assign fields)
  | .unset paths => .ok (documents.map fun d => paths.foldl Document.removePath d)
  | .project projection => .ok (documents.map (Document.project projection))

def runPipeline : List Document → List Document → Except Fault (List Document)
  | [], documents => .ok documents
  | stage :: rest, documents => do
    let transform ← Transform.read stage
    runPipeline rest (← transform.apply documents)

end DocGuard
