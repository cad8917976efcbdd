import DocGuard.Document.Coercion
import DocGuard.Document.Path
import DocGuard.Fault

/-!
# Expressions

The expressions of update stages. A text with a dollar in front refers to a path of the document
at hand, or to the element under test within an element filter; a document with a single key that
begins with a dollar applies an operator; everything else stands for itself. A reference to a
missing path has no value.
-/

namespace DocGuard

open DocGuard.Text

def leastInt64 : Int := -(Int.pow 2 63)

def greatestInt64 : Int := Int.pow 2 63 - 1

def holdInt64 (n : Int) : Int :=
  max leastInt64 (min n greatestInt64)

/-- A sum under way: the integer and the floating sum so far, and of which kinds the terms were. -/
structure Sum where
  whole : Int
  float : Float
  allInt32 : Bool
  allWhole : Bool

def Sum.zero : Sum :=
  ⟨0, 0.0, true, true⟩

/-- What a sum amounts to: the narrowest kind that its terms allow. -/
def Sum.total (s : Sum) : Value :=
  if s.allInt32 ∧ -(Int.pow 2 31) ≤ s.whole ∧ s.whole < Int.pow 2 31 then .int32 (Int32.ofInt s.whole)
  else if s.allWhole then .int64 (Int64.ofInt s.whole)
  else .double s.float

/-- The sum of numbers. Null makes the sum null, and any other value is refused. -/
def Sum.run (s : Sum) : List Value → Except Fault Value
  | [] => .ok s.total
  | .int32 n :: rest =>
    Sum.run { s with
      whole := holdInt64 (s.whole + n.toInt), float := s.float + Float.ofInt n.toInt } rest
  | .int64 n :: rest =>
    Sum.run { s with
      whole := holdInt64 (s.whole + n.toInt), float := s.float + Float.ofInt n.toInt
      allInt32 := false } rest
  | .double x :: rest =>
    Sum.run { s with float := s.float + x, allInt32 := false, allWhole := false } rest
  | .negativeNaN :: rest =>
    Sum.run { s with float := Decimal.nan, allInt32 := false, allWhole := false } rest
  -- terms behind a null are not looked at
  | .null :: _ => .ok .null
  | v :: _ => .error (.store (.numberExpected v))

def addValues (values : List Value) : Except Fault Value :=
  Sum.zero.run values

/-- The lists put together; null among them makes the result null. -/
def concatLists (sofar : List Value) : List Value → Except Fault Value
  | [] => .ok (.array sofar)
  | .array items :: rest => concatLists (sofar ++ items) rest
  | .null :: _ => .ok .null
  | v :: _ => .error (.store (.concatListExpected v))

/-- A list with the items that are not the same as one before them. -/
def addDistinct (sofar : List Value) : List Value → List Value
  | [] => sofar
  | v :: rest =>
    if sofar.any fun u => sameValue (some u) (some v) then addDistinct sofar rest
    else addDistinct (sofar ++ [v]) rest

def uniteLists (sofar : List Value) : List Value → Except Fault Value
  | [] => .ok (.array sofar)
  | .array items :: rest => uniteLists (addDistinct sofar items) rest
  | _ :: _ => .error (.store .unionListExpected)

def keepItems (test : Value → Except Fault (Option Value)) : List Value → Except Fault (List Value)
  | [] => .ok []
  | v :: rest => do
    let here := truthy (← test v)
    let others ← keepItems test rest
    return if here then v :: others else others

def resolveReference (root : Document) (element : Option Value) (s : String) :
    Except Fault (Option Value) :=
  -- a longer name that begins alike also stands for the element
  if beginsWith s "$$this" then
    match element with
    | none => .error (.store .elementOutsideFilter)
    | some v =>
      match afterLead? s "$$this." with
      | some path =>
        match v with
        | .doc d => .ok (Document.getPath d path)
        | _ => .ok none
      | none => .ok (some v)
  else
    match afterLead? s "$" with
    | some path => .ok (root.getPath path)
    | none => .ok (some (.str s))

def listOperator? (name : String) : Option (List Value → Except Fault Value) :=
  match name with
  | "$add" => some addValues
  | "$concatArrays" => some (concatLists [])
  | "$setUnion" => some (uniteLists [])
  | _ => none

def isPairOperator (name : String) : Bool :=
  name = "$ifNull" ∨ name = "$eq" ∨ name = "$ne"

/-- The fault of an operator with arguments that it cannot take, or with an unknown name. -/
def refuseArguments {α : Type} (name : String) : Except Fault α :=
  .error (.store (
    if isPairOperator name then .pairExpected name
    else if (listOperator? name).isSome then .argumentsExpected name
    else if name = "$filter" then .elementFilterShape
    else .unknownExpression name))

mutual

def evaluate (root : Document) (element : Option Value) : Value → Except Fault (Option Value)
  | .str s => resolveReference root element s
  | .doc [(name, args)] =>
    if beginsWith name "$" then evaluateOperator root element name args
    else do
      match ← evaluate root element args with
      | some v => return some (.doc [(name, v)])
      | none => return some (.doc [])
  | .doc entries => do return some (.doc (← evaluateEntries root element entries))
  | .array items => do return some (.array (← evaluateItems root element items))
  | v => .ok (some v)

/-- The values of entries; those without a value are left out. -/
def evaluateEntries (root : Document) (element : Option Value) :
    List (String × Value) → Except Fault (List (String × Value))
  | [] => .ok []
  | (key, v) :: rest => do
    let here ← evaluate root element v
    let others ← evaluateEntries root element rest
    match here with
    | some w => return (key, w) :: others
    | none => return others

/-- The values of items; null stands for those without a value. -/
def evaluateItems (root : Document) (element : Option Value) :
    List Value → Except Fault (List Value)
  | [] => .ok []
  | v :: rest => do
    let here ← evaluate root element v
    let others ← evaluateItems root element rest
    return here.getD .null :: others

def evaluateNamed (root : Document) (element : Option Value) (name : String) :
    List (String × Value) → Except Fault (Option Value)
  | [] => .error (.store (.elementFilterNeeds name))
  | (key, v) :: rest =>
    if key = name then evaluate root element v else evaluateNamed root element name rest

def evaluateOperator (root : Document) (element : Option Value) (name : String) :
    Value → Except Fault (Option Value)
  | .array items =>
    if name = "$literal" then .ok (some (.array items))
    else if isPairOperator name then evaluatePair root element name items
    else
      match listOperator? name with
      | some combine => do
        let values ← evaluateItems root element items
        return some (← combine values)
      | none => refuseArguments name
  | .doc spec =>
    if name = "$literal" then .ok (some (.doc spec))
    else if name = "$filter" then
      -- both entries have to be there before either is evaluated
      if ¬ Document.has spec "input" then .error (.store (.elementFilterNeeds "input"))
      else if ¬ Document.has spec "cond" then .error (.store (.elementFilterNeeds "cond"))
      else do
        match ← evaluateNamed root element "input" spec with
        | some (.array items) =>
          return some (.array
            (← keepItems (fun item => evaluateNamed root (some item) "cond" spec) items))
        | none => return some .null
        | some .null => return some .null
        | some other => .error (.store (.elementFilterInput other))
    else refuseArguments name
  | args => if name = "$literal" then .ok (some args) else refuseArguments name

/-- The value of an operator with two arguments. The fallback of `$ifNull` is evaluated only when
it is needed. -/
def evaluatePair (root : Document) (element : Option Value) (name : String) :
    List Value → Except Fault (Option Value)
  | [a, b] =>
    if name = "$ifNull" then do
      match ← evaluate root element a with
      | none => evaluate root element b
      | some .null => evaluate root element b
      | some v => return some v
    else do
      let x ← evaluate root element a
      let y ← evaluate root element b
      return some (.bool (sameValue x y == decide (name = "$eq")))
  | _ => refuseArguments name

end

end DocGuard
