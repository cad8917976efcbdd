import DocGuard.Document.Coercion
import DocGuard.Fault
import DocGuard.Pattern.Machine

/-!
# Operators

An operator is a predicate on the value found at a path and the value that a rule expects there;
both may be missing. Only patterns can fail.
-/

namespace DocGuard

inductive Operator where
  | present
  | eq
  | ne
  | gt
  | gte
  | lt
  | lte
  | strGt
  | strGte
  | strLt
  | strLte
  | within
  | notWithin
  | all
  | pattern
deriving DecidableEq, Repr

namespace Operator

def list : List Operator :=
  [present, eq, ne, gt, gte, lt, lte, strGt, strGte, strLt, strLte, within, notWithin, all, pattern]

def name : Operator → String
  | present => "$exists"
  | eq => "$eq"
  | ne => "$ne"
  | gt => "$gt"
  | gte => "$gte"
  | lt => "$lt"
  | lte => "$lte"
  | strGt => "$strGt"
  | strGte => "$strGte"
  | strLt => "$strLt"
  | strLte => "$strLte"
  | within => "$in"
  | notWithin => "$nin"
  | all => "$all"
  | pattern => "$regex"

def ofName? (text : String) : Option Operator :=
  list.find? fun op => op.name = text

def ofName (text : String) : Except Fault Operator :=
  match ofName? text with
  | some op => .ok op
  | none => .error (.operatorNotFound text)

theorem ofName?_name (op : Operator) : ofName? op.name = some op := by
  cases op <;> decide +kernel

theorem ofName_name (op : Operator) : ofName op.name = .ok op := by
  rw [ofName, ofName?_name]

end Operator

def oneOf (items : List Value) (v : Value) : Bool :=
  items.any fun item => sameValue (some item) (some v)

/-- Whether one of the expected items is among the actual ones. -/
def meets (actual expected : Option Value) : Bool :=
  (toItems expected).any (oneOf (toItems actual))

/-- The switches that a text of flag letters turns on; other letters mean nothing. -/
def switches (letters : String) : Pattern.Flags :=
  let on (c : Char) : Bool := letters.toList.contains c
  { ignoreCase := on 'i', multiLine := on 'm', dotAll := on 's', verbose := on 'x',
    ascii := false, crlf := false, swapped := false }

/-- The pattern and the flag letters that a value stands for; a text takes the letters given
beside it. -/
def patternParts (defaultLetters : String) : Value → Except Fault (String × String)
  | .regex source letters => .ok (source, letters)
  | .str source => .ok (source, defaultLetters)
  | v => .error (.pattern (.unsupported v))

def matchesPattern (defaultLetters subject : String) (v : Value) : Except Fault Bool := do
  let (source, letters) ← patternParts defaultLetters v
  match Pattern.Regex.read source (switches letters) with
  | .ok r => return r.matchesIn subject
  | .error defect => .error (.pattern (.malformed defect.message))

/-- Whether one of several patterns matches; those after the first match are not looked at. -/
def matchesAny (defaultLetters subject : String) : List Value → Except Fault Bool
  | [] => .ok false
  | v :: rest => do
    if ← matchesPattern defaultLetters subject v then return true
    else matchesAny defaultLetters subject rest

/-- The flag letters beside an operator: those of a text, otherwise none. -/
def flagLetters : Option Value → String
  | some (.str s) => s
  | _ => ""

def Operator.apply (op : Operator) (actual expected flags : Option Value) : Except Fault Bool :=
  match op with
  | .present =>
    match expected with
    | some (.bool wanted) => .ok (!isEmptyValue actual == wanted)
    | _ => .ok false
  | .eq => .ok (sameValue actual expected)
  | .ne => .ok (!sameValue actual expected)
  -- what is found is a number only as a whole, but a bound already by how its text begins
  | .gt => .ok (toNumber actual > toBound expected)
  | .gte => .ok (toNumber actual ≥ toBound expected)
  | .lt => .ok (toNumber actual < toBound expected)
  | .lte => .ok (toNumber actual ≤ toBound expected)
  | .strGt => .ok (Float.ofNat (textUnits actual) > toBound expected)
  | .strGte => .ok (Float.ofNat (textUnits actual) ≥ toBound expected)
  | .strLt => .ok (Float.ofNat (textUnits actual) < toBound expected)
  | .strLte => .ok (Float.ofNat (textUnits actual) ≤ toBound expected)
  | .within => .ok (meets actual expected)
  | .notWithin => .ok (!meets actual expected)
  | .all => .ok ((toItems expected).all (oneOf (toItems actual)))
  | .pattern => matchesAny (flagLetters flags) (toText actual) (toItems expected)

end DocGuard
