import DocGuard.ExtendedJson.Special

/-!
# Values from answers of programs

An object with the name of a special form anywhere in it has to be that form and nothing else.
Where it has several such names, the first of `Special.names` decides.
-/

namespace DocGuard

/-- A number as answers write it: whole numbers take the narrowest kind of integer that holds
them, and beyond 64 bits a double. -/
def Value.ofAnswerNumber : JsonNumber → Value
  | .float x => .double x
  | .whole n =>
    if -(Int.pow 2 31) ≤ n ∧ n < Int.pow 2 31 then .int32 (Int32.ofInt n)
    else if n < Int.pow 2 63 then .int64 (Int64.ofInt n)
    else .double n.toNat.toUInt64.toFloat

namespace Special

/-- The names in front of code, in the order in which they decide. -/
def names : List String :=
  ["$oid", "$symbol", "$regularExpression", "$numberInt", "$numberLong", "$numberDouble",
    "$numberDecimal", "$binary", "$uuid"]

/-- The names behind code, in the order in which they decide. -/
def laterNames : List String :=
  ["$timestamp", "$date", "$minKey", "$maxKey", "$dbPointer", "$undefined"]

def check (name : String) (j : Json) : Reasoned Unit :=
  match ofPayload? name j with
  | some form => form.map fun _ => ()
  | none => wrongKind

def ofMembers (name : String) (members : List (String × Json)) : Reasoned Value := do
  Json.checkMembers [(name, check name)] [] members
  match (Json.member? members name).bind (ofPayload? name) with
  | some form => (← form).toValue
  | none => wrongKind

end Special

def hasMember (members : List (String × Json)) (name : String) : Bool :=
  (Json.member? members name).isSome

/-- The check of a scope: an object or null. -/
def checkScope : Json → Reasoned Unit
  | .null => .ok ()
  | .object _ => .ok ()
  | _ => wrongKind

def codeOf (members : List (String × Json)) (scope : Option (Reasoned Value)) :
    Reasoned Value := do
  Json.checkMembers [("$code", Json.check Json.asText), ("$scope", checkScope)] [] members
  let text ← Json.field members "$code" Json.asText
  match scope with
  | none => return .code text
  | some read =>
    match ← read with
    | .doc d => return .codeWithScope text d
    | _ => wrongKind

mutual

def Value.ofAnswer : Json → Reasoned Value
  | .null => .ok .null
  | .bool b => .ok (.bool b)
  | .number n => .ok (Value.ofAnswerNumber n)
  | .text s => .ok (.str s)
  | .array items => do return .array (← Value.answerItems items)
  | .object members =>
    match Special.names.find? (hasMember members) with
    | some name => Special.ofMembers name members
    | none =>
      if hasMember members "$code" then codeOf members (Value.answerScope members)
      else
        match Special.laterNames.find? (hasMember members) with
        | some name => Special.ofMembers name members
        | none => do return .doc (← Value.answerEntries members)
  | .unreadable => wrongValue

def Value.answerItems : List Json → Reasoned (List Value)
  | [] => .ok []
  | j :: rest => do
    let v ← Value.ofAnswer j
    return v :: (← Value.answerItems rest)

def Value.answerEntries : List (String × Json) → Reasoned (List (String × Value))
  | [] => .ok []
  | (key, j) :: rest => do
    let v ← Value.ofAnswer j
    return (key, v) :: (← Value.answerEntries rest)

/-- The document of the scope among members, read as plain members, if there is one. -/
def Value.answerScope : List (String × Json) → Option (Reasoned Value)
  | [] => none
  | (key, j) :: rest =>
    if key = "$scope" then
      match j with
      | .object members => some ((Value.answerEntries members).map .doc)
      | _ => none
    else Value.answerScope rest

end

end DocGuard
