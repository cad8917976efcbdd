import DocGuard.ExtendedJson.Special

/-!
# Values from files and arguments

Values are read member by member. The first member whose name begins a special form decides what
the object is; plain members in front of it are forgotten, and none may follow.
-/

namespace DocGuard

/-- A number as files write it: whole numbers from zero take the narrowest kind, negative ones are
64 bits wide, and all others are doubles. -/
def Value.ofFileNumber : JsonNumber → Reasoned Value
  | .float x => .ok (.double x)
  | .whole n =>
    if n < 0 then .ok (.int64 (Int64.ofInt n))
    else if n < Int.pow 2 31 then .ok (.int32 (Int32.ofInt n))
    else if n < Int.pow 2 63 then .ok (.int64 (Int64.ofInt n))
    else wrongValue

/-- The value of a form in a file. A double is written only for what has no number: any other text
under its name is a 64-bit integer. -/
def Special.toFileValue : Special → Reasoned Value
  | .double text =>
    if text = "Infinity" then .ok (.double Decimal.infinity)
    else if text = "-Infinity" then .ok (.double (-Decimal.infinity))
    else if text = "NaN" then .ok (.double Decimal.nan)
    else (readInt64 text).map Value.int64
  | form => form.toValue

def asDocument : Value → Reasoned Document
  | .doc d => .ok d
  | _ => wrongKind

def withCode (code : Json) (scope : Option (Reasoned Value)) : Reasoned Value := do
  let text ← code.asText
  match scope with
  | none => return .code text
  | some read => return .codeWithScope text (← asDocument (← read))

mutual

def Value.ofJson : Json → Reasoned Value
  | .null => .ok .null
  | .bool b => .ok (.bool b)
  | .number n => Value.ofFileNumber n
  | .text s => .ok (.str s)
  | .array items => do return .array (← Value.ofItems items)
  | .object members => Value.ofMembers [] members
  | .unreadable => wrongValue

def Value.ofItems : List Json → Reasoned (List Value)
  | [] => .ok []
  | j :: rest => do
    let v ← Value.ofJson j
    return v :: (← Value.ofItems rest)

/-- The value of members, of which some have been read. -/
def Value.ofMembers (sofar : Document) : List (String × Json) → Reasoned Value
  | [] => .ok (.doc sofar)
  | [(key, j)] =>
    if key = "$code" then withCode j none
    else if key = "$scope" then Json.missingField "$code"
    else
      match Special.ofPayload? key j with
      | some form => do (← form).toFileValue
      | none => do return .doc (sofar.insert key (← Value.ofJson j))
  | (key, j) :: (next, i) :: rest =>
    if key = "$code" then
      if next = "$scope" ∧ rest = [] then withCode j (some (Value.ofJson i)) else wrongKind
    else if key = "$scope" then
      if next = "$code" ∧ rest = [] then withCode i (some (Value.ofJson j)) else wrongKind
    else if (Special.ofPayload? key j).isSome then wrongKind
    else do
      let v ← Value.ofJson j
      Value.ofMembers (sofar.insert key v) ((next, i) :: rest)

end

/-- The document of JSON with some arrays and objects around it. -/
def Document.ofJson (around : Nat) (limit : Nat) (j : Json) : Reasoned Document :=
  if around + j.height ≤ limit then do asDocument (← Value.ofJson j) else wrongValue

end DocGuard
