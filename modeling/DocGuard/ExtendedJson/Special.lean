import DocGuard.Document.Display
import DocGuard.Json.Basic

/-!
# Special forms of extended JSON

Values that JSON does not have are written as objects with a name that begins with a dollar. A
special form is what such an object holds, not yet checked for making sense; `Special.ofPayload?`
finds it in JSON, `Special.toValue` gives the value that it stands for.
-/

namespace DocGuard

open DocGuard.Text

/-- How a moment is written: milliseconds as digits or as a number, or in words of the calendar. -/
inductive DateForm where
  | digits (text : String)
  | calendar (text : String)
  | millis (n : Int)

inductive Special where
  | objectId (hex : String)
  | symbol (text : String)
  | regex (pattern options : String)
  | int32 (digits : String)
  | int64 (digits : String)
  | double (text : String)
  | decimal (text : String)
  | binary (base64 subtype : String)
  | uuid (text : String)
  | timestamp (time increment : Nat)
  | minKey (n : Nat)
  | maxKey (n : Nat)
  | undefined (b : Bool)
  | date (form : DateForm)
  | pointer (collection hex : String)

/-- A result, or the reason why there is none. -/
abbrev Reasoned (α : Type) := Except String α

def wrongKind {α : Type} : Reasoned α :=
  .error "invalid type"

/-- The reason for contents of the right kind that mean nothing. -/
def wrongValue {α : Type} : Reasoned α :=
  .error "invalid value"

def orWrong {α : Type} : Option α → Reasoned α
  | some a => .ok a
  | none => wrongValue

namespace Json

def asText : Json → Reasoned String
  | .text s => .ok s
  | _ => wrongKind

def asNat (bound : Nat) : Json → Reasoned Nat
  | .number (.whole n) => if 0 ≤ n ∧ n < bound then .ok n.toNat else wrongValue
  | _ => wrongKind

def alternatives : List String → String
  | [] => "none"
  | [a] => quoteName a
  | [a, b] => quoteName a ++ " or " ++ quoteName b
  | names => "one of " ++ joinWith ", " (names.map quoteName)
where
  /-- A name between grave accents. -/
  quoteName (name : String) : String := "\x60" ++ name ++ "\x60"

def missingField {α : Type} (name : String) : Reasoned α :=
  .error ("missing field " ++ alternatives [name])

/-- Checks the members of a record: each has to be a field that is not given twice, and to pass its
check. -/
def checkMembers (fields : List (String × (Json → Reasoned Unit))) (seen : List String) :
    List (String × Json) → Reasoned Unit
  | [] => .ok ()
  | (k, j) :: rest =>
    match fields.find? fun f => f.1 = k with
    | none => .error ("unknown field " ++ alternatives [k] ++ ", expected "
        ++ alternatives (fields.map Prod.fst))
    | some (_, check) =>
      if k ∈ seen then .error ("duplicate field " ++ alternatives [k])
      else do
        check j
        checkMembers fields (k :: seen) rest

/-- Checks the items of a record that is written as a list of its fields. -/
def checkItems : List (String × (Json → Reasoned Unit)) → List Json → Reasoned Unit
  | [], [] => .ok ()
  | (_, check) :: fields, j :: rest => do
    check j
    checkItems fields rest
  | _, _ => .error "invalid length"

/-- The fields of a record, which is written as an object without other members or as the list of
its fields. -/
def strictRecord (fields : List (String × (Json → Reasoned Unit))) :
    Json → Reasoned (List (String × Json))
  | .object members => do
    checkMembers fields [] members
    return members
  | .array items => do
    checkItems fields items
    return (fields.map Prod.fst).zip items
  | _ => wrongKind

def field {α : Type} (record : List (String × Json)) (name : String)
    (read : Json → Reasoned α) : Reasoned α :=
  match member? record name with
  | some j => read j
  | none => missingField name

def check {α : Type} (read : Json → Reasoned α) (j : Json) : Reasoned Unit :=
  (read j).map fun _ => ()

def single {α : Type} (name : String) (read : Json → Reasoned α) (j : Json) : Reasoned α := do
  field (← strictRecord [(name, check read)] j) name read

def pair {α β γ : Type} (first : String) (readFirst : Json → Reasoned α) (second : String)
    (readSecond : Json → Reasoned β) (join : α → β → γ) (j : Json) : Reasoned γ := do
  let record ← strictRecord [(first, check readFirst), (second, check readSecond)] j
  return join (← field record first readFirst) (← field record second readSecond)

end Json

namespace DateForm

/-- A moment in JSON: a record of digits, a text or a number. -/
def ofJson (j : Json) : Reasoned DateForm :=
  match Json.single "$numberLong" Json.asText j with
  | .ok s => .ok (.digits s)
  | .error _ =>
    match j with
    | .text s => .ok (.calendar s)
    | .number (.whole n) => if n < Int.pow 2 63 then .ok (.millis n) else unmatched
    | _ => unmatched
where
  unmatched : Reasoned DateForm :=
    .error "data did not match any variant of untagged enum DateTimeBody"

end DateForm

def readBounded (low high : Int) (s : String) : Reasoned Int :=
  match readInt? s.toList with
  | some n => if low ≤ n ∧ n ≤ high then .ok n else wrongValue
  | none => wrongValue

def readInt32 (s : String) : Reasoned Value :=
  (readBounded (-(Int.pow 2 31)) (Int.pow 2 31 - 1) s).map fun n => .int32 (Int32.ofInt n)

def readInt64 (s : String) : Reasoned Int64 :=
  (readBounded (-(Int.pow 2 63)) (Int.pow 2 63 - 1) s).map Int64.ofInt

def readObjectId (s : String) : Reasoned ObjectId :=
  let wrongLength : Reasoned ObjectId :=
    .error ("provided hex string representation must be exactly 12 bytes, instead got: "
      ++ quoted s ++ ", length " ++ toString s.utf8ByteSize)
  if s.utf8ByteSize % 2 = 1 then wrongLength
  else
    match readHex? s.toList with
    | some n => if s.length = 24 then .ok (.given n) else wrongLength
    | none => if s = "" then wrongLength else .error "invalid character"

def hyphened? (cs : List Char) : Option (List Char) :=
  if cs.length = 36 ∧ (List.range 36).all fun i =>
      (cs[i]? == some '-') == (i == 8 || i == 13 || i == 18 || i == 23) then
    some (cs.filter (· ≠ '-'))
  else none

/-- The hexadecimal digits of a universally unique identifier: alone, with hyphens, in braces, or
as a name. -/
def uuidDigits? (cs : List Char) : Option (List Char) :=
  if cs.length = 32 then some cs
  else
    match cs with
    | '\x7b' :: rest => if rest.getLast? = some '\x7d' then hyphened? rest.dropLast else none
    | _ =>
      match dropLead "urn:uuid:".toList cs with
      | some rest => hyphened? rest
      | none => hyphened? cs

/-- Bytes in base 64 with a subtype in hexadecimal. -/
def readBinary (base64 subtype : String) : Reasoned Value := do
  let bytes ← orWrong (bytesOfBase64? base64.toList)
  match ← orWrong (bytesOfHex? subtype.toList) with
  | [kind] => return .binary kind bytes
  | _ => wrongValue

def readDouble (s : String) : Reasoned Value := do
  let x ← orWrong (Decimal.readDouble? s.toList)
  return if x.isNaN ∧ s.toList.head? = some '-' then .negativeNaN else .double x

def DateForm.toValue : DateForm → Reasoned Value
  | .digits text => (readInt64 text).map Value.dateTime
  | .calendar text =>
    (orWrong (Calendar.readInternetForm? text.toList)).map fun ms => .dateTime (Int64.ofInt ms)
  | .millis n => .ok (.dateTime (Int64.ofInt n))

def sortLetters (s : String) : String :=
  String.ofList (s.toList.mergeSort fun a b => a ≤ b)

namespace Special

def ofPayload? (name : String) (j : Json) : Option (Reasoned Special) :=
  match name with
  | "$oid" => some (j.asText.map objectId)
  | "$symbol" => some (j.asText.map symbol)
  | "$regularExpression" =>
    some (j.pair "pattern" Json.asText "options" Json.asText regex)
  | "$numberInt" => some (j.asText.map int32)
  | "$numberLong" => some (j.asText.map int64)
  | "$numberDouble" => some (j.asText.map double)
  | "$numberDecimal" => some (j.asText.map decimal)
  | "$binary" => some (j.pair "base64" Json.asText "subType" Json.asText binary)
  | "$uuid" => some (j.asText.map uuid)
  | "$timestamp" => some (j.pair "t" (Json.asNat (Nat.pow 2 32)) "i" (Json.asNat (Nat.pow 2 32)) timestamp)
  | "$minKey" => some ((j.asNat 256).map minKey)
  | "$maxKey" => some ((j.asNat 256).map maxKey)
  | "$undefined" =>
    match j with
    | .bool b => some (.ok (.undefined b))
    | _ => some wrongKind
  | "$date" => some ((DateForm.ofJson j).map date)
  | "$dbPointer" =>
    some (j.pair "$ref" Json.asText "$id" (Json.single "$oid" Json.asText) pointer)
  | _ => none

def toValue : Special → Reasoned Value
  | objectId hex => (readObjectId hex).map Value.objectId
  | symbol text => .ok (.symbol text)
  | regex pattern options => .ok (.regex pattern (sortLetters options))
  | int32 digits => readInt32 digits
  | int64 digits => (readInt64 digits).map Value.int64
  | double text => readDouble text
  | decimal text => (orWrong (Decimal.Decimal128.read? text.toList)).map Value.decimal128
  | binary base64 subtype => readBinary base64 subtype
  | uuid text => do
    let digits ← orWrong (uuidDigits? text.toList)
    return .binary 4 (← orWrong (bytesOfHex? digits))
  | timestamp time increment => .ok (.timestamp time.toUInt32 increment.toUInt32)
  | minKey n => if n = 1 then .ok .minKey else wrongValue
  | maxKey n => if n = 1 then .ok .maxKey else wrongValue
  | undefined b => if b then .ok .undefined else wrongValue
  | date form => form.toValue
  | pointer collection hex => (readObjectId hex).map (Value.pointer collection)

def toJson : Special → Json
  | objectId hex => .object [("$oid", .text hex)]
  | symbol text => .object [("$symbol", .text text)]
  | regex pattern options =>
    .object [("$regularExpression",
      .object [("pattern", .text pattern), ("options", .text options)])]
  | int32 digits => .object [("$numberInt", .text digits)]
  | int64 digits => .object [("$numberLong", .text digits)]
  | double text => .object [("$numberDouble", .text text)]
  | decimal text => .object [("$numberDecimal", .text text)]
  | binary base64 subtype =>
    .object [("$binary", .object [("base64", .text base64), ("subType", .text subtype)])]
  | uuid text => .object [("$uuid", .text text)]
  | timestamp time increment =>
    .object [("$timestamp", .object [("t", .int time), ("i", .int increment)])]
  | minKey n => .object [("$minKey", .int n)]
  | maxKey n => .object [("$maxKey", .int n)]
  | undefined b => .object [("$undefined", .bool b)]
  | date (.digits text) => .object [("$date", .object [("$numberLong", .text text)])]
  | date (.calendar text) => .object [("$date", .text text)]
  | date (.millis n) => .object [("$date", .int n)]
  | pointer collection hex =>
    .object [("$dbPointer", .object [
      ("$ref", .text collection), ("$id", .object [("$oid", .text hex)])])]

end Special

end DocGuard
