import DocGuard.ExtendedJson.Special

/-!
# Values as relaxed extended JSON

Everything that JSON has is written as JSON, and the rest as special forms. The scope of code is
written more plainly: moments in milliseconds, bytes without a subtype as numbers, and null for a
double that JSON does not have. Outside of scopes, what is written here is read back by
`Value.ofAnswer`, apart from the width of integers.
-/

namespace DocGuard

open DocGuard.Text

/-- A double that JSON does not have: null in a scope, and otherwise a special form. -/
def specialDouble (inScope : Bool) (text : String) : Json :=
  if inScope then .null else (Special.double text).toJson

def doubleToJson (inScope : Bool) (x : Float) : Json :=
  if x.isNaN then specialDouble inScope "NaN"
  else if x.isInf then specialDouble inScope (if x > 0.0 then "Infinity" else "-Infinity")
  else .number (.float x)

/-- A moment: in words of the calendar for the years 1970 to 9999 outside of scopes, and otherwise
in milliseconds. -/
def dateForm (inScope : Bool) (ms : Int) : DateForm :=
  if !inScope ∧ Calendar.hasInternetForm ms then .calendar (Calendar.internetForm ms)
  else .digits (toString ms)

/-- Bytes with their subtype: in a scope those of subtype zero are numbers. -/
def bytesToJson (inScope : Bool) (subtype : UInt8) (bytes : List UInt8) : Json :=
  if inScope ∧ subtype = 0 then .array (bytes.map fun b => .int b.toNat)
  else (Special.binary (String.ofList (base64OfBytes bytes)) (paddedHex 2 subtype.toNat)).toJson

mutual

def Value.toJson (inScope : Bool) : Value → Json
  | .null => .null
  | .undefined => (Special.undefined true).toJson
  | .bool b => .bool b
  | .int32 n => .int n.toInt
  | .int64 n => .int n.toInt
  | .double x => doubleToJson inScope x
  | .negativeNaN => specialDouble inScope "-NaN"
  | .str s => .text s
  | .array items => .array (Value.itemsToJson inScope items)
  | .doc entries => .object (Value.entriesToJson inScope entries)
  | .objectId id => (Special.objectId id.hex).toJson
  | .dateTime ms => (Special.date (dateForm inScope ms.toInt)).toJson
  | .regex pattern options =>
    (Special.regex pattern (if inScope then options else sortLetters options)).toJson
  | .timestamp time increment => (Special.timestamp time.toNat increment.toNat).toJson
  | .binary subtype bytes => bytesToJson inScope subtype bytes
  | .decimal128 d => (Special.decimal d.text).toJson
  | .code text => .object [("$code", .text text)]
  | .codeWithScope text scope =>
    .object [("$code", .text text), ("$scope", .object (Value.entriesToJson true scope))]
  | .symbol text => (Special.symbol text).toJson
  | .pointer collection id => (Special.pointer collection id.hex).toJson
  | .minKey => (Special.minKey 1).toJson
  | .maxKey => (Special.maxKey 1).toJson

def Value.itemsToJson (inScope : Bool) : List Value → List Json
  | [] => []
  | v :: rest => v.toJson inScope :: Value.itemsToJson inScope rest

def Value.entriesToJson (inScope : Bool) : List (String × Value) → List (String × Json)
  | [] => []
  | (k, v) :: rest => (k, v.toJson inScope) :: Value.entriesToJson inScope rest

end

def Value.relaxed (v : Value) : Json :=
  v.toJson false

end DocGuard
