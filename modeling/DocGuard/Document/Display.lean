import DocGuard.Document.Value
import DocGuard.Decimal.Notation
import DocGuard.Calendar

/-!
# Values in messages

The form in which a value stands inside an error message: doubles in positional notation, text in
quotes without escapes, documents in braces, and a word with its contents for the rarer kinds.
-/

namespace DocGuard

open DocGuard.Text

/-- The 24 hexadecimal digits of an object id; a made-up id is written by its number. -/
def ObjectId.hex : ObjectId → String
  | .given n => paddedHex 24 n
  | .minted n => paddedHex 24 n

def quoted (s : String) : String :=
  "\"" ++ s ++ "\""

mutual

def Value.display : Value → String
  | .null => "null"
  | .undefined => "undefined"
  | .bool b => if b then "true" else "false"
  | .int32 n => toString n.toInt
  | .int64 n => toString n.toInt
  | .double x => Decimal.display x
  | .negativeNaN => "NaN"
  | .str s => quoted s
  | .array items => "[" ++ joinWith ", " (Value.displayItems items) ++ "]"
  | .doc entries =>
    match Value.displayEntries entries with
    | [] => "\x7b\x7d"
    | shown => "\x7b " ++ joinWith ", " shown ++ " \x7d"
  | .objectId id => "ObjectId(" ++ quoted id.hex ++ ")"
  | .dateTime ms => "DateTime(" ++ quoted (Calendar.display ms.toInt) ++ ")"
  | .regex pattern options => "/" ++ pattern ++ "/" ++ options
  | .timestamp t i => "Timestamp(" ++ toString t.toNat ++ ", " ++ toString i.toNat ++ ")"
  | .binary subtype bytes =>
    "Binary(0x" ++ paddedHex 1 subtype.toNat ++ ", " ++ String.ofList (base64OfBytes bytes) ++ ")"
  | .decimal128 d => d.text
  | .code text => text
  | .codeWithScope text _ => text
  | .symbol text => "Symbol(" ++ quoted text ++ ")"
  | .pointer collection id => "DBPointer(" ++ collection ++ ", " ++ id.hex ++ ")"
  | .minKey => "MinKey"
  | .maxKey => "MaxKey"

def Value.displayItems : List Value → List String
  | [] => []
  | v :: rest => v.display :: Value.displayItems rest

def Value.displayEntries : List (String × Value) → List String
  | [] => []
  | (k, v) :: rest => (quoted k ++ ": " ++ v.display) :: Value.displayEntries rest

end

end DocGuard
