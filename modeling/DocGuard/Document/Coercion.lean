import DocGuard.Document.Display
import DocGuard.Text.Units

/-!
# Loose readings of values

Rules compare values of different kinds, so every value can be read as a number, as text, as a
list of items or as true or false. A missing value is read too, which is why these functions take
an optional value.
-/

namespace DocGuard

open DocGuard.Text

/-- The number that a value of a numeric kind holds, as a double. -/
def Value.number? : Value → Option Float
  | .double x => some x
  | .negativeNaN => some Decimal.nan
  | .int32 n => some (Float.ofInt n.toInt)
  | .int64 n => some (Float.ofInt n.toInt)
  | _ => none

/-- Equality with one kind of number: numbers of all widths compare as doubles, and all else
by `Value.equal`. A missing value equals only a missing or an undefined one. -/
def sameValue : Option Value → Option Value → Bool
  | none, none => true
  | none, some .undefined => true
  | some .undefined, none => true
  | none, some _ => false
  | some _, none => false
  | some a, some b =>
    match a.number?, b.number? with
    | some x, some y => x == y
    | none, none => a == b
    | _, _ => false

/-- Whether a value counts as empty: missing, null, undefined, blank text, or a list or document
without contents. -/
def isEmptyValue : Option Value → Bool
  | none => true
  | some .null => true
  | some .undefined => true
  | some (.str s) => isAllBlank s.toList
  | some (.array items) => items.isEmpty
  | some (.doc entries) => entries.isEmpty
  | some _ => false

/-- Whether a value counts as true: missing, null, undefined, `false`, empty text, zero and the
double that is no number do not. -/
def truthy : Option Value → Bool
  | none => false
  | some .null => false
  | some .undefined => false
  | some (.bool b) => b
  | some (.str s) => s ≠ ""
  | some v =>
    match v.number? with
    | some x => x != 0.0 && !x.isNaN
    | none => true

/-- A value as a number: the length of a list, the number that a text is from end to end, the
number itself, and otherwise zero. -/
def toNumber : Option Value → Float
  | some (.array items) => Float.ofNat items.length
  | some (.str s) => (Decimal.readDouble? (trim s.toList)).getD 0.0
  | some v => v.number?.getD 0.0
  | none => 0.0

/-- A value as a list: the items of a list, nothing for a missing value, otherwise the value
alone. -/
def toItems : Option Value → List Value
  | some (.array items) => items
  | some v => [v]
  | none => []

/-- The signs in front of a text removed, all of them. -/
def dropSigns (cs : List Char) : List Char :=
  cs.dropWhile fun c => c == '+' || c == '-'

/-- The number that a text begins with. Blanks in front are skipped; `Infinity` after any signs
takes the sign of the first; otherwise the longest numeral counts. -/
def leadingNumber (s : List Char) : Float :=
  let cs := trimLeft s
  if (dropLead "Infinity".toList (dropSigns cs)).isSome then
    if cs.head? = some '-' then -Decimal.infinity else Decimal.infinity
  else
    match Decimal.Numeral.scan cs with
    | some (n, _) => n.toFloat
    | none => Decimal.nan

/-- A value as a bound of a comparison: a number, or the number that a text begins with. -/
def toBound : Option Value → Float
  | some (.str s) => leadingNumber s.toList
  | some v => v.number?.getD Decimal.nan
  | none => Decimal.nan

mutual

def Value.text : Value → String
  | .undefined => "undefined"
  | .null => "null"
  | .str s => s
  | .bool b => if b then "true" else "false"
  | .array items => joinWith "," (Value.textItems items)
  | .doc _ => "[object Object]"
  | .objectId id => id.hex
  | .regex pattern options => "/" ++ pattern ++ "/" ++ options
  | .double x => Decimal.text x
  | .int32 n => Decimal.text (Float.ofInt n.toInt)
  | .int64 n => Decimal.text (Float.ofInt n.toInt)
  | v => v.display

/-- The items of a list as text; null and undefined items are empty. -/
def Value.textItems : List Value → List String
  | [] => []
  | .null :: rest => "" :: Value.textItems rest
  | .undefined :: rest => "" :: Value.textItems rest
  | v :: rest => v.text :: Value.textItems rest

end

def toText : Option Value → String
  | none => "undefined"
  | some v => v.text

/-- The length of a value's text in sixteen-bit units. -/
def textUnits (v : Option Value) : Nat :=
  units (toText v)

end DocGuard
