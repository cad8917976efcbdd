import DocGuard.Decimal.Numeral

/-!
# Decimal floating point with 34 digits

A decimal of this format keeps its written exponent: `1.50` and `1.5` are different values. It is
read from text only where no digit is lost, and written in the to-scientific-string form.
-/

namespace DocGuard.Decimal

open DocGuard.Text

inductive DecimalKind where
  | finite (coefficient : Nat) (exponent : Int)
  | infinite
  | notANumber (signalling : Bool)
deriving DecidableEq, Repr

structure Decimal128 where
  negative : Bool
  kind : DecimalKind
deriving DecidableEq, Repr

def maxDigits : Nat := 34

def maxExponent : Int := 6111

def minExponent : Int := -6176

/-- Takes zeros off the end of a coefficient, at most `n` of them. -/
def dropZeros : Nat → Nat → Nat × Nat
  | 0, c => (c, 0)
  | n + 1, c =>
    if c % 10 = 0 then
      let (c', k) := dropZeros n (c / 10)
      (c', k + 1)
    else (c, 0)

/-- A coefficient and an exponent brought into the format's range without losing a digit. -/
def fitDecimal? (coefficient : Nat) (exponent : Int) : Option (Nat × Int) :=
  let excess := digitCount coefficient - maxDigits
  let (c, k) := dropZeros excess coefficient
  let e := exponent + k
  if k < excess then none
  else if e < minExponent then
    let needed := (minExponent - e).natAbs
    if c = 0 then some (0, minExponent)
    else
      let (c', k') := dropZeros (min needed maxDigits) c
      if k' = needed then some (c', minExponent) else none
  else if maxExponent < e then
    let needed := (e - maxExponent).natAbs
    if c = 0 then some (0, maxExponent)
    else if digitCount c + needed ≤ maxDigits then some (c * Nat.pow 10 needed, maxExponent)
    else none
  else some (c, e)

/-- The exponent part of a lower-case decimal text: absent, or a sixteen-bit integer. -/
def readExponent? : List Char → Option Int
  | [] => some 0
  | 'e' :: cs => (readInt? cs).bind fun e => if -32768 ≤ e ∧ e ≤ 32767 then some e else none
  | _ => none

/-- A finite decimal from lower-case text without sign. -/
def readFinite? (cs : List Char) : Option (Nat × Int) := do
  let whole := cs.takeWhile isDigit
  let (fraction, rest) := takeFraction (cs.dropWhile isDigit)
  if whole ++ fraction = [] then none
  else
    let e ← readExponent? rest
    fitDecimal? (decimalValue (whole ++ fraction)) (e - fraction.length)

def Decimal128.read? (cs : List Char) : Option Decimal128 :=
  let (negative, body) := takeSign cs
  let word := body.map lowerLetter
  if word = "nan".toList then some ⟨negative, .notANumber false⟩
  else if word = "snan".toList then some ⟨negative, .notANumber true⟩
  else if word = "inf".toList ∨ word = "infinity".toList then some ⟨negative, .infinite⟩
  else (readFinite? word).map fun (c, e) => ⟨negative, .finite c e⟩

/-- The text of a finite decimal: positional while the exponent is not positive and at most six
zeros follow the point, otherwise with an exponent. -/
def showFinite (coefficient : Nat) (exponent : Int) : String :=
  let ds := Nat.toDigits 10 coefficient
  let adjusted : Int := exponent + ds.length - 1
  if exponent ≤ 0 ∧ -6 ≤ adjusted then
    if exponent = 0 then String.ofList ds
    else
      let places := exponent.natAbs
      let full := List.replicate (places + 1 - ds.length) '0' ++ ds
      String.ofList (full.take (full.length - places)) ++ "."
        ++ String.ofList (full.drop (full.length - places))
  else
    let mark := if 0 < adjusted then "E+" else "E"
    let tail := match ds.drop 1 with
      | [] => ""
      | rest => "." ++ String.ofList rest
    String.ofList (ds.take 1) ++ tail ++ mark ++ toString adjusted

/-- The text of a decimal. What is no number is written without its sign. -/
def Decimal128.text (d : Decimal128) : String :=
  let sign := if d.negative then "-" else ""
  match d.kind with
  | .finite c e => sign ++ showFinite c e
  | .infinite => sign ++ "Infinity"
  | .notANumber _ => "NaN"

example : (Decimal128.read? "1.50".toList).map Decimal128.text = some "1.50" := by decide +kernel

end DocGuard.Decimal
