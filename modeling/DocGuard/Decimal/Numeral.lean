import DocGuard.Text.Digits
import DocGuard.Text.Blank
import DocGuard.Text.Split

/-!
# Decimal numerals

A numeral is an optional sign, digits with an optional point among them, and an optional exponent.
`Numeral.scan` finds the longest one that a text begins with; a whole text is a numeral when
nothing is left over. The value is the nearest double, overflow going to infinity.
-/

namespace DocGuard.Decimal

open DocGuard.Text

/-- A decimal numeral: `±coefficient · 10^exponent`. -/
structure Numeral where
  negative : Bool
  coefficient : Nat
  exponent : Int
deriving DecidableEq, Repr

def nan : Float :=
  0.0 / 0.0

def infinity : Float :=
  1.0 / 0.0

/-- The number of decimal digits, zero for zero. -/
def digitCount (n : Nat) : Nat :=
  if n = 0 then 0 else (Nat.toDigits 10 n).length

/-- The double nearest to a numeral's magnitude. Magnitudes of `10^400` and more are beyond the
largest double and those under `10^(-400)` are closer to zero than to any other, so neither needs
its digits. -/
def Numeral.magnitude (n : Numeral) : Float :=
  let top := n.exponent + digitCount n.coefficient
  if n.coefficient = 0 then 0.0
  else if top > 400 then infinity
  else if top < -400 then 0.0
  else if n.exponent < 0 then Float.ofScientific n.coefficient true n.exponent.natAbs
  else Float.ofScientific n.coefficient false n.exponent.natAbs

def Numeral.toFloat (n : Numeral) : Float :=
  if n.negative then -n.magnitude else n.magnitude

/-- A sign in front of a text: whether it is a minus, and the rest. -/
def takeSign : List Char → Bool × List Char
  | '-' :: cs => (true, cs)
  | '+' :: cs => (false, cs)
  | cs => (false, cs)

/-- The exponent part `e`, optional sign, digits. Without a digit there is no exponent part and
the whole text is left over. -/
def takeExponent (cs : List Char) : Int × List Char :=
  match cs with
  | [] => (0, [])
  | e :: rest =>
    if e = 'e' ∨ e = 'E' then
      let (negative, body) := takeSign rest
      let digits := body.takeWhile isDigit
      if digits = [] then (0, cs)
      else
        let n : Int := decimalValue digits
        (if negative then -n else n, body.dropWhile isDigit)
    else (0, cs)

/-- The fraction part: a point and any number of digits, none included. -/
def takeFraction : List Char → List Char × List Char
  | '.' :: cs => (cs.takeWhile isDigit, cs.dropWhile isDigit)
  | cs => ([], cs)

/-- The longest numeral that a text begins with, and what follows it. -/
def Numeral.scan (cs : List Char) : Option (Numeral × List Char) :=
  let (negative, body) := takeSign cs
  let whole := body.takeWhile isDigit
  let (fraction, afterFraction) := takeFraction (body.dropWhile isDigit)
  if whole ++ fraction = [] then none
  else
    let (exponent, rest) := takeExponent afterFraction
    some (⟨negative, decimalValue (whole ++ fraction), exponent - fraction.length⟩, rest)

/-- A text that is a numeral from end to end. -/
def Numeral.read? (cs : List Char) : Option Numeral :=
  match Numeral.scan cs with
  | some (n, []) => some n
  | _ => none

def lowerLetter (c : Char) : Char :=
  if 'A' ≤ c ∧ c ≤ 'Z' then Char.ofNat (c.toNat + 32) else c

/-- A double from a whole text: a numeral, or one of the words `inf`, `infinity` and `nan` in any
case after an optional sign. -/
def readDouble? (cs : List Char) : Option Float :=
  match Numeral.read? cs with
  | some n => some n.toFloat
  | none =>
    let (negative, body) := takeSign cs
    let word := String.ofList (body.map lowerLetter)
    if word = "inf" ∨ word = "infinity" then some (if negative then -infinity else infinity)
    else if word = "nan" then some nan
    else none

example : Numeral.scan "-12.5e+x".toList = some (⟨true, 125, -1⟩, "e+x".toList) := by
  decide +kernel

example : Numeral.read? "5.".toList = some ⟨false, 5, 0⟩ ∧ Numeral.read? ".".toList = none := by
  decide +kernel

end DocGuard.Decimal
