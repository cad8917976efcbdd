import DocGuard.Json.Basic

/-!
# Number literals

A literal with a fraction or an exponent is read as its leading digits, as many as fit in 64 bits,
times or divided by a power of ten, both rounded to doubles. That is not always the nearest double,
and it is part of the meaning of the files and answers read here.
-/

namespace DocGuard

open DocGuard.Text

/-- The parts of a number literal. The fraction is empty where there is none. -/
structure NumberLiteral where
  negative : Bool
  whole : List Char
  fraction : List Char
  exponent : Option (Bool × List Char)

namespace NumberLiteral

/-- Digits up to a bound on their value, on top of a number: the number they lead to, and how many
of them there were room for. -/
def absorb (n : Nat) : List Char → Nat × Nat
  | [] => (n, 0)
  | c :: rest =>
    let next := n * 10 + (decimalDigit? c).getD 0
    if next < Nat.pow 2 64 then
      let (m, used) := absorb next rest
      (m, used + 1)
    else (n, 0)

/-- A power of ten up to `10^308`. -/
def powerOfTen (e : Nat) : Float :=
  Float.ofScientific 1 false e

/-- A double times `10^e`; there is none if the product is infinite. -/
def scale (x : Float) (e : Int) : Option Float :=
  if 0 ≤ e then
    if e ≤ 308 then
      let y := x * powerOfTen e.toNat
      if y.isInf then none else some y
    else if x == 0.0 then some x
    else none
  else if -308 ≤ e then some (x / powerOfTen (-e).toNat)
  else if -616 ≤ e then some (x / powerOfTen 308 / powerOfTen (-e - 308).toNat)
  else some 0.0

/-- An exponent held within 32 bits. -/
def holdExponent (e : Int) : Int :=
  max (-(Int.pow 2 31)) (min e (Int.pow 2 31 - 1))

/-- The magnitude of a literal with a fraction or an exponent, or of a whole number beyond 64
bits. -/
def magnitude? (l : NumberLiteral) : Option Float :=
  let (top, usedWhole) := absorb 0 l.whole
  let (digits, usedFraction) := absorb top l.fraction
  let shift : Int := (l.whole.length : Int) - usedWhole - usedFraction
  let x := digits.toUInt64.toFloat
  match l.exponent with
  | none => scale x shift
  | some (negative, ds) =>
    let e : Int := decimalValue ds
    if e < Int.pow 2 31 then scale x (holdExponent (if negative then shift - e else shift + e))
    -- an exponent beyond 32 bits decides without a product
    else if digits = 0 ∨ negative then some 0.0
    else none

def value? (l : NumberLiteral) : Option JsonNumber :=
  let n := decimalValue l.whole
  if l.fraction = [] ∧ l.exponent.isNone ∧ n < Nat.pow 2 64 then
    if ¬ l.negative then some (.whole n)
    else if 0 < n ∧ n ≤ Nat.pow 2 63 then some (.whole (-(n : Int)))
    -- a negative zero, or below the least 64-bit integer
    else some (.float (-n.toUInt64.toFloat))
  else (magnitude? l).map fun x => .float (if l.negative then -x else x)

/-- The whole part: a zero alone, or digits that do not begin with one. -/
def scanWhole : List Char → Option (List Char × List Char)
  | '0' :: rest =>
    match rest with
    | c :: _ => if isDigit c then none else some (['0'], rest)
    | [] => some (['0'], [])
  | cs =>
    let digits := cs.takeWhile isDigit
    if digits = [] then none else some (digits, cs.dropWhile isDigit)

/-- The fraction, at least one digit behind a point. -/
def scanFraction : List Char → Option (List Char × List Char)
  | '.' :: rest =>
    let digits := rest.takeWhile isDigit
    if digits = [] then none else some (digits, rest.dropWhile isDigit)
  | cs => some ([], cs)

/-- The exponent: its sign and at least one digit. -/
def scanExponent (cs : List Char) : Option (Option (Bool × List Char) × List Char) :=
  match cs with
  | [] => some (none, [])
  | e :: rest =>
    if e = 'e' ∨ e = 'E' then
      let (negative, body) := Decimal.takeSign rest
      let digits := body.takeWhile isDigit
      if digits = [] then none else some (some (negative, digits), body.dropWhile isDigit)
    else some (none, cs)

def scan (cs : List Char) : Option (NumberLiteral × List Char) := do
  let (negative, cs) := match cs with
    | '-' :: rest => (true, rest)
    | cs => (false, cs)
  let (whole, cs) ← scanWhole cs
  let (fraction, cs) ← scanFraction cs
  let (exponent, cs) ← scanExponent cs
  return (⟨negative, whole, fraction, exponent⟩, cs)

end NumberLiteral

end DocGuard
