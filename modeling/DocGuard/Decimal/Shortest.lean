import DocGuard.Decimal.Numeral

/-!
# The shortest digits of a double

A finite double is `m · 2^q`. The reals that round to it form an interval, and among the decimals
in that interval those with the fewest digits are candidates for its text; of two such decimals
the nearer one is taken, and of two that are equally near the one that the caller's `Tie` names.
Everything is decided in exact natural arithmetic.
-/

namespace DocGuard.Decimal

/-- A double taken apart: `±significand · 2^exponent`, or one of the special values. -/
inductive Binary64 where
  | finite (negative : Bool) (significand : Nat) (exponent : Int)
  | infinite (negative : Bool)
  | notANumber
deriving DecidableEq, Repr

def Binary64.ofFloat (x : Float) : Binary64 :=
  let bits := x.toBits.toNat
  let negative : Bool := bits / Nat.pow 2 63 = 1
  let biased : Nat := bits / Nat.pow 2 52 % Nat.pow 2 11
  let fraction : Nat := bits % Nat.pow 2 52
  if biased = 2047 then
    if fraction = 0 then .infinite negative else .notANumber
  else if biased = 0 then .finite negative fraction (-1074)
  else .finite negative (Nat.pow 2 52 + fraction) ((biased : Int) - 1075)

/-- The integer value of `m · 2^q`, when it is one. -/
def wholeValue? (m : Nat) (q : Int) : Option Nat :=
  if 0 ≤ q then some (m * Nat.pow 2 q.natAbs)
  else if m % Nat.pow 2 q.natAbs = 0 then some (m / Nat.pow 2 q.natAbs)
  else none

/-- The natural number that a double is, if it is one; both zeros are. -/
def natValue? (x : Float) : Option Nat :=
  match Binary64.ofFloat x with
  | .finite negative m q => if negative ∧ m ≠ 0 then none else wholeValue? m q
  | .infinite _ => none
  | .notANumber => none

/-- Decimal digits and the place of the point: the value is `digits · 10^exponent`. -/
structure Digits where
  digits : Nat
  exponent : Int
deriving DecidableEq, Repr

/-- The least `k` with `num < den · 10^k`, counting on from a start with fuel. -/
def raiseMagnitude (num den : Nat) : Nat → Nat → Nat
  | 0, k => k
  | fuel + 1, k => if num < den * Nat.pow 10 k then k else raiseMagnitude num den fuel (k + 1)

/-- The number of zeros that follow the point of a value under one: the least `k` with
`den ≤ num · 10^(k + 1)`, counting on from a start with fuel. -/
def leadingZeros (num den : Nat) : Nat → Nat → Nat
  | 0, k => k
  | fuel + 1, k => if den ≤ num * Nat.pow 10 (k + 1) then k else leadingZeros num den fuel (k + 1)

/-- The `k` with `10^(k-1) ≤ num/den < 10^k`, for a positive value within the doubles' range. -/
def magnitudeOf (num den : Nat) : Int :=
  if den ≤ num then
    let start := (Nat.log2 (num / den)) * 3 / 10
    raiseMagnitude num den 330 start
  else
    let start := (Nat.log2 (den / num) - 1) * 3 / 10
    Int.negOfNat (leadingZeros num den 330 start)

def scaled (num den : Nat) (e : Int) : Nat × Nat :=
  if 0 ≤ e then (num * Nat.pow 10 e.natAbs, den) else (num, den * Nat.pow 10 e.natAbs)

inductive Tie where
  | up
  | toEven
deriving DecidableEq, Repr

/-- The decimal that is taken, of one and the next, where the value is between them at `rest` parts
of `whole`. -/
def Tie.choose (tie : Tie) (floor rest whole : Nat) : Nat :=
  if 2 * rest < whole then floor
  else if 2 * rest = whole ∧ tie = .toEven ∧ floor % 2 = 0 then floor
  else floor + 1

/-- The fewest digits that read back as `m · 2^q`, where `m` is not zero. The interval is closed
exactly when `m` is even, and its lower half is half as wide when `m` is the least significand of
its binade. -/
def shortest (tie : Tie) (m : Nat) (q : Int) : Digits :=
  let pow : Int → Nat × Nat := fun e =>
    if 0 ≤ e then (Nat.pow 2 e.natAbs, 1) else (1, Nat.pow 2 e.natAbs)
  -- the value and both ends of its interval, as multiples of a quarter of `2^q`
  let (up, down) := pow (q - 2)
  let value := (4 * m * up, down)
  let high := (4 * m + 2) * up
  let low := if m = Nat.pow 2 52 ∧ -1074 < q then (4 * m - 1) * up else (4 * m - 2) * up
  let closed : Bool := m % 2 = 0
  let k := magnitudeOf value.1 value.2
  let inside (c : Nat) (e : Int) : Bool :=
    let (n, d) := scaled c 1 e
    let point := n * down
    if closed then low * d ≤ point ∧ point ≤ high * d else low * d < point ∧ point < high * d
  let rec search : Nat → Nat → Digits
    | 0, n => ⟨(scaled value.1 value.2 (n - k)).1 / (scaled value.1 value.2 (n - k)).2, k - n⟩
    | fuel + 1, n =>
      -- on the grid of `n` digits only the two neighbours of the value can lie inside
      let e : Int := k - n
      let (num, den) := scaled value.1 value.2 (-e)
      let floor := num / den
      let floorIn := inside floor e
      let ceilIn := inside (floor + 1) e
      if floorIn ∧ ceilIn then ⟨tie.choose floor (num % den) den, e⟩
      else if floorIn then ⟨floor, e⟩
      else if ceilIn then ⟨floor + 1, e⟩
      else search fuel (n + 1)
  search 17 1

end DocGuard.Decimal
