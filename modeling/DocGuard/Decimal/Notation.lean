import DocGuard.Decimal.Shortest

/-!
# Written forms of a double

Three outputs write doubles. Messages and values inside text use positional notation without end;
text made from a value writes whole numbers below `10^21` with all their digits; and JSON output
changes to a signed exponent outside `10^(-5)` to `10^16` and marks whole numbers by `.0`. Where two
decimals are equally near, JSON output takes the even one and the others take the upper one.
-/

namespace DocGuard.Decimal

def zeros (n : Nat) : String :=
  String.ofList (List.replicate n '0')

/-- Digits in positional notation, with a point only where a fraction follows. -/
def Digits.positional (d : Digits) : String :=
  let ds := Nat.toDigits 10 d.digits
  let point : Int := ds.length + d.exponent
  if 0 ≤ d.exponent then String.ofList ds ++ zeros d.exponent.natAbs
  else if 0 < point then
    String.ofList (ds.take point.natAbs) ++ "." ++ String.ofList (ds.drop point.natAbs)
  else "0." ++ zeros point.natAbs ++ String.ofList ds

def Digits.trimmed (d : Digits) : Digits :=
  let rec strip : Nat → Nat → Int → Digits
    | 0, n, e => ⟨n, e⟩
    | fuel + 1, n, e => if n ≠ 0 ∧ n % 10 = 0 then strip fuel (n / 10) (e + 1) else ⟨n, e⟩
  strip 20 d.digits d.exponent

def digitsOf (tie : Tie) (m : Nat) (q : Int) : Digits :=
  if m = 0 then ⟨0, 0⟩ else (shortest tie m q).trimmed

def signed (negative : Bool) (s : String) : String :=
  if negative then "-" ++ s else s

/-- A double in messages: shortest digits, never an exponent. -/
def display (x : Float) : String :=
  match Binary64.ofFloat x with
  | .finite negative m q => signed negative (digitsOf .up m q).positional
  | .infinite negative => signed negative "inf"
  | .notANumber => "NaN"

/-- A double as text: a whole number below `10^21` has all its digits, any other number the
shortest ones. -/
def text (x : Float) : String :=
  match Binary64.ofFloat x with
  | .finite negative m q =>
    match wholeValue? m q with
    | some n => if n < Nat.pow 10 21 then signed negative (toString n)
        else signed negative (digitsOf .up m q).positional
    | none => signed negative (digitsOf .up m q).positional
  | .infinite negative => signed negative "Infinity"
  | .notANumber => "NaN"

def Digits.json (d : Digits) : String :=
  let ds := Nat.toDigits 10 d.digits
  let point : Int := ds.length + d.exponent
  if 0 ≤ d.exponent ∧ point ≤ 16 then d.positional ++ ".0"
  else if 0 < point ∧ point ≤ 16 then d.positional
  else if -5 < point ∧ point ≤ 0 then d.positional
  else
    let power := if 0 < point then "+" ++ toString (point - 1) else toString (point - 1)
    match ds with
    | [] => "0"
    | [c] => String.ofList [c] ++ "e" ++ power
    | c :: rest => String.ofList [c] ++ "." ++ String.ofList rest ++ "e" ++ power

/-- A finite double in JSON output; the special values have no JSON form. -/
def json? (x : Float) : Option String :=
  match Binary64.ofFloat x with
  | .finite negative m q => some (signed negative (digitsOf .toEven m q).json)
  | .infinite _ => none
  | .notANumber => none

end DocGuard.Decimal
