/-!
# Digits, hexadecimal and base 64

Writing numbers in a base, and bytes as text, together with the readers that the data formats
need.
-/

namespace DocGuard.Text

def decimalDigit? (c : Char) : Option Nat :=
  if '0' ≤ c ∧ c ≤ '9' then some (c.toNat - '0'.toNat) else none

def hexDigit? (c : Char) : Option Nat :=
  if '0' ≤ c ∧ c ≤ '9' then some (c.toNat - '0'.toNat)
  else if 'a' ≤ c ∧ c ≤ 'f' then some (c.toNat - 'a'.toNat + 10)
  else if 'A' ≤ c ∧ c ≤ 'F' then some (c.toNat - 'A'.toNat + 10)
  else none

def isDigit (c : Char) : Bool :=
  (decimalDigit? c).isSome

/-- The number that a list of digit values writes in `base`, on top of `acc`. -/
def foldDigits (base : Nat) (acc : Nat) (ds : List Nat) : Nat :=
  ds.foldl (fun n d => n * base + d) acc

/-- The number written by ASCII decimal digits; other characters count as zero. -/
def decimalValue (cs : List Char) : Nat :=
  foldDigits 10 0 (cs.map fun c => (decimalDigit? c).getD 0)

/-- A natural number in decimal digits alone, at least one of them. -/
def readNat? (cs : List Char) : Option Nat :=
  if cs ≠ [] ∧ cs.all isDigit then some (decimalValue cs) else none

/-- An integer: decimal digits after an optional sign of either kind. -/
def readInt? : List Char → Option Int
  | '-' :: cs => (readNat? cs).map fun n => -(n : Int)
  | '+' :: cs => (readNat? cs).map fun n => (n : Int)
  | cs => (readNat? cs).map fun n => (n : Int)

/-- A number written only in hexadecimal digits, at least one of them. -/
def readHex? (cs : List Char) : Option Nat :=
  if cs = [] then none
  else (cs.mapM hexDigit?).map (foldDigits 16 0)

/-- A number in decimal, with zeros in front up to `width` characters. -/
def padded (width n : Nat) : String :=
  let digits := Nat.toDigits 10 n
  String.ofList (List.replicate (width - digits.length) '0' ++ digits)

def paddedHex (width n : Nat) : String :=
  let digits := Nat.toDigits 16 n
  String.ofList (List.replicate (width - digits.length) '0' ++ digits)

def hexOfBytes (bs : List UInt8) : String :=
  String.join (bs.map fun b => paddedHex 2 b.toNat)

def bytesOfHex? : List Char → Option (List UInt8)
  | [] => some []
  | [_] => none
  | a :: b :: rest => do
    let high ← hexDigit? a
    let low ← hexDigit? b
    let bytes ← bytesOfHex? rest
    return UInt8.ofNat (high * 16 + low) :: bytes

def base64Digits : List Char :=
  "ABCDEFGHIJKLMNOPQRSTUVWXYZabcdefghijklmnopqrstuvwxyz0123456789+/".toList

def base64Digit (n : Nat) : Char :=
  base64Digits.getD (n % 64) 'A'

/-- Bytes in base 64, padded with `=` to a multiple of four characters. -/
def base64OfBytes : List UInt8 → List Char
  | [] => []
  | [a] =>
    let n := a.toNat * 16
    [base64Digit (n / 64), base64Digit n, '=', '=']
  | [a, b] =>
    let n := (a.toNat * 256 + b.toNat) * 4
    [base64Digit (n / 4096), base64Digit (n / 64), base64Digit n, '=']
  | a :: b :: c :: rest =>
    let n := (a.toNat * 256 + b.toNat) * 256 + c.toNat
    base64Digit (n / 262144) :: base64Digit (n / 4096) :: base64Digit (n / 64) :: base64Digit n
      :: base64OfBytes rest

def base64Value? (c : Char) : Option Nat :=
  base64Digits.findIdx? (· == c)

/-- The bytes of padded base 64. The bits that a final short group leaves over have to be zero. -/
def bytesOfBase64? : List Char → Option (List UInt8)
  | [] => some []
  | [a, b, '=', '='] => do
    let n := (← base64Value? a) * 64 + (← base64Value? b)
    if n % 16 = 0 then return [UInt8.ofNat (n / 16)] else none
  | [a, b, c, '='] => do
    let n := ((← base64Value? a) * 64 + (← base64Value? b)) * 64 + (← base64Value? c)
    if n % 4 = 0 then return [UInt8.ofNat (n / 1024), UInt8.ofNat (n / 4)] else none
  | a :: b :: c :: d :: rest => do
    let n := (((← base64Value? a) * 64 + (← base64Value? b)) * 64 + (← base64Value? c)) * 64
      + (← base64Value? d)
    let bytes ← bytesOfBase64? rest
    return UInt8.ofNat (n / 65536) :: UInt8.ofNat (n / 256) :: UInt8.ofNat n :: bytes
  | _ => none

example : String.ofList (base64OfBytes [0x00, 0xFF, 0x10, 0x20]) = "AP8QIA==" := by decide +kernel

end DocGuard.Text
