import DocGuard.Character.Set

/-!
# Ranges of characters as bytes

In text a character takes one to four bytes. A range of characters is cut into runs in which every
byte goes through a range of its own, whatever the others are; a run is then a short list of byte
ranges. The runs of a range come in ascending order.
-/

namespace DocGuard.Pattern

structure ByteRange where
  first : Nat
  last : Nat
deriving DecidableEq, Repr

/-- The greatest code point below which all take the same number of bytes as `a`, if `b` takes
more. -/
def cutAtLength? (a b : Nat) : Option Nat :=
  [0x7F, 0x7FF, 0xFFFF].find? fun m => a ≤ m && m < b

/-- The end of the first part of a range that does not agree in its leading bytes, where `unit` is
the number of code points that do. -/
def cutAtUnit? (a b unit : Nat) : Option Nat :=
  if a / unit = b / unit then none
  else if a % unit ≠ 0 then some (a / unit * unit + unit - 1)
  else if b % unit ≠ unit - 1 then some (b / unit * unit - 1)
  else none

def cut? (a b : Nat) : Option Nat :=
  (cutAtLength? a b).or <|
    if b ≤ 0x7F then none
    else [0x40, 0x1000, 0x40000].findSome? (cutAtUnit? a b)

def encode (n : Nat) : List Nat :=
  if n < 0x80 then [n]
  else if n < 0x800 then [0xC0 + n / 0x40, 0x80 + n % 0x40]
  else if n < 0x10000 then [0xE0 + n / 0x1000, 0x80 + n / 0x40 % 0x40, 0x80 + n % 0x40]
  else
    [0xF0 + n / 0x40000, 0x80 + n / 0x1000 % 0x40, 0x80 + n / 0x40 % 0x40, 0x80 + n % 0x40]

def runs (a b : Nat) : List (List ByteRange) :=
  match cut? a b with
  | some m =>
    if _h : a ≤ m ∧ m < b then runs a m ++ runs (m + 1) b else []
  | none => [List.zipWith ByteRange.mk (encode a) (encode b)]
termination_by b - a
decreasing_by all_goals omega

def setRuns (s : CharSet) : List (List ByteRange) :=
  s.flatMap fun r => runs r.1 r.2

example : runs 0x61 0xFF = [[⟨0x61, 0x7F⟩], [⟨0xC2, 0xC3⟩, ⟨0x80, 0xBF⟩]] := by
  cbv

end DocGuard.Pattern
