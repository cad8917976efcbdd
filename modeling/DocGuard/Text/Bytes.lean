/-!
# Text from bytes

Bytes that programs write are read as UTF-8. A sequence that breaks off or begins wrongly is
replaced by one replacement character, and reading goes on with the byte that broke it.
-/

namespace DocGuard.Text

def replacement : Char := '\ufffd'

def bytesOf (s : String) : List UInt8 :=
  s.toUTF8.toList

/-- What the first byte of a sequence says: the bits it gives, how many bytes follow, and the
bounds on the first of them. -/
def leadByte? (b : Nat) : Option (Nat × Nat × Nat × Nat) :=
  if 0xC2 ≤ b ∧ b < 0xE0 then some (b - 0xC0, 1, 0x80, 0xBF)
  else if b = 0xE0 then some (0, 2, 0xA0, 0xBF)
  else if b = 0xED then some (0xD, 2, 0x80, 0x9F)
  else if 0xE1 ≤ b ∧ b < 0xF0 then some (b - 0xE0, 2, 0x80, 0xBF)
  else if b = 0xF0 then some (0, 3, 0x90, 0xBF)
  else if 0xF1 ≤ b ∧ b < 0xF4 then some (b - 0xF0, 3, 0x80, 0xBF)
  else if b = 0xF4 then some (4, 3, 0x80, 0x8F)
  else none

/-- The characters of bytes of which a sequence has begun: its bits so far, how many of its bytes
are missing, and the bounds on the next of them. -/
def decodeFrom (bits missing low high : Nat) : List UInt8 → List Char
  | [] => if missing = 0 then [] else [replacement]
  | b :: rest =>
    let n := b.toNat
    if 0 < missing ∧ low ≤ n ∧ n ≤ high then
      let next := bits * 64 + n % 64
      if missing = 1 then Char.ofNat next :: decodeFrom 0 0 0 0 rest
      else decodeFrom next (missing - 1) 0x80 0xBF rest
    else
      let broken := if missing = 0 then [] else [replacement]
      if n < 0x80 then broken ++ Char.ofNat n :: decodeFrom 0 0 0 0 rest
      else
        match leadByte? n with
        | some (bits, missing, low, high) => broken ++ decodeFrom bits missing low high rest
        | none => broken ++ replacement :: decodeFrom 0 0 0 0 rest

def decodeBytes (bs : List UInt8) : List Char :=
  decodeFrom 0 0 0 0 bs

end DocGuard.Text
