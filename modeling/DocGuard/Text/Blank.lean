/-!
# Blanks

The white space of the Unicode character database, and trimming by it. Numbers and emptiness are
read from text after trimming, so the exact set matters: the zero width space and the byte order
mark are not in it.
-/

namespace DocGuard.Text

/-- The code points with the Unicode property `White_Space`, as closed ranges. -/
def blankRanges : List (Nat × Nat) :=
  [(0x09, 0x0D), (0x20, 0x20), (0x85, 0x85), (0xA0, 0xA0), (0x1680, 0x1680), (0x2000, 0x200A),
   (0x2028, 0x2029), (0x202F, 0x202F), (0x205F, 0x205F), (0x3000, 0x3000)]

def isBlank (c : Char) : Bool :=
  blankRanges.any fun r => r.1 ≤ c.toNat && c.toNat ≤ r.2

def trimLeft (cs : List Char) : List Char :=
  cs.dropWhile isBlank

def trim (cs : List Char) : List Char :=
  ((trimLeft cs).reverse.dropWhile isBlank).reverse

def isAllBlank (cs : List Char) : Bool :=
  cs.all isBlank

example : blankRanges.length = 10 ∧ isBlank '\u00a0' ∧ isBlank '\u3000' ∧ ¬ isBlank '\u200b' := by
  decide

example : trim [' ', 'a', ' ', 'b', '\n'] = ['a', ' ', 'b'] := by decide

end DocGuard.Text
