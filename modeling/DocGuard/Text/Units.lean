/-!
# Length in sixteen-bit units

Limits on the length of text count the units of its UTF-16 form: a character beyond the basic
plane counts twice.
-/

namespace DocGuard.Text

def unitsOf (c : Char) : Nat :=
  if c.toNat < 0x10000 then 1 else 2

def units (s : String) : Nat :=
  s.toList.foldr (fun c n => unitsOf c + n) 0

example : units "a😀b" = 4 := by decide +kernel

end DocGuard.Text
