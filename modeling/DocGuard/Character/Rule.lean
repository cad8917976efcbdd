import DocGuard.Character.Set

/-!
# Rules for sets of characters

The character database gives some sets by a list and others by what they have in common. A rule
says how a set arises; its members are worked out only when they are asked for.

A table is a text of words with blanks between: `A` for one code point, `A-B` for a range, and
`A-B/S` for every `S`-th code point of a range, as in runs where uppercase and lowercase letters
alternate. All numbers are hexadecimal.
-/

namespace DocGuard

open DocGuard.Text

inductive CharRule where
  | listed (table : String)
  | either (a b : CharRule)
  | without (a b : CharRule)

namespace CharRule

instance : Union CharRule := ⟨either⟩

instance : SDiff CharRule := ⟨without⟩

def readWord? (word : List Char) : Option CharSet :=
  match cutAt '-' word with
  | none => (readHex? word).map CharSet.single
  | some (first, last) =>
    match cutAt '/' last with
    | none => do return [(← readHex? first, ← readHex? last)]
    | some (last, step) => do
      let a ← readHex? first
      let b ← readHex? last
      let s ← readHex? step
      return (List.range ((b - a) / s + 1)).map fun i => (a + i * s, a + i * s)

def readTable (table : String) : CharSet :=
  ((splitAt ' ' table.toList).filterMap readWord?).flatten

def members : CharRule → CharSet
  | listed table => (readTable table).normal
  | either a b => a.members.union b.members
  | without a b => a.members.diff b.members

def find? (name : String) (rules : List (List String × CharRule)) : Option CharRule :=
  (rules.find? fun entry => entry.1.contains name).map (·.2)

example : readTable "41-45/2 61-7A" = [(0x41, 0x41), (0x43, 0x43), (0x45, 0x45), (0x61, 0x7A)] := by
  decide +kernel

end CharRule

end DocGuard
