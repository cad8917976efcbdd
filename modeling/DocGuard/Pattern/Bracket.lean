import DocGuard.Pattern.Escape

/-!
# Bracket classes

A class lists characters, ranges, named classes and further classes, and combines such lists by
set operations from left to right. The classes that are open at a place are kept in a list, the
innermost first, so that the reader takes one item after the other.
-/

namespace DocGuard.Pattern

open DocGuard.Text

/-- The named classes of bracket expressions, all within ASCII. -/
def namedSet? (name : String) : Option CharSet :=
  match name with
  | "alnum" => some [(0x30, 0x39), (0x41, 0x5A), (0x61, 0x7A)]
  | "alpha" => some [(0x41, 0x5A), (0x61, 0x7A)]
  | "ascii" => some .ascii
  | "blank" => some [(0x09, 0x09), (0x20, 0x20)]
  | "cntrl" => some [(0x00, 0x1F), (0x7F, 0x7F)]
  | "digit" => some [(0x30, 0x39)]
  | "graph" => some [(0x21, 0x7E)]
  | "lower" => some [(0x61, 0x7A)]
  | "print" => some [(0x20, 0x7E)]
  | "punct" => some [(0x21, 0x2F), (0x3A, 0x40), (0x5B, 0x60), (0x7B, 0x7E)]
  | "space" => some [(0x09, 0x0D), (0x20, 0x20)]
  | "upper" => some [(0x41, 0x5A)]
  | "word" => some [(0x30, 0x39), (0x41, 0x5A), (0x5F, 0x5F), (0x61, 0x7A)]
  | "xdigit" => some [(0x30, 0x39), (0x41, 0x46), (0x61, 0x66)]
  | _ => none

/-- A named class such as `[:alpha:]` at the front of the text, a caret in it for all other
characters, and the text behind it. -/
def namedClass? (cs : List Char) : Option (Members × List Char) := do
  let body ← dropLead ['[', ':'] cs
  let (negated, body) := match body with
    | '^' :: more => (true, more)
    | more => (false, more)
  let rest ← dropLead [':', ']'] (body.dropWhile (· ≠ ':'))
  let s ← namedSet? (String.ofList (body.takeWhile (· ≠ ':')))
  return (.fixed negated s, rest)

def readItem (k : Cursor) : Except Defect (Atom × Cursor) :=
  match k.head? with
  | none => .error .unclosedClass
  | some '\\' => readEscape k.skip
  | some c => .ok (.plain c, k.skip)

def Atom.members : Atom → Except Defect Members
  | .letter l => .ok (.letter l)
  | .shorthand negated s => .ok (.shorthand negated s)
  | .property negated s => .ok (.property negated s)
  | .assertion _ => .error .badEscape

def readRange (k : Cursor) : Except Defect (Members × Cursor) := do
  let (first, k) ← readItem k
  let k := k.settle
  if k.rest = [] then throw .unclosedClass
  -- a dash in front of the closing bracket or of another dash does not make a range
  else if k.head? ≠ some '-' ∨ k.peek? = some ']' ∨ k.peek? = some '-' then
    return (← first.members, k)
  else
    let (last, k) ← readItem k.next
    match first, last with
    | .letter a, .letter b =>
      if a.char ≤ b.char then return (.range a b, k) else throw .badRange
    | _, _ => throw .badRange

/-- An open class: whether it stands for the other characters, its items in reverse, and what its
operations so far combine, with the operation that waits for the items. -/
structure OpenClass where
  negated : Bool
  items : List (Measured Members)
  left : Option (Measured Members × SetOperation)

namespace OpenClass

def add (o : OpenClass) (m : Measured Members) : OpenClass :=
  { o with items := m :: o.items }

def listed (o : OpenClass) : Except Defect (Measured Members) :=
  match o.items with
  | [] => .ok ⟨.none, 0⟩
  | [m] => .ok m
  | ms => wrap (greatestDepth ms) (.every (ms.reverse.map (·.part)))

def body (o : OpenClass) : Except Defect (Measured Members) := do
  let right ← o.listed
  match o.left with
  | none => return right
  | some (left, op) => wrap (max left.depth right.depth) (.combined op left.part right.part)

def operate (o : OpenClass) (op : SetOperation) : Except Defect OpenClass := do
  return { o with items := [], left := some (← o.body, op) }

end OpenClass

/-- The dashes at the front of a class, which stand for themselves. -/
def leadingDashes : Nat → Cursor → List (Measured Members) × Cursor
  | 0, k => ([], k)
  | fuel + 1, k =>
    if k.head? = some '-' then
      let (dashes, k) := leadingDashes fuel k.next
      (⟨.letter ⟨'-', false⟩, 0⟩ :: dashes, k)
    else ([], k)

/-- The opening of a class from its bracket on: a caret, and what stands for itself in front. The
text that is left is no longer than the fuel. -/
def openClass (fuel : Nat) (k : Cursor) : Except Defect (OpenClass × Cursor) :=
  let k := k.next
  let negated := k.head? = some '^'
  let k := if negated then k.next else k
  let (items, k) := leadingDashes fuel k
  -- a bracket that would close the class before its first item is an item itself
  let (items, k) :=
    if items.isEmpty ∧ k.head? = some ']' then ([⟨.letter ⟨']', false⟩, 0⟩], k.next) else (items, k)
  if k.rest = [] then .error .unclosedClass else .ok (⟨negated, items, none⟩, k)

def setOperation? : List Char → Option (SetOperation × List Char)
  | '&' :: '&' :: rest => some (.inter, rest)
  | '-' :: '-' :: rest => some (.diff, rest)
  | '~' :: '~' :: rest => some (.symmDiff, rest)
  | _ => none

/-- The rest of the class `o`, which stands within the classes `outer`: whether the outermost one
is negated, what it lists, and the place behind it. -/
def readItems : Nat → Cursor → OpenClass → List OpenClass →
    Except Defect ((Bool × Measured Members) × Cursor)
  | 0, _, _, _ => .error .unclosedClass
  | fuel + 1, k, o, outer =>
    let k := k.settle
    match k.head? with
    | none => .error .unclosedClass
    | some '[' =>
      match namedClass? k.rest with
      | some (m, rest) => readItems fuel { k with rest } (o.add ⟨m, 0⟩) outer
      | none => do
        let (inner, k) ← openClass fuel k
        readItems fuel k inner (o :: outer)
    | some ']' => do
      let body ← o.body
      match outer with
      | [] => return ((o.negated, body), k.skip)
      | around :: outer =>
        let nested ← wrap body.depth (.bracketed o.negated body.part)
        readItems fuel k.skip (around.add nested) outer
    | some _ =>
      match setOperation? k.rest with
      | some (op, rest) => do readItems fuel { k with rest } (← o.operate op) outer
      | none => do
        let (m, k) ← readRange k
        readItems fuel k (o.add ⟨m, 0⟩) outer

/-- A class from its bracket on. The text that is left is no longer than the fuel. -/
def readClass (fuel : Nat) (k : Cursor) : Except Defect (Measured Form × Cursor) := do
  let (o, k) ← openClass fuel k
  let ((negated, body), k) ← readItems fuel k o []
  return (← wrap body.depth (.bracketed negated body.part), k)

end DocGuard.Pattern
