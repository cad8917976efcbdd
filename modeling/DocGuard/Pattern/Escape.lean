import DocGuard.Character.Property
import DocGuard.Pattern.Cursor
import DocGuard.Pattern.Form

/-!
# Escapes

What a backslash introduces: a character by itself, by its number or by a letter, a place, or a
class. Where blanks and comments are skipped, they may stand within an escape as well.
-/

namespace DocGuard.Pattern

open DocGuard.Text

inductive Atom where
  | letter (l : Letter)
  | assertion (a : Assertion)
  | shorthand (negated : Bool) (s : Shorthand)
  | property (negated : Bool) (set : CharSet)

def Atom.plain (c : Char) : Atom :=
  .letter ⟨c, false⟩

def charOf? (n : Nat) : Option Char :=
  if n.isValidChar then some (Char.ofNat n) else none

/-- A character by `n` more hexadecimal digits of its number. -/
def readFixedHex (asByte : Bool) : Nat → Nat → Cursor → Except Defect (Atom × Cursor)
  | 0, value, k =>
    match charOf? value with
    | some c => .ok (.letter ⟨c, asByte⟩, k)
    | none => .error .badEscape
  | n + 1, value, k =>
    match k.head? with
    | none => .error .badEscape
    | some c =>
      match hexDigit? c with
      | none => .error .badEscape
      | some d => readFixedHex asByte n (value * 16 + d) k.next

/-- The characters up to a closing brace, from the one before the first on; blanks and comments
do not count. The place after is at the brace. -/
def readBraced : Nat → Cursor → Except Defect (List Char × Cursor)
  | 0, _ => .error .badEscape
  | fuel + 1, k =>
    let k := k.next
    match k.head? with
    | none => .error .badEscape
    | some '}' => .ok ([], k)
    | some c => do
      let (cs, k) ← readBraced fuel k
      return (c :: cs, k)

/-- A character by its number in hexadecimal, of `digits` digits or of any in braces; the place is
at the letter that introduces it. -/
def readHexEscape (digits : Nat) (k : Cursor) : Except Defect (Atom × Cursor) :=
  let k := k.next
  if k.head? = some '{' then do
    let (cs, k) ← readBraced (k.rest.length + 1) k
    match (readHex? cs).bind charOf? with
    | some c => return (.plain c, k.next)
    | none => throw .badEscape
  else readFixedHex (digits = 2) digits 0 k

/-- The parts before and after the first place where `mark` stands. -/
def cutAtMark (mark : List Char) : List Char → Option (List Char × List Char)
  | [] => none
  | c :: cs =>
    match dropLead mark (c :: cs) with
    | some rest => some ([], rest)
    | none => (cutAtMark mark cs).map fun (head, tail) => (c :: head, tail)

/-- The property that stands between braces, and whether the sign turns it around: a name, or a
name and a value with a sign between. -/
def propertyOf? (text : List Char) : Option (Bool × CharSet) :=
  match cutAtMark ['!', '='] text with
  | some (name, value) => (Property.byValue? name value).map fun s => (true, s)
  | none =>
    match (cutAt ':' text).or (cutAt '=' text) with
    | some (name, value) => (Property.byValue? name value).map fun s => (false, s)
    | none => (Property.byName? text).map fun s => (false, s)

/-- A property, by one letter or in braces; the place is at the letter that introduces it. -/
def readProperty (negated : Bool) (k : Cursor) : Except Defect (Atom × Cursor) :=
  let k := k.next
  match k.head? with
  | none => .error .badEscape
  | some '{' => do
    let (cs, k) ← readBraced (k.rest.length + 1) k
    match propertyOf? cs with
    | some (turned, s) => return (.property (negated != turned) s, k.skip)
    | none => throw .badProperty
  | some c =>
    match Property.byName? [c] with
    | some s => .ok (.property negated s, k.skip)
    | none => .error .badProperty

def isEdgeLetter (c : Char) : Bool :=
  ('A' ≤ c && c ≤ 'Z') || ('a' ≤ c && c ≤ 'z') || c == '-'

/-- The name of a word edge from its first letter on, blanks and comments left out. -/
def readEdgeName : Nat → Cursor → List Char × Cursor
  | 0, k => ([], k)
  | fuel + 1, k =>
    match k.head? with
    | none => ([], k)
    | some c =>
      if isEdgeLetter c then
        let (cs, k) := readEdgeName fuel k.next
        (c :: cs, k)
      else ([], k)

def edgeOf? (name : String) : Option Assertion :=
  match name with
  | "start" => some .wordStart
  | "end" => some .wordEnd
  | "start-half" => some .beforeWord
  | "end-half" => some .afterWord
  | _ => none

/-- A word edge, from behind its letter on. A name in braces tells which; braces that hold no name
are the count of a repetition. -/
def readWordEdge (k : Cursor) : Except Defect (Atom × Cursor) :=
  if k.head? ≠ some '{' then .ok (.assertion .wordEdge, k)
  else
    let inside := k.next
    match inside.head? with
    | none => .error .badEscape
    | some c =>
      if isEdgeLetter c then
        let (name, after) := readEdgeName inside.rest.length inside
        match after.head?, edgeOf? (String.ofList name) with
        | some '}', some a => .ok (.assertion a, after.skip)
        | _, _ => .error .badEscape
      else .ok (.assertion .wordEdge, k)

/-- Whether a backslash before the character makes it stand for itself: ASCII characters other
than letters, digits and the two angles. -/
def isEscapable (c : Char) : Bool :=
  c.toNat < 0x80 && !c.isAlphanum && c ≠ '<' && c ≠ '>'

def controlOf? (c : Char) : Option Char :=
  match c with
  | 'a' => some '\x07'
  | 'f' => some '\x0c'
  | 't' => some '\t'
  | 'n' => some '\n'
  | 'r' => some '\r'
  | 'v' => some '\x0b'
  | _ => none

def assertionOf? (c : Char) : Option Assertion :=
  match c with
  | 'A' => some .textStart
  | 'z' => some .textEnd
  | 'B' => some .noWordEdge
  | '<' => some .wordStart
  | '>' => some .wordEnd
  | _ => none

/-- The classes with a letter; the uppercase letter stands for all other characters. -/
def shorthandOf? (c : Char) : Option (Bool × Shorthand) :=
  match c with
  | 'd' => some (false, .digit)
  | 's' => some (false, .space)
  | 'w' => some (false, .word)
  | 'D' => some (true, .digit)
  | 'S' => some (true, .space)
  | 'W' => some (true, .word)
  | _ => none

/-- An escape, from behind its backslash on. -/
def readEscape (k : Cursor) : Except Defect (Atom × Cursor) :=
  match k.head? with
  | none => .error .badEscape
  | some c =>
    if isDigit c then .error .reference
    else if c = 'x' then readHexEscape 2 k
    else if c = 'u' then readHexEscape 4 k
    else if c = 'U' then readHexEscape 8 k
    else if c = 'p' ∨ c = 'P' then readProperty (c = 'P') k
    else if c = 'b' then readWordEdge k.skip
    else if isEscapable c then .ok (.plain c, k.skip)
    else
      match shorthandOf? c, controlOf? c, assertionOf? c with
      | some (negated, s), _, _ => .ok (.shorthand negated s, k.skip)
      | _, some control, _ => .ok (.plain control, k.skip)
      | _, _, some a => .ok (.assertion a, k.skip)
      | _, _, _ => .error .badEscape

end DocGuard.Pattern
