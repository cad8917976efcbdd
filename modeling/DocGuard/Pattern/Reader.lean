import DocGuard.Pattern.Bracket
import DocGuard.Character.Derived

/-!
# Reading patterns

The reader takes one element after the other: a character, an escape, a class, a repetition of the
element before, or the start or end of a choice or group. The groups that are open at a place are
kept in a list, the innermost first. Look-around and references to groups are refused.
-/

namespace DocGuard.Pattern

open DocGuard.Text

/-- A number within a count, blanks around it allowed. -/
def readNumber : Nat → List Char → Cursor → List Char × Cursor
  | 0, digits, k => (digits, k)
  | fuel + 1, digits, k =>
    match k.head? with
    | some c => if isDigit c then readNumber fuel (c :: digits) k.next else (digits, k)
    | none => (digits, k)

/-- The place behind blanks, which never count next to a number. -/
def Cursor.trim (k : Cursor) : Cursor :=
  { k with rest := trimLeft k.rest }

/-- The place behind blanks after a number, and behind comments among them if they are skipped. -/
def trimAfter : Nat → Cursor → Cursor
  | 0, k => k
  | fuel + 1, k => if k.head?.any isBlank then trimAfter fuel k.next else k

/-- A number of a count, if one stands there; it has at most 32 bits. -/
def readCount (k : Cursor) : Except Defect (Option Nat × Cursor) :=
  let k := k.trim
  let (digits, k) := readNumber k.rest.length [] k
  let k := trimAfter k.rest.length k
  if digits = [] then .ok (none, k)
  else
    let n := decimalValue digits.reverse
    if n < Nat.pow 2 32 then .ok (some n, k) else .error .badCount

/-- The counts of a repetition from its brace on, and the place at the closing brace. -/
def readCounts (k : Cursor) : Except Defect ((Nat × Option Nat) × Cursor) := do
  let (least, k) ← readCount k.next
  let some least := least | throw .badCount
  match k.head? with
  | some '}' => return ((least, some least), k)
  | some ',' =>
    let k := k.next
    if k.head? = some '}' then return ((least, none), k)
    else
      let (most, k) ← readCount k
      match most, k.head? with
      | some most, some '}' =>
        if least ≤ most then return ((least, some most), k) else throw .badCount
      | _, _ => throw .unclosedCount
  | _ => throw .unclosedCount

def flagOf? (c : Char) : Option Flag :=
  match c with
  | 'i' => some .ignoreCase
  | 'm' => some .multiLine
  | 's' => some .dotAll
  | 'x' => some .verbose
  | 'u' => some .wide
  | 'R' => some .crlf
  | 'U' => some .swapped
  | _ => none

/-- Flag letters up to `:` or `)`; those behind a dash are cleared. The last two arguments are
what has been read, in reverse, and whether a dash has. The answer holds the mark at the end and
the text behind it. -/
def readFlags : List Char → FlagChange → Bool → Except Defect (FlagChange × Char × List Char)
  | [], _, _ => .error .unclosedGroup
  | c :: cs, done, negated =>
    if c = ':' ∨ c = ')' then .ok (done.reverse, c, cs)
    else if c = '-' then
      -- a dash stands once, and not last
      if negated ∨ cs.head? = some ':' ∨ cs.head? = some ')' then .error .badFlags
      else readFlags cs done true
    else
      match flagOf? c with
      | none => .error .badFlags
      | some flag =>
        if done.any (·.1 = flag) then .error .badFlags
        else readFlags cs ((flag, !negated) :: done) negated

def startsName (c : Char) : Bool :=
  c == '_' || Trait.alphabetic.members.has c.toNat

def goesOnName (c : Char) : Bool :=
  startsName c || c == '.' || c == '[' || c == ']' || Category.number.members.has c.toNat

def readName (cs : List Char) : Except Defect (List Char × List Char) :=
  match cutAt '>' cs with
  | some (c :: name, rest) =>
    if startsName c ∧ name.all goesOnName then .ok (c :: name, rest) else .error .badGroupName
  | _ => .error .badGroupName

def opensLookAround (cs : List Char) : Bool :=
  [['?', '='], ['?', '!'], ['?', '<', '='], ['?', '<', '!']].any fun lead =>
    (dropLead lead cs).isSome

def Atom.form : Atom → Form
  | .letter l => .letter l
  | .assertion a => .assertion a
  | .shorthand negated s => .shorthand negated s
  | .property negated s => .property negated s

/-- A sequence or a choice that is open: the choices read so far and the elements of the last one,
both in reverse. -/
structure OpenChoice where
  choices : List (Measured Form)
  parts : List (Measured Form)

namespace OpenChoice

def start : OpenChoice := ⟨[], []⟩

def sequence (o : OpenChoice) : Except Defect (Measured Form) :=
  match o.parts with
  | [] => .ok ⟨.empty, 0⟩
  | [p] => .ok p
  | ps => wrap (greatestDepth ps) (.cat (ps.reverse.map (·.part)))

def close (o : OpenChoice) : Except Defect (Measured Form) := do
  let last ← o.sequence
  match o.choices with
  | [] => return last
  | cs =>
    wrap (greatestDepth (last :: cs)) (.alt ((last :: cs).reverse.map (·.part)))

def add (o : OpenChoice) (p : Measured Form) : OpenChoice :=
  { o with parts := p :: o.parts }

def bar (o : OpenChoice) : Except Defect OpenChoice := do
  return ⟨(← o.sequence) :: o.choices, []⟩

/-- With the last element repeated; a change of flags cannot be. -/
def repeatLast (o : OpenChoice) (least : Nat) (most : Option Nat) (isLazy : Bool) :
    Except Defect OpenChoice :=
  match o.parts with
  | [] => .error .missingSubject
  | ⟨.change _, _⟩ :: _ => .error .missingSubject
  | p :: ps => do
    return { o with parts := (← wrap p.depth (.times p.part least most isLazy)) :: ps }

end OpenChoice

/-- A group that is open: its number and flags, what stands around it, and whether blanks are
skipped behind it. -/
structure OpenGroup where
  index : Option Nat
  flags : FlagChange
  around : OpenChoice
  verbose : Bool

/-- What the reader keeps: its place, the innermost open choice, the open groups, how many groups
have been numbered and the names of groups. -/
structure State where
  place : Cursor
  current : OpenChoice
  outer : List OpenGroup
  count : Nat
  names : List (List Char)

namespace State

def took (s : State) (p : Measured Form) (k : Cursor) : State :=
  { s with place := k, current := s.current.add p }

def enterNumbered (s : State) (rest : List Char) : State :=
  let opened : OpenGroup := ⟨some (s.count + 1), [], s.current, s.place.verbose⟩
  { s with place := { s.place with rest }, current := .start, outer := opened :: s.outer,
           count := s.count + 1 }

def verboseAfter (flags : FlagChange) (before : Bool) : Bool :=
  ((flags.find? fun f => f.1 = .verbose).map (·.2)).getD before

def enter (s : State) : Except Defect State :=
  let cs := s.place.next.rest
  if opensLookAround cs then .error .lookAround
  else
    match (dropLead ['?', 'P', '<'] cs).or (dropLead ['?', '<'] cs) with
    | some named => do
      let (name, rest) ← readName named
      if s.names.contains name then throw .repeatedGroupName
      else return { s.enterNumbered rest with names := name :: s.names }
    | none =>
      match cs with
      | '?' :: cs => do
        let (flags, mark, rest) ← readFlags cs [] false
        let verbose := verboseAfter flags s.place.verbose
        if mark = ')' then
          if flags = [] then throw .missingSubject
          else return s.took ⟨.change flags, 0⟩ ⟨rest, verbose⟩
        else
          return { s with
            place := ⟨rest, verbose⟩, current := .start,
            outer := ⟨none, flags, s.current, s.place.verbose⟩ :: s.outer }
      | cs => return s.enterNumbered cs

def leave (s : State) : Except Defect State :=
  match s.outer with
  | [] => .error .unopenedGroup
  | g :: outer => do
    let body ← s.current.close
    let group ← wrap body.depth (.group g.index g.flags body.part)
    return { s with
      place := ⟨s.place.rest.drop 1, g.verbose⟩, current := g.around.add group, outer }

/-- With the last element repeated and the place behind the repetition; a question mark there makes
it lazy. -/
def repeated (s : State) (least : Nat) (most : Option Nat) (k : Cursor) : Except Defect State := do
  let isLazy := k.head? = some '?'
  let current ← s.current.repeatLast least most isLazy
  return { s with current, place := if isLazy then k.skip else k }

/-- The state behind the element that starts with the character `c`. The text that is left is no
longer than the fuel. -/
def step (fuel : Nat) (s : State) (c : Char) : Except Defect State :=
  let k := s.place
  match c with
  | '(' => s.enter
  | ')' => s.leave
  | '|' => do return { s with current := ← s.current.bar, place := k.skip }
  | '[' => do
    let (p, k) ← readClass fuel k
    return s.took p k
  | '?' => s.repeated 0 (some 1) k.skip
  | '*' => s.repeated 0 none k.skip
  | '+' => s.repeated 1 none k.skip
  | '{' => do
    let ((least, most), k) ← readCounts k
    s.repeated least most k.next
  | '\\' => do
    let (atom, k) ← readEscape k.skip
    return s.took ⟨atom.form, 0⟩ k
  | '.' => .ok (s.took ⟨.dot, 0⟩ k.skip)
  | '^' => .ok (s.took ⟨.assertion .lineStart, 0⟩ k.skip)
  | '$' => .ok (s.took ⟨.assertion .lineEnd, 0⟩ k.skip)
  | c => .ok (s.took ⟨.letter ⟨c, false⟩, 0⟩ k.skip)

def run : Nat → State → Except Defect State
  | 0, s => .ok s
  | fuel + 1, s =>
    let s := { s with place := s.place.settle }
    match s.place.head? with
    | none => .ok s
    | some c => do run fuel (← s.step fuel c)

end State

/-- The written form of a pattern; `verbose` tells whether blanks and comments are skipped. Every
step takes at least one character, so their number bounds the steps. -/
def Form.read (pattern : String) (verbose : Bool) : Except Defect Form := do
  let cs := pattern.toList
  let s ← State.run (cs.length + 1) ⟨⟨cs, verbose⟩, .start, [], 0, []⟩
  if s.outer.isEmpty then return (← s.current.close).part else throw .unclosedGroup

end DocGuard.Pattern
