import DocGuard.Pattern.Meaning
import DocGuard.Pattern.Reader
import DocGuard.Pattern.Size

/-!
# Searching with a pattern

A pattern becomes a machine of instructions, and the search follows all ways through it at once:
a state is the set of instructions that the text read so far can lead to. A text of `n` characters
is searched in `n` steps, each bounded by the size of the machine.
-/

namespace DocGuard.Pattern

/-- The pattern that a text writes, under the flags that hold at its start. -/
def Regex.read (pattern : String) (flags : Flags) : Except Defect Regex := do
  let form ← Form.read pattern flags.verbose
  let (r, _) ← form.regex flags
  r.checkSize
  return r

/-- An instruction; numbers are places of instructions. -/
inductive Instruction where
  | accept
  | fail
  | read (set : CharSet) (next : Nat)
  | fork (first second : Nat)
  | check (a : Anchor) (next : Nat)
deriving Inhabited

abbrev Code := Array Instruction

def emit (code : Code) (i : Instruction) : Nat × Code :=
  (code.size, code.push i)

/-- `n` copies of a part in a row, the last leading to `next`. -/
def emitCopies (part : Nat → Code → Nat × Code) : Nat → Nat → Code → Nat × Code
  | 0, next, code => (next, code)
  | n + 1, next, code =>
    let (start, code) := part next code
    emitCopies part n start code

/-- Up to `n` copies of a part in a row, each of which may be left out with all after it. -/
def emitOptions (part : Nat → Code → Nat × Code) (exit : Nat) : Nat → Nat → Code → Nat × Code
  | 0, next, code => (next, code)
  | n + 1, next, code =>
    let (start, code) := part next code
    let (choice, code) := emit code (.fork start exit)
    emitOptions part exit n choice code

/-- A part that may follow itself: the place of the fork behind it, and its start. -/
def emitLoop (part : Nat → Code → Nat × Code) (next : Nat) (code : Code) : Nat × Nat × Code :=
  -- the fork stands before the part that leads back to it: its place is kept and filled last
  let (choice, code) := emit code .fail
  let (start, code) := part choice code
  (choice, start, code.setIfInBounds choice (.fork start next))

def emitMany (part : Nat → Code → Nat × Code) (n next : Nat) (code : Code) : Nat × Code :=
  let (choice, start, code) := emitLoop part next code
  match n with
  | 0 => (choice, code)
  | n + 1 => emitCopies part n start code

def emitChoice : List Nat → Code → Nat × Code
  | [], code => emit code .fail
  | [s], code => (s, code)
  | s :: rest, code =>
    let (other, code) := emitChoice rest code
    emit code (.fork s other)

/-- The characters of a text, from the last one on. -/
def emitText : List Char → Nat → Code → Nat × Code
  | [], next, code => (next, code)
  | c :: before, next, code =>
    let (start, code) := emit code (.read (CharSet.single c.toNat) next)
    emitText before start code

mutual

/-- The machine of a pattern that leads to `next`: its starting place and the instructions. -/
def Regex.compile : Regex → Nat → Code → Nat × Code
  | .empty, next, code => (next, code)
  | .text cs, next, code => emitText cs.reverse next code
  | .chars set, next, code => emit code (.read set next)
  | .anchor a, next, code => emit code (.check a next)
  | .cat parts, next, code => Regex.compileSequence parts next code
  | .alt choices, next, code =>
    let (starts, code) := Regex.compileChoices choices next code
    emitChoice starts code
  | .times body least most _, next, code =>
    match most with
    | some most =>
      let (start, code) :=
        emitOptions (fun next code => body.compile next code) next (most - least) next code
      emitCopies (fun next code => body.compile next code) least start code
    | none => emitMany (fun next code => body.compile next code) least next code
  | .group _ body, next, code => body.compile next code

def Regex.compileSequence : List Regex → Nat → Code → Nat × Code
  | [], next, code => (next, code)
  | r :: rest, next, code =>
    let (start, code) := Regex.compileSequence rest next code
    r.compile start code

def Regex.compileChoices : List Regex → Nat → Code → List Nat × Code
  | [], _, code => ([], code)
  | r :: rest, next, code =>
    let (start, code) := r.compile next code
    let (starts, code) := Regex.compileChoices rest next code
    (start :: starts, code)

end

structure Machine where
  code : Code
  start : Nat

def Regex.machine (r : Regex) : Machine :=
  let (accept, code) := emit #[] .accept
  let (start, code) := r.compile accept code
  { code, start }

structure Place where
  before : Option Char
  after : Option Char

def inWord (ascii : Bool) : Option Char → Bool
  | some c =>
    if ascii then c.isAlphanum || c == '_' else Trait.word.members.has c.toNat
  | none => false

def Place.holds (p : Place) : Anchor → Bool
  | .textStart => p.before.isNone
  | .textEnd => p.after.isNone
  | .lineStart crlf => p.before.isNone || p.before == some '\n'
      || (crlf && p.before == some '\r' && p.after != some '\n')
  | .lineEnd false => p.after.isNone || p.after == some '\n'
  | .lineEnd true => p.after.isNone || p.after == some '\r'
      || (p.after == some '\n' && p.before != some '\r')
  | .wordEdge ascii => inWord ascii p.before != inWord ascii p.after
  | .noWordEdge ascii => inWord ascii p.before == inWord ascii p.after
  | .wordStart ascii => !inWord ascii p.before && inWord ascii p.after
  | .wordEnd ascii => inWord ascii p.before && !inWord ascii p.after
  | .beforeWord ascii => !inWord ascii p.before
  | .afterWord ascii => !inWord ascii p.after

/-- What the instructions reached at a place amount to: whether the machine accepts there, the
instructions that wait for a character, and for every instruction the last step that reached it. -/
structure Reached where
  accepts : Bool
  waiting : List (CharSet × Nat)
  seen : Array Nat

/-- Follows instructions that read nothing, each at most once in the step with the given number.
Every instruction adds at most two places to the list, so the fuel of twice the machine's size and
the list's length is enough. -/
def Machine.follow (m : Machine) (p : Place) (step : Nat) :
    Nat → List Nat → Reached → Reached
  | 0, _, r => r
  | _, [], r => r
  | fuel + 1, n :: rest, r =>
    -- a place outside the machine counts as seen
    if r.seen.getD n step = step then m.follow p step fuel rest r
    else
      let r := { r with seen := r.seen.setIfInBounds n step }
      match m.code.getD n .fail with
      | .accept => m.follow p step fuel rest { r with accepts := true }
      | .fail => m.follow p step fuel rest r
      | .read set next =>
        m.follow p step fuel rest { r with waiting := (set, next) :: r.waiting }
      | .fork a b => m.follow p step fuel (a :: b :: rest) r
      | .check a next =>
        if p.holds a then m.follow p step fuel (next :: rest) r
        else m.follow p step fuel rest r

def Machine.reach (m : Machine) (p : Place) (step : Nat) (starts : List Nat) (seen : Array Nat) :
    Reached :=
  m.follow p step (2 * m.code.size + starts.length + 1) starts ⟨false, [], seen⟩

/-- Whether the machine accepts some part of a text: `places` are those reached by the characters
before, and at each place the machine may also start anew. Steps are numbered from one. -/
def Machine.search (m : Machine) :
    Nat → Option Char → List Nat → Array Nat → List Char → Bool
  | step, before, places, seen, [] =>
    (m.reach ⟨before, none⟩ step (m.start :: places) seen).accepts
  | step, before, places, seen, c :: cs =>
    let r := m.reach ⟨before, some c⟩ step (m.start :: places) seen
    if r.accepts then true
    else
      let places := r.waiting.filterMap fun (set, next) =>
        if set.has c.toNat then some next else none
      m.search (step + 1) (some c) places r.seen cs

def Regex.matchesIn (r : Regex) (text : String) : Bool :=
  let m := r.machine
  m.search 1 none [] (Array.replicate m.code.size 0) text.toList

end DocGuard.Pattern
