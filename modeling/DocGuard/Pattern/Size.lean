import DocGuard.Pattern.Encoding
import DocGuard.Pattern.Form
import DocGuard.Pattern.Regex
import Std.Data.HashMap

/-!
# The size of patterns

A pattern stands for two machines over bytes, one that reads text forward and one that reads it
backward, and it is refused if one of them takes too much memory. This module lays the machines
out without building them: it counts their states and the memory of their links.

A state takes a fixed number of bytes, and further bytes for each way on if there may be several.
States for the bytes of a class are shared if they lead on in the same way. They are looked up in a
table with a fixed number of slots, where a later state takes the slot of an earlier one, so what
is shared depends on the numbers of the states.
-/

namespace DocGuard.Pattern

inductive Direction where
  | forward
  | backward
deriving DecidableEq, Repr

structure Layout where
  states : Nat
  memory : Nat

/-- The greatest memory of a machine, in bytes. -/
def maxMemory : Nat := 10 * 1024 * 1024

def stateMemory : Nat := 32

/-- The memory of one way on by a range of bytes, in a state with several such ways. -/
def rangeMemory : Nat := 8

/-- The memory of one way on without a byte, in a state with several such ways. -/
def linkMemory : Nat := 4

namespace Layout

def take (l : Layout) (bytes : Nat) : Except Defect Layout :=
  if l.memory + bytes ≤ maxMemory then .ok { l with memory := l.memory + bytes }
  else .error .tooLarge

/-- With `n` more states, and further memory for their ways on. -/
def add (l : Layout) (n : Nat) (more : Nat) : Except Defect Layout :=
  Layout.take { l with states := l.states + n } (n * stateMemory + more)

/-- With links from a state of which the flag tells whether it may have several. -/
def linkFrom (l : Layout) (several : Bool) : Except Defect Layout :=
  if several then l.take linkMemory else .ok l

end Layout

/-- A part that is laid out: the layout with it, and whether its last state may have several
links. -/
abbrev Part := Bool × Layout

/-! ## Classes -/

structure Edge where
  range : ByteRange
  next : Nat
deriving DecidableEq, Repr

/-- A step of the hash of a list of numbers. -/
def mixHash (h : UInt64) (n : Nat) : UInt64 :=
  (h ^^^ n.toUInt64) * 1099511628211

def slotOf (slots : Nat) (ns : List Nat) : Nat :=
  (ns.foldl mixHash 14695981039346656037).toNat % slots

/-- States that may be shared, by their slots: what each leads on to, and its number. -/
abbrev Shared := Std.HashMap Nat (List Edge × Nat)

structure Sharing where
  layout : Layout
  shared : Shared

namespace Sharing

def fresh (s : Sharing) (slot memory : Nat) (edges : List Edge) :
    Except Defect (Nat × Sharing) := do
  let ⟨l, shared⟩ := s
  return (l.states, ⟨← l.add 1 memory, shared.insert slot (edges, l.states)⟩)

/-- The number of a state with the given ways on, which may be there already. -/
def state (s : Sharing) (slot memory : Nat) (edges : List Edge) : Except Defect (Nat × Sharing) :=
  match s.shared[slot]? with
  | some (known, n) => if known = edges then .ok (n, s) else s.fresh slot memory edges
  | none => s.fresh slot memory edges

/-- The number of a state by which a forward machine goes on in several ways. -/
def forwardState (s : Sharing) (edges : List Edge) : Except Defect (Nat × Sharing) :=
  let slot := slotOf 10000 (edges.flatMap fun e => [e.range.first, e.range.last, e.next])
  s.state slot (edges.length * rangeMemory) edges

/-- The number of a state by which a backward machine goes on by one range. -/
def backwardState (s : Sharing) (r : ByteRange) (next : Nat) : Except Defect (Nat × Sharing) :=
  s.state (slotOf 1000 [next, r.first, r.last]) 0 [⟨r, next⟩]

end Sharing

/-- A state that is not finished: its ways on, in reverse, and the range of the last one, whose
state is not known yet. -/
structure OpenState where
  edges : List Edge
  last : Option ByteRange

def OpenState.finish (o : OpenState) (next : Nat) : OpenState :=
  match o.last with
  | some r => ⟨⟨r, next⟩ :: o.edges, none⟩
  | none => o

/-- Finishes states, each of which is the last way on of the one before: the number of the first,
which is that of the target if there is none. -/
def finishAll (target : Nat) : List OpenState → Sharing → Except Defect (Nat × Sharing)
  | [], s => .ok (target, s)
  | o :: deeper, s => do
    let (next, s) ← finishAll target deeper s
    s.forwardState (o.finish next).edges.reverse

/-- Adds a run to open states, from the first on. States that agree with the run go on; behind the
first that does not all are finished, and the run opens new ones. -/
def addRun (target : Nat) : List OpenState → List ByteRange → Sharing →
    Except Defect (List OpenState × Sharing)
  | o :: deeper, r :: rs, s =>
    if o.last = some r then do
      let (deeper, s) ← addRun target deeper rs s
      return (o :: deeper, s)
    else do
      let (next, s) ← finishAll target deeper s
      let fresh := rs.map fun r => (⟨[], some r⟩ : OpenState)
      return ({ o.finish next with last := some r } :: fresh, s)
  | _, rs, s => .ok (rs.map fun r => ⟨[], some r⟩, s)

def addRuns (target : Nat) : List (List ByteRange) → List OpenState → Sharing →
    Except Defect (List OpenState × Sharing)
  | [], open_, s => .ok (open_, s)
  | run :: rest, open_, s => do
    let (open_, s) ← addRun target open_ run s
    addRuns target rest open_ s

/-- The class of a forward machine: one state where all its bytes lead, and those on the way. -/
def forwardClass (runs : List (List ByteRange)) (l : Layout) : Except Defect Part := do
  let target := l.states
  let l ← l.add 1 0
  let (open_, s) ← addRuns target runs [⟨[], none⟩] ⟨l, ∅⟩
  let (_, s) ← finishAll target open_ s
  return (false, s.layout)

def backwardRun (next : Nat) : List ByteRange → Sharing → Except Defect Sharing
  | [], s => do return { s with layout := ← s.layout.take linkMemory }
  | r :: rs, s => do
    let (next, s) ← s.backwardState r next
    backwardRun next rs s

def backwardRuns (target : Nat) : List (List ByteRange) → Sharing → Except Defect Sharing
  | [], s => .ok s
  | run :: rest, s => do backwardRuns target rest (← backwardRun target run s)

/-- The class of a backward machine: a state with a link for each run, one where all bytes lead,
and those on the way. -/
def backwardClass (runs : List (List ByteRange)) (l : Layout) : Except Defect Part := do
  let target := l.states + 1
  let l ← l.add 2 0
  let s ← backwardRuns target runs ⟨l, ∅⟩
  return (false, s.layout)

/-- A class. Within ASCII it takes one state and one where all its bytes lead. -/
def classLayout (d : Direction) (s : CharSet) (l : Layout) : Except Defect Part :=
  if s.isAscii then do return (false, ← l.add 2 (s.length * rangeMemory))
  else
    match d with
    | .forward => forwardClass (setRuns s) l
    | .backward => backwardClass (setRuns s) l

/-! ## Choices between texts -/

/-- The texts of a choice, with common beginnings together. Texts that end at a place part those
added before from those added after, which are kept apart; the last part is open. -/
inductive Trie where
  | node (closed : List (List (Nat × Trie))) (last : List (Nat × Trie))
deriving Inhabited

namespace Trie

def leaf : Trie := .node [] []

def isLeaf : Trie → Bool
  | .node closed last => closed.all List.isEmpty && last.isEmpty

def insert : List Nat → Trie → Trie
  | [], .node closed last =>
    if last.isEmpty ∧ closed ≠ [] ∧ closed.all List.isEmpty then .node closed last
    else .node (closed ++ [last]) []
  | b :: bs, .node closed last =>
    match last.find? fun e => e.1 = b with
    | some (_, next) =>
      .node closed (last.map fun e => if e.1 = b then (b, insert bs next) else e)
    | none => .node closed (last ++ [(b, insert bs leaf)])

mutual

/-- The states of the texts from a place on and the memory of their ways on: one state with a link
to each part and to the end of each text that ends here, and those of the parts. -/
def need : Trie → Nat × Nat
  | .node closed last =>
    let (n, m) := needOfParts closed
    let (n', m') := needOfPart last
    let parts := ((closed ++ [last]).filter fun p => !p.isEmpty).length
    (n + n' + 1, m + m' + (parts + closed.length) * linkMemory)

def needOfParts : List (List (Nat × Trie)) → Nat × Nat
  | [] => (0, 0)
  | p :: rest =>
    let (n, m) := needOfPart p
    let (n', m') := needOfParts rest
    (n + n', m + m')

/-- The need of a part: one state, if it has any way on, and those behind it. -/
def needOfPart : List (Nat × Trie) → Nat × Nat
  | [] => (0, 0)
  | [e] =>
    let (n, m) := needOfEntry e
    (n + 1, m)
  | e :: e' :: rest =>
    let (n, m) := needOfEntry e
    let (n', m') := needOfEntries (e' :: rest)
    (n + n' + 1, m + m' + (rest.length + 2) * rangeMemory)

def needOfEntries : List (Nat × Trie) → Nat × Nat
  | [] => (0, 0)
  | e :: rest =>
    let (n, m) := needOfEntry e
    let (n', m') := needOfEntries rest
    (n + n', m + m')

/-- The need behind a way on; the end of a text needs nothing. -/
def needOfEntry : Nat × Trie → Nat × Nat
  | (_, t) => if t.isLeaf then (0, 0) else t.need

end

end Trie

def textBytes (d : Direction) (cs : List Char) : List Nat :=
  let bytes := cs.flatMap fun c => encode c.toNat
  match d with
  | .forward => bytes
  | .backward => bytes.reverse

def textsLayout (d : Direction) (texts : List (List Char)) (l : Layout) : Except Defect Part := do
  let (n, m) := (texts.foldl (fun t cs => t.insert (textBytes d cs)) Trie.leaf).need
  return (false, ← l.add (n + 1) m)

/-! ## Repetitions, sequences and choices -/

/-- `n` more copies of a part in a row; the flag tells whether the state before may have several
links. -/
def copies (part : Layout → Except Defect Part) : Nat → Bool → Layout → Except Defect Part
  | 0, several, l => .ok (several, l)
  | n + 1, several, l => do
    let (next, l) ← part l
    copies part n next (← l.linkFrom several)

/-- `n` copies of a part in a row; none of them is an empty state. -/
def exactly (part : Layout → Except Defect Part) (n : Nat) (l : Layout) : Except Defect Part :=
  match n with
  | 0 => do return (false, ← l.add 1 0)
  | n + 1 => do
    let (several, l) ← part l
    copies part n several l

/-- `n` more copies of a part in a row, each of which may be left out with all after it. -/
def options (part : Layout → Except Defect Part) : Nat → Bool → Layout → Except Defect Part
  | 0, several, l => .ok (several, l)
  | n + 1, several, l => do
    let (next, l) ← part (← l.add 1 0)
    options part n next (← (← l.linkFrom several).take (2 * linkMemory))

def optional (part : Layout → Except Defect Part) (l : Layout) : Except Defect Part := do
  let (several, l) ← part (← l.add 1 0)
  return (false, ← (← l.add 1 (2 * linkMemory)).linkFrom several)

/-- Any number of copies of a part. A part that may take no text is one copy or more, left out or
not; another one is a loop. -/
def anyNumber (part : Layout → Except Defect Part) (takesText : Bool) (l : Layout) :
    Except Defect Part := do
  if takesText then
    let (several, l) ← part (← l.add 1 0)
    return (true, ← (← l.take linkMemory).linkFrom several)
  else
    let (several, l) ← part l
    return (false, ← (← l.add 3 (4 * linkMemory)).linkFrom several)

def atLeast (part : Layout → Except Defect Part) (n : Nat) (l : Layout) : Except Defect Part := do
  let (several, l) ← match n with
    | 0 => part l
    | n => do
      let (before, l) ← exactly part n l
      let (several, l) ← part l
      pure (several, ← l.linkFrom before)
  return (true, ← (← l.add 1 linkMemory).linkFrom several)

def between (part : Layout → Except Defect Part) (least most : Nat) (l : Layout) :
    Except Defect Part := do
  let (several, l) ← exactly part least l
  if most = least then return (several, l)
  else
    let (several, l) ← options part (most - least) several (← l.add 1 0)
    return (false, ← l.linkFrom several)

/-- The texts of a choice, if all its choices are texts. -/
def choiceTexts? (choices : List Regex) : Option (List (List Char)) :=
  choices.mapM fun
    | .text cs => some cs
    | _ => none

namespace Regex

mutual

def layout (d : Direction) : Regex → Layout → Except Defect Part
  | .empty, l => do return (false, ← l.add 1 0)
  | .text cs, l => do return (false, ← l.add (textBytes d cs).length 0)
  | .chars s, l => classLayout d s l
  | .anchor _, l => do return (false, ← l.add 1 0)
  | .times body least most _, l =>
    match least, most with
    | 0, some 1 => optional (fun l => body.layout d l) l
    | 0, none =>
      anyNumber (fun l => body.layout d l) (body.least?.any fun n => 0 < n) l
    | n + 1, none => atLeast (fun l => body.layout d l) n l
    | least, some most => between (fun l => body.layout d l) least most l
  | .group _ body, l =>
    match d with
    | .forward => do
      let (several, l) ← body.layout d (← l.add 1 0)
      return (false, ← (← l.add 1 0).linkFrom several)
    | .backward => body.layout d l
  | .cat parts, l =>
    match d with
    | .forward => sequenceLayout d parts l
    | .backward => reversedLayout d parts l
  | .alt choices, l =>
    match choiceTexts? choices with
    | some texts => textsLayout d texts l
    | none => do return (false, ← choicesLayout d 0 choices l)

def sequenceLayout (d : Direction) : List Regex → Layout → Except Defect Part
  | [], l => do return (false, ← l.add 1 0)
  | [r], l => r.layout d l
  | r :: rest, l => do
    let (several, l) ← r.layout d l
    sequenceLayout d rest (← l.linkFrom several)

/-- Parts in a row, the last one first. -/
def reversedLayout (d : Direction) : List Regex → Layout → Except Defect Part
  | [], l => do return (false, ← l.add 1 0)
  | [r], l => r.layout d l
  | r :: rest, l => do
    let (several, l) ← reversedLayout d rest l
    r.layout d (← l.linkFrom several)

/-- Choices, with the links to and from each. The states where they part and meet stand behind the
second choice; `n` choices have been laid out already. -/
def choicesLayout (d : Direction) (n : Nat) : List Regex → Layout → Except Defect Layout
  | [], l => .ok l
  | r :: rest, l => do
    let (several, l) ← r.layout d l
    let l ← l.add (if n = 1 then 2 else 0) linkMemory
    choicesLayout d (n + 1) rest (← l.linkFrom several)

end

/-- The whole machine of a pattern. In front stands a loop over all bytes, unless a match must be
at the start of what the machine reads; at the end stands the state that accepts. -/
def wholeLayout (d : Direction) (r : Regex) : Except Defect Layout := do
  let anchored := match d with
    | .forward => r.starts .textStart
    | .backward => r.ends .textEnd
  let l : Layout := ⟨0, 0⟩
  let l ← if anchored then l.add 1 0 else l.add 3 (rangeMemory + 2 * linkMemory)
  -- the whole match is a group of its own
  let (several, l) ← Regex.layout d (.group 0 r) l
  (← l.add 1 0).linkFrom several

def checkSize (r : Regex) : Except Defect Unit := do
  let _ ← r.wholeLayout .forward
  let _ ← r.wholeLayout .backward

end Regex

end DocGuard.Pattern
