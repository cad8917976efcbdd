import DocGuard.Character.Derived
import DocGuard.Pattern.Form
import DocGuard.Pattern.Regex

/-!
# The meaning of written patterns

Flags decide what the elements of a pattern match. They hold from where they are set to the end of
the group around, across the bars of a choice. Under the narrow flag classes are sets of bytes:
one that reaches beyond ASCII could match a part of a character, and such patterns are refused.
-/

namespace DocGuard.Pattern

structure Flags where
  ignoreCase : Bool
  multiLine : Bool
  dotAll : Bool
  verbose : Bool
  ascii : Bool
  crlf : Bool
  swapped : Bool
deriving DecidableEq, Repr

namespace Flags

def change (f : Flags) : Flag × Bool → Flags
  | (.ignoreCase, on) => { f with ignoreCase := on }
  | (.multiLine, on) => { f with multiLine := on }
  | (.dotAll, on) => { f with dotAll := on }
  | (.verbose, on) => { f with verbose := on }
  | (.wide, on) => { f with ascii := !on }
  | (.crlf, on) => { f with crlf := on }
  | (.swapped, on) => { f with swapped := on }

def changes (f : Flags) (cs : FlagChange) : Flags :=
  cs.foldl change f

def anchor (f : Flags) : Assertion → Anchor
  | .lineStart => if f.multiLine then .lineStart f.crlf else .textStart
  | .lineEnd => if f.multiLine then .lineEnd f.crlf else .textEnd
  | .textStart => .textStart
  | .textEnd => .textEnd
  | .wordEdge => .wordEdge f.ascii
  | .noWordEdge => .noWordEdge f.ascii
  | .wordStart => .wordStart f.ascii
  | .wordEnd => .wordEnd f.ascii
  | .beforeWord => .beforeWord f.ascii
  | .afterWord => .afterWord f.ascii

/-- A set with all characters alike its own, if case does not matter. -/
def fold (f : Flags) (s : CharSet) : CharSet :=
  if f.ignoreCase then if f.ascii then s.foldAsciiCase else s.foldCase else s

/-- A set, or all other characters. Under the narrow flag the others include bytes beyond ASCII. -/
def turn (f : Flags) (negated : Bool) (s : CharSet) : Except Defect CharSet :=
  if f.ascii then if negated then .error .brokenCharacter else .ok s
  else .ok (if negated then s.complement else s)

def shorthand (f : Flags) : Shorthand → CharSet
  | .digit => if f.ascii then [(0x30, 0x39)] else Category.decimalNumber.members
  | .space => if f.ascii then [(0x09, 0x0D), (0x20, 0x20)] else Trait.whiteSpace.members
  | .word =>
    if f.ascii then [(0x30, 0x39), (0x41, 0x5A), (0x5F, 0x5F), (0x61, 0x7A)] else Trait.word.members

def dot (f : Flags) : Except Defect CharSet :=
  if f.ascii then .error .brokenCharacter
  else if f.dotAll then .ok .any
  else .ok (CharSet.complement (if f.crlf then [(0x0A, 0x0A), (0x0D, 0x0D)] else [(0x0A, 0x0A)]))

/-- The set of a property; there is none under the narrow flag. -/
def property (f : Flags) (negated : Bool) (s : CharSet) : Except Defect CharSet :=
  if f.ascii then .error .badProperty else f.turn negated (f.fold s)

def letter (f : Flags) (l : Letter) : Except Defect Regex :=
  if f.ascii ∧ l.asByte ∧ 0x7F < l.char.toNat then .error .brokenCharacter
  else .ok (.ofSet (f.fold (CharSet.single l.char.toNat)))

def code (f : Flags) (l : Letter) : Except Defect Nat :=
  if f.ascii ∧ 0x7F < l.char.toNat then .error .brokenCharacter else .ok l.char.toNat

end Flags

def SetOperation.apply : SetOperation → CharSet → CharSet → CharSet
  | inter, s, t => s.inter t
  | diff, s, t => s.diff t
  | symmDiff, s, t => s.symmDiff t

mutual

/-- The set of what a class lists. Case is left to the class around, but for operations and named
classes, whose result depends on it. -/
def Members.set (f : Flags) : Members → Except Defect CharSet
  | .none => .ok []
  | .letter l => do return CharSet.single (← f.code l)
  | .range a b => do return CharSet.between (← f.code a) (← f.code b)
  | .fixed negated s => f.turn negated (f.fold s)
  | .property negated s => f.property negated s
  | .shorthand negated s => f.turn negated (f.shorthand s)
  | .bracketed negated body => do f.turn negated (f.fold (← body.set f))
  | .every items => do return CharSet.normal (← Members.sets f items)
  | .combined op left right => do
    return op.apply (f.fold (← left.set f)) (f.fold (← right.set f))

def Members.sets (f : Flags) : List Members → Except Defect CharSet
  | [] => .ok []
  | m :: rest => do return (← m.set f) ++ (← Members.sets f rest)

end

mutual

/-- What a written pattern matches under flags, and the flags in force behind it. -/
def Form.regex : Form → Flags → Except Defect (Regex × Flags)
  | .empty, f => .ok (.empty, f)
  | .change cs, f => .ok (.empty, f.changes cs)
  | .letter l, f => do return (← f.letter l, f)
  | .dot, f => do return (.ofSet (← f.dot), f)
  | .assertion a, f => .ok (.anchor (f.anchor a), f)
  | .shorthand negated s, f => do return (.ofSet (← f.turn negated (f.shorthand s)), f)
  | .property negated s, f => do return (.ofSet (← f.property negated s), f)
  | .bracketed negated body, f => do
    return (.ofSet (← f.turn negated (f.fold (← body.set f)).normal), f)
  | .times body least most isLazy, f => do
    let (r, f) ← body.regex f
    return (r.repeated least most (isLazy != f.swapped), f)
  | .group index cs body, f => do
    let (r, _) ← body.regex (f.changes cs)
    match index with
    | some n => return (.group n r, f)
    | none => return (r, f)
  | .cat parts, f => do
    let (rs, f) ← Form.regexes parts f
    return (.sequence rs, f)
  | .alt choices, f => do
    let (rs, f) ← Form.regexes choices f
    return (.choice rs, f)

/-- What several parts match, the flags going from one to the next. -/
def Form.regexes : List Form → Flags → Except Defect (List Regex × Flags)
  | [], f => .ok ([], f)
  | p :: rest, f => do
    let (r, f) ← p.regex f
    let (rs, f) ← Form.regexes rest f
    return (r :: rs, f)

end

end DocGuard.Pattern
