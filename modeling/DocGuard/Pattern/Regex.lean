import DocGuard.Character.Set

/-!
# Patterns

The tree of a pattern with all flags worked out. The functions that build it keep it in a normal
form: neighbouring characters of a sequence are one text, a class of one character is a text, a
choice between single characters is a class, and what all choices begin with stands in front of
them. The normal form matters for the size of a pattern.
-/

namespace DocGuard.Pattern

inductive Anchor where
  | textStart
  | textEnd
  /-- The start of a line; carriage returns may count as ends of lines too. -/
  | lineStart (crlf : Bool)
  | lineEnd (crlf : Bool)
  | wordEdge (ascii : Bool)
  | noWordEdge (ascii : Bool)
  | wordStart (ascii : Bool)
  | wordEnd (ascii : Bool)
  | beforeWord (ascii : Bool)
  | afterWord (ascii : Bool)
deriving DecidableEq, Repr

inductive Regex where
  | empty
  | text (cs : List Char)
  | chars (set : CharSet)
  | anchor (a : Anchor)
  | times (body : Regex) (least : Nat) (most : Option Nat) (isLazy : Bool)
  | group (index : Nat) (body : Regex)
  | cat (parts : List Regex)
  | alt (choices : List Regex)
deriving Inhabited

def encodedLength (n : Nat) : Nat :=
  if n < 0x80 then 1 else if n < 0x800 then 2 else if n < 0x10000 then 3 else 4

namespace Regex

def never : Regex := .chars []

mutual

def same : Regex → Regex → Bool
  | .empty, .empty => true
  | .text a, .text b => a == b
  | .chars s, .chars t => s == t
  | .anchor a, .anchor b => a == b
  | .times a l m z, .times b l' m' z' => l == l' && m == m' && z == z' && same a b
  | .group i a, .group j b => i == j && same a b
  | .cat as, .cat bs => sameAll as bs
  | .alt as, .alt bs => sameAll as bs
  | _, _ => false

def sameAll : List Regex → List Regex → Bool
  | [], [] => true
  | a :: as, b :: bs => same a b && sameAll as bs
  | _, _ => false

end

mutual

/-- The least number of bytes that a match takes; there is none if nothing matches. -/
def least? : Regex → Option Nat
  | .empty => some 0
  | .text cs => some (cs.map Char.utf8Size).sum
  | .chars s => s.head?.map fun r => encodedLength r.1
  | .anchor _ => some 0
  | .times body least _ _ => body.least?.map (· * least)
  | .group _ body => body.least?
  | .cat parts => leastSum? parts
  | .alt choices => leastOf? choices

def leastSum? : List Regex → Option Nat
  | [] => some 0
  | r :: rest => do return (← r.least?) + (← leastSum? rest)

/-- The least over the choices; there is none if one of them has none. -/
def leastOf? : List Regex → Option Nat
  | [] => none
  | [r] => r.least?
  | r :: rest => do return min (← r.least?) (← leastOf? rest)

end

mutual

/-- Whether a match takes no bytes whatever it is. -/
def isEmpty : Regex → Bool
  | .empty => true
  | .text cs => cs.isEmpty
  | .chars _ => false
  | .anchor _ => true
  | .times body _ most _ => most.isSome && body.isEmpty
  | .group _ body => body.isEmpty
  | .cat parts => areEmpty parts
  | .alt choices => areEmpty choices

def areEmpty : List Regex → Bool
  | [] => true
  | r :: rest => r.isEmpty && areEmpty rest

end

mutual

/-- Whether every match is at a given place because an anchor says so before any text. -/
def starts (a : Anchor) : Regex → Bool
  | .anchor b => a == b
  | .times body least _ _ => 0 < least && body.starts a
  | .group _ body => body.starts a
  | .cat parts => someStarts a parts
  | .alt choices => allStart a choices
  | _ => false

def someStarts (a : Anchor) : List Regex → Bool
  | [] => false
  | r :: rest => r.starts a || (r.isEmpty && someStarts a rest)

def allStart (a : Anchor) : List Regex → Bool
  | [] => true
  | r :: rest => r.starts a && allStart a rest

end

mutual

/-- Whether every match ends at a given place because an anchor says so behind all text. -/
def ends (a : Anchor) : Regex → Bool
  | .anchor b => a == b
  | .times body least _ _ => 0 < least && body.ends a
  | .group _ body => body.ends a
  | .cat parts => someEnds a parts
  | .alt choices => allEnd a choices
  | _ => false

def someEnds (a : Anchor) : List Regex → Bool
  | [] => false
  | r :: rest => (r.ends a && areEmpty rest) || someEnds a rest

def allEnd (a : Anchor) : List Regex → Bool
  | [] => true
  | r :: rest => r.ends a && allEnd a rest

end

mutual

def nodes : Regex → Nat
  | .times body _ _ _ => body.nodes + 1
  | .group _ body => body.nodes + 1
  | .cat parts => nodesOfList parts + 1
  | .alt choices => nodesOfList choices + 1
  | _ => 1

def nodesOfList : List Regex → Nat
  | [] => 0
  | r :: rest => r.nodes + nodesOfList rest

end

/-- A character of a set, as a text if it is the only one. -/
def ofSet (s : CharSet) : Regex :=
  match s with
  | [(a, b)] => if a = b then .text [Char.ofNat a] else .chars s
  | s => .chars s

/-- A pattern repeated. A pattern that takes no text is matched once at most. -/
def repeated (body : Regex) (least : Nat) (most : Option Nat) (isLazy : Bool) : Regex :=
  let (least, most) :=
    if body.isEmpty then (min least 1, some (min (most.getD 1) 1)) else (least, most)
  if least = 0 ∧ most = some 0 then .empty
  else if least = 1 ∧ most = some 1 then body
  else .times body least most isLazy

def sequenceParts : Regex → List Regex
  | .empty => []
  | .cat parts => parts
  | r => [r]

/-- Neighbouring texts put together. -/
def joinTexts : List Regex → List Regex
  | [] => []
  | .text a :: rest =>
    match joinTexts rest with
    | .text b :: more => .text (a ++ b) :: more
    | more => .text a :: more
  | r :: rest => r :: joinTexts rest

def sequence (parts : List Regex) : Regex :=
  match joinTexts (parts.flatMap sequenceParts) with
  | [] => .empty
  | [r] => r
  | rs => .cat rs

def choiceParts : Regex → List Regex
  | .alt choices => choices
  | r => [r]

def singleChar? : Regex → Option Nat
  | .text [c] => some c.toNat
  | _ => none

def charSet? : Regex → Option CharSet
  | .chars s => some s
  | _ => none

def catParts? : Regex → Option (List Regex)
  | .cat parts => some parts
  | _ => none

def commonLength : List Regex → List Regex → Nat
  | a :: as, b :: bs => if same a b then commonLength as bs + 1 else 0
  | _, _ => 0

/-- How many parts all choices have in common at their fronts, if all are sequences. -/
def commonFront (choices : List Regex) : Nat :=
  match choices.mapM catParts? with
  | some (first :: rest) =>
    rest.foldl (fun n parts => min n (commonLength first parts)) first.length
  | _ => 0

/-- A choice between patterns. What all choices begin with is taken out in front, and the rests are
a choice again; every round takes nodes away, so their number bounds the rounds. -/
def choiceWithin : Nat → List Regex → Regex
  | 0, choices => .alt choices
  | fuel + 1, choices =>
    match choices.flatMap choiceParts with
    | [] => never
    | [r] => r
    | rs =>
      match rs.mapM singleChar?, rs.mapM charSet? with
      | some cs, _ => ofSet (CharSet.normal (cs.map fun n => (n, n)))
      | _, some sets => ofSet (CharSet.normal sets.flatten)
      | _, _ =>
        let n := commonFront rs
        if n = 0 then .alt rs
        else
          let rests := rs.map fun r => sequence (((catParts? r).getD []).drop n)
          let front := ((rs.head?.bind catParts?).getD []).take n
          sequence (front ++ [choiceWithin fuel rests])

def choice (choices : List Regex) : Regex :=
  choiceWithin (nodesOfList choices + 1) choices

end Regex

end DocGuard.Pattern
