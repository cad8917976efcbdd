import DocGuard.Character.CaseOrbit
import DocGuard.Text.Digits
import DocGuard.Text.Split

/-!
# Sets of characters

A set of characters is a list of closed ranges of code points. Sets are kept normal: ascending,
with a gap between neighbours. Surrogates are code points but no characters, so the range between
two characters leaves them out.
-/

namespace DocGuard

open DocGuard.Text

/-- A set of characters as closed ranges of code points. -/
abbrev CharSet := List (Nat × Nat)

namespace CharSet

def has (s : CharSet) (n : Nat) : Bool :=
  s.any fun r => r.1 ≤ n && n ≤ r.2

/-- A range with the ascending ranges behind it, overlapping and touching neighbours joined. -/
def join (r : Nat × Nat) : CharSet → CharSet
  | [] => [r]
  | q :: rest => if q.1 ≤ r.2 + 1 then join (r.1, max r.2 q.2) rest else r :: join q rest

/-- Ascending ranges with overlapping and touching neighbours joined. -/
def merge : CharSet → CharSet
  | [] => []
  | r :: rest => join r rest

def normal (s : CharSet) : CharSet :=
  merge (s.mergeSort fun a b => a.1 ≤ b.1)

def single (n : Nat) : CharSet :=
  [(n, n)]

def between (a b : Nat) : CharSet :=
  [(a, min b 0xD7FF), (max a 0xE000, b)].filter fun r => r.1 ≤ r.2

def maxCodePoint : Nat := 0x10FFFF

def any : CharSet := between 0 maxCodePoint

def ascii : CharSet := [(0, 0x7F)]

/-- The code points that a normal set leaves out, from one on. -/
def gaps (start : Nat) : CharSet → CharSet
  | [] => if start ≤ maxCodePoint then [(start, maxCodePoint)] else []
  | (a, b) :: rest => if start < a then (start, a - 1) :: gaps (b + 1) rest else gaps (b + 1) rest

def complement (s : CharSet) : CharSet :=
  (gaps 0 s.normal).flatMap fun r => between r.1 r.2

def union (s t : CharSet) : CharSet :=
  normal (s ++ t)

def inter (s t : CharSet) : CharSet :=
  complement (union (complement s) (complement t))

def diff (s t : CharSet) : CharSet :=
  inter s (complement t)

def symmDiff (s t : CharSet) : CharSet :=
  union (diff s t) (diff t s)

def isAscii (s : CharSet) : Bool :=
  s.all fun r => r.2 ≤ 0x7F

/-- Four hexadecimal numbers of a run of pairs. -/
def readRun? (word : List Char) : Option (List (List Nat)) := do
  match ← (splitAt ':' word).mapM readHex? with
  | [a, d, n, s] => return (List.range n).map fun i => [a + i * s, a + i * s + d]
  | _ => none

def caseOrbits : List (List Nat) :=
  ((splitAt ' ' CaseOrbit.pairRuns.toList).filterMap readRun?).flatten
    ++ (splitAt ' ' CaseOrbit.largerOrbits.toList).filterMap
      fun word => (splitAt ':' word).mapM readHex?

/-- The set together with every character that is alike one of it under case folding. -/
def foldCase (s : CharSet) : CharSet :=
  let extra := caseOrbits.filter fun orbit => orbit.any s.has
  normal (s ++ extra.flatten.map fun n => (n, n))

/-- The set together with the other case of each of its ASCII letters. -/
def foldAsciiCase (s : CharSet) : CharSet :=
  let lower := (inter s [(0x41, 0x5A)]).map fun r => (r.1 + 0x20, r.2 + 0x20)
  let upper := (inter s [(0x61, 0x7A)]).map fun r => (r.1 - 0x20, r.2 - 0x20)
  normal (s ++ lower ++ upper)

example : normal [(5, 6), (0, 9), (1, 2), (11, 12), (10, 10)] = [(0, 12)] := by cbv

example : complement [(0x20, 0xD7FF)] = [(0, 0x1F), (0xE000, 0x10FFFF)] := by decide +kernel

example : foldAsciiCase [(0x59, 0x62)] = [(0x41, 0x42), (0x59, 0x62), (0x79, 0x7A)] := by
  cbv

end CharSet

end DocGuard
