import DocGuard.Document.Value
import DocGuard.Text.Split
import DocGuard.Text.Digits

/-!
# Paths into documents

A path is a list of segments joined by points. Reading takes a name that equals the whole path
first, then walks the segments through documents and, by position, through arrays. Writing and
removing walk documents alone.
-/

namespace DocGuard

open DocGuard.Text

/-- The segments of a path: the pieces between its points, at least one. -/
def segments (path : String) : List String :=
  (splitAt '.' path.toList).map String.ofList

theorem segments_ne_nil (path : String) : segments path ≠ [] := by
  simp [segments, splitAt_ne_nil]

/-- The position that a segment names in an array: decimal digits, a plus in front allowed, below
`2^64`. -/
def position? (segment : String) : Option Nat :=
  let digits := match segment.toList with
    | '+' :: cs => cs
    | cs => cs
  (readNat? digits).bind fun n => if n < Nat.pow 2 64 then some n else none

def Value.walk : List String → Value → Option Value
  | [], v => some v
  | s :: rest, .doc d => (Document.get? d s).bind (Value.walk rest)
  | s :: rest, .array items => (position? s).bind fun i => (items[i]?).bind (Value.walk rest)
  | _ :: _, _ => none

namespace Document

def walk (d : Document) : List String → Option Value
  | [] => none
  | s :: rest => (d.get? s).bind (Value.walk rest)

/-- The value at a path. A name that equals the whole path wins over the walk, so that names which
hold points are found. -/
def getPath (d : Document) (path : String) : Option Value :=
  match d.get? path with
  | some v => some v
  | none => d.walk (segments path)

/-- The document under a name, empty where there is none. -/
def childAt (d : Document) (key : String) : Document :=
  match d.get? key with
  | some (.doc child) => child
  | _ => []

/-- Sets the value at a walk, making the documents on the way where there are none. -/
def setWalk : Document → List String → Value → Document
  | d, [], _ => d
  | d, [s], v => d.insert s v
  | d, s :: t :: rest, v => d.insert s (.doc (setWalk (d.childAt s) (t :: rest) v))

def setPath (d : Document) (path : String) (v : Value) : Document :=
  d.setWalk (segments path) v

/-- Removes the value at a walk, if the walk leads through documents. -/
def removeWalk : Document → List String → Document
  | d, [] => d
  | d, [s] => d.erase s
  | d, s :: t :: rest =>
    match d.get? s with
    | some (.doc child) => d.insert s (.doc (removeWalk child (t :: rest)))
    | _ => d

def removePath (d : Document) (path : String) : Document :=
  d.removeWalk (segments path)

end Document

end DocGuard
