import DocGuard.Function.Call
import DocGuard.Store.Collection

/-!
# Change streams

A stream reads the history of a collection from the place at which it was opened. Only the last
1024 changes are held for it: a reader that is further behind is told how many changes it missed
and goes on with the oldest one held.
-/

namespace DocGuard

/-- How many changes are held for readers. -/
def heldChanges : Nat := 1024

/-- A reader of changes: the filters that changes have to satisfy, and how many changes of the
history lie behind it. -/
structure ChangeStream where
  filters : List Document
  position : Nat

/-- What reading a stream gave: the function calls that it took, the changes and faults in order,
and how many changes it used up. -/
structure Reading where
  calls : List Call
  items : List (Except Fault Change)
  used : Nat

def Reading.nothing : Reading :=
  ⟨[], [], 0⟩

def Reading.withItem (item : Except Fault Change) (r : Reading) : Reading :=
  { r with items := item :: r.items }

def Reading.after (calls : List Call) (r : Reading) : Reading :=
  { r with calls := calls ++ r.calls, used := r.used + 1 }

/-- Whether there is room for another item; without a limit there always is. -/
def hasRoom (room : Option Nat) : Bool :=
  room ≠ some 0

def lessRoom (room : Option Nat) : Option Nat :=
  room.map fun n => n - 1

namespace ChangeStream

/-- The filters that the stages of a stream stand for; no other stages can filter changes. -/
def readFilters : List Document → Except Fault (List Document)
  | [] => .ok []
  | [("$match", .doc filter)] :: rest => do return filter :: (← readFilters rest)
  | _ :: _ => .error (.store .streamStage)

def subscribe (c : Collection) (pipeline : List Document) : Except Fault ChangeStream := do
  return ⟨← readFilters pipeline, c.history.length⟩

def passes (d : Document) : List Document → Except Fault Bool
  | [] => .ok true
  | filter :: rest => do
    if ← matchesFilter d filter then passes d rest else return false

/-- What becomes of a change on its way to a reader: those that the filters leave are reviewed,
and the review may change a change or drop it. -/
def deliver (filters : List Document) (review : Change → Traced (Option Change))
    (change : Change) : Traced (Option Change) := do
  if ← passes change.toDocument filters then review change else return none

/-- Reads changes until there is no more room for items or no change is left. -/
def readFrom (filters : List Document) (review : Change → Traced (Option Change)) :
    Option Nat → List Change → Reading
  | _, [] => .nothing
  | room, change :: rest =>
    if hasRoom room then
      let found := deliver filters review change
      match found.result with
      | .ok none => (readFrom filters review room rest).after found.calls
      | .ok (some seen) =>
        ((readFrom filters review (lessRoom room) rest).withItem (.ok seen)).after found.calls
      | .error e =>
        ((readFrom filters review (lessRoom room) rest).withItem (.error e)).after found.calls
    else .nothing

/-- How many changes a reader has missed for good. -/
def missed (s : ChangeStream) (c : Collection) : Nat :=
  c.history.length - heldChanges - s.position

/-- Reads what is ready, as far as there is room, and moves the stream on. -/
def drain (s : ChangeStream) (c : Collection) (review : Change → Traced (Option Change))
    (room : Option Nat) : Reading × ChangeStream :=
  if s.missed c = 0 then
    let reading := readFrom s.filters review room (c.history.drop s.position)
    (reading, { s with position := s.position + reading.used })
  else if hasRoom room then
    -- the report of what was missed takes up room for one item
    let start := c.history.length - heldChanges
    let reading := readFrom s.filters review (lessRoom room) (c.history.drop start)
    (reading.withItem (.error (.store (.lagged (s.missed c)))),
      { s with position := start + reading.used })
  else (.nothing, s)

end ChangeStream

end DocGuard
