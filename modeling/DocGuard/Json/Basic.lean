import DocGuard.Decimal.Notation

/-!
# JSON

JSON values with the members of objects in the order in which they are written, repeated names
included. A text may be well-formed and still hold a number or a text that cannot be represented:
that place is `unreadable`, and only readers that skip it accept it.
-/

namespace DocGuard

/-- A number of JSON: whole numbers from `-2^63` below `2^64` are kept exactly, and all others are
doubles. -/
inductive JsonNumber where
  | whole (n : Int)
  | float (x : Float)

inductive Json where
  | null
  | bool (b : Bool)
  | number (n : JsonNumber)
  | text (s : String)
  | array (items : List Json)
  | object (members : List (String × Json))
  | unreadable

namespace Json

def int (n : Int) : Json :=
  .number (.whole n)

mutual

/-- How many arrays and objects are nested at most, counting this value. -/
def height : Json → Nat
  | .array items => heightItems items + 1
  | .object members => heightMembers members + 1
  | _ => 0

def heightItems : List Json → Nat
  | [] => 0
  | j :: rest => max (height j) (heightItems rest)

def heightMembers : List (String × Json) → Nat
  | [] => 0
  | (_, j) :: rest => max (height j) (heightMembers rest)

end

mutual

/-- Whether nothing in a value is unreadable. -/
def isReadable : Json → Bool
  | .unreadable => false
  | .array items => readableItems items
  | .object members => readableMembers members
  | _ => true

def readableItems : List Json → Bool
  | [] => true
  | j :: rest => isReadable j && readableItems rest

def readableMembers : List (String × Json) → Bool
  | [] => true
  | (_, j) :: rest => isReadable j && readableMembers rest

end

/-- The value of the first member with a name. -/
def member? : List (String × Json) → String → Option Json
  | [], _ => none
  | (k, j) :: rest, name => if k = name then some j else member? rest name

/-- Sets the member with a name: in its place if it is there already, else at the end. -/
def setMember : List (String × Json) → String → Json → List (String × Json)
  | [], name, j => [(name, j)]
  | (k, i) :: rest, name, j =>
    if k = name then (k, j) :: rest else (k, i) :: setMember rest name j

mutual

/-- A value in which each object has every name once, with the last value given to it. -/
def merged : Json → Json
  | .array items => .array (mergedItems items)
  | .object members => .object (mergedMembers [] members)
  | j => j

def mergedItems : List Json → List Json
  | [] => []
  | j :: rest => merged j :: mergedItems rest

def mergedMembers (sofar : List (String × Json)) : List (String × Json) → List (String × Json)
  | [] => sofar
  | (k, j) :: rest => mergedMembers (setMember sofar k (merged j)) rest

end

end Json

end DocGuard
