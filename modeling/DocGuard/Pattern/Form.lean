import DocGuard.Character.Set

/-!
# The written form of patterns

The tree of a pattern as it is written. What its parts match depends on flags, which the pattern
may change as it goes; `Meaning` works that out. Characters remember how they were written, for a
character written as a byte must be one under the narrow flag.
-/

namespace DocGuard.Pattern

inductive Defect where
  | unclosedGroup
  | unopenedGroup
  | unclosedClass
  | unclosedCount
  | missingSubject
  | badCount
  | badRange
  | badEscape
  | badProperty
  | badFlags
  | badGroupName
  | repeatedGroupName
  | reference
  | lookAround
  | tooDeep
  | brokenCharacter
  | tooLarge
deriving DecidableEq, Repr

def Defect.message : Defect → String
  | unclosedGroup => "a group is not closed"
  | unopenedGroup => "a group is closed that was not opened"
  | unclosedClass => "a class is not closed"
  | unclosedCount => "a count is not closed"
  | missingSubject => "there is nothing to repeat"
  | badCount => "a count is not valid"
  | badRange => "a range is not valid"
  | badEscape => "an escape is not known"
  | badProperty => "a property is not known"
  | badFlags => "flags are not valid"
  | badGroupName => "a group name is not valid"
  | repeatedGroupName => "a group name is used twice"
  | reference => "references to groups are not supported"
  | lookAround => "look-around is not supported"
  | tooDeep => "the pattern is nested too deeply"
  | brokenCharacter => "the pattern can match a part of a character"
  | tooLarge => "the pattern is too large"

inductive Flag where
  | ignoreCase
  | multiLine
  | dotAll
  | verbose
  /-- Properties and case are those of all characters, not those of ASCII alone. -/
  | wide
  /-- A carriage return counts as the end of a line too. -/
  | crlf
  /-- Repetitions are lazy unless they are marked. -/
  | swapped
deriving DecidableEq, Repr

abbrev FlagChange := List (Flag × Bool)

inductive Assertion where
  | lineStart
  | lineEnd
  | textStart
  | textEnd
  | wordEdge
  | noWordEdge
  | wordStart
  | wordEnd
  | beforeWord
  | afterWord
deriving DecidableEq, Repr

inductive Shorthand where
  | digit
  | space
  | word
deriving DecidableEq, Repr

/-- A character in a pattern, and whether it was written as a byte. -/
structure Letter where
  char : Char
  asByte : Bool
deriving DecidableEq, Repr

inductive SetOperation where
  | inter
  | diff
  | symmDiff
deriving DecidableEq, Repr

inductive Members where
  | none
  | letter (l : Letter)
  | range (first last : Letter)
  | fixed (negated : Bool) (set : CharSet)
  | property (negated : Bool) (set : CharSet)
  | shorthand (negated : Bool) (s : Shorthand)
  | bracketed (negated : Bool) (body : Members)
  | every (items : List Members)
  | combined (op : SetOperation) (left right : Members)

inductive Form where
  | empty
  | change (flags : FlagChange)
  | letter (l : Letter)
  | dot
  | assertion (a : Assertion)
  | shorthand (negated : Bool) (s : Shorthand)
  | property (negated : Bool) (set : CharSet)
  | bracketed (negated : Bool) (body : Members)
  | times (body : Form) (least : Nat) (most : Option Nat) (isLazy : Bool)
  /-- A group with the flags that hold within it; groups that capture text are numbered. -/
  | group (index : Option Nat) (flags : FlagChange) (body : Form)
  | cat (parts : List Form)
  | alt (choices : List Form)

/-- A part of a pattern with the depth to which its parts are nested. -/
structure Measured (α : Type) where
  part : α
  depth : Nat

def maxDepth : Nat := 250

/-- A part around others of a given depth; a pattern that is nested too deeply is refused. -/
def wrap {α : Type} (depth : Nat) (part : α) : Except Defect (Measured α) :=
  if depth < maxDepth then .ok ⟨part, depth + 1⟩ else .error .tooDeep

def greatestDepth {α : Type} (parts : List (Measured α)) : Nat :=
  parts.foldl (fun d p => max d p.depth) 0

end DocGuard.Pattern
