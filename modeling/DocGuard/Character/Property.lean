import DocGuard.Character.Age
import DocGuard.Character.Script
import DocGuard.Character.ScriptSharing
import DocGuard.Character.Segment

/-!
# Properties of characters by name

A property is asked for by one name, which is that of a yes-or-no property, of a category or of a
script, or by the name of a property and of one of its values. Names are compared in a loose form,
without case, blanks and joiners.
-/

namespace DocGuard.Property

open DocGuard.Text

def lowerAscii (c : Char) : Char :=
  if 'A' ≤ c ∧ c ≤ 'Z' then Char.ofNat (c.toNat + 0x20) else c

/-- What follows the word "is" at the front of a name. -/
def afterIs? : List Char → Option (List Char)
  | a :: b :: rest => if lowerAscii a = 'i' ∧ lowerAscii b = 's' then some rest else none
  | _ => none

def plainName (name : List Char) : List Char :=
  (name.filter fun c => c.toNat < 0x80 && c ≠ ' ' && c ≠ '_' && c ≠ '-').map lowerAscii

/-- The loose form of a name: case, blanks and joiners do not count, nor the word "is" in front. -/
def looseName (name : List Char) : String :=
  match afterIs? name with
  | none => String.ofList (plainName name)
  | some rest =>
    let plain := plainName rest
    -- the short name of a comment begins with the same letters and keeps them
    if plain = ['c'] then "isc" else String.ofList plain

def script? (name : String) : Option CharSet :=
  (Script.entries.find? fun e => e.names.contains name).map fun e =>
    (CharRule.listed e.table).members

def gather (tables : List String) : CharSet :=
  CharSet.normal (tables.flatMap CharRule.readTable)

/-- The characters used with a script: those shared with it, and those of the script itself that
are not listed as shared. -/
def scriptUse? (name : String) : Option CharSet := do
  let entry ← Script.entries.find? fun e => e.names.contains name
  let uses (scripts : String) : Bool :=
    (splitAt ' ' scripts.toList).any fun code => entry.names.head? == some (String.ofList code)
  let own := (CharRule.listed entry.table).members.diff (gather (Script.shared.map (·.1)))
  return own.union (gather ((Script.shared.filter fun e => uses e.2).map (·.1)))

def age? (name : String) : Option CharSet :=
  match Age.versions.dropWhile fun v => !v.1.contains name with
  | [] => none
  | later => some (gather ((Age.versions.take (Age.versions.length + 1 - later.length)).map (·.2)))

def ofRules? (name : String) (rules : List (List String × CharRule)) : Option CharSet :=
  (CharRule.find? name rules).map CharRule.members

def byName? (name : List Char) : Option CharSet :=
  let n := looseName name
  (ofRules? n Trait.named).or ((ofRules? n Category.named).or (script? n))

def byValue? (name value : List Char) : Option CharSet :=
  let v := looseName value
  match looseName name with
  | "gc" | "generalcategory" => ofRules? v Category.named
  | "sc" | "script" => script? v
  | "scx" | "scriptextensions" => scriptUse? v
  | "age" => age? v
  | "gcb" | "graphemeclusterbreak" => ofRules? v Segment.Cluster.named
  | "wb" | "wordbreak" => ofRules? v Segment.Word.named
  | "sb" | "sentencebreak" => ofRules? v Segment.Sentence.named
  | _ => none

example : looseName "Is_Greek".toList = "greek" ∧ looseName "isC".toList = "isc" := by
  decide +kernel

end DocGuard.Property
