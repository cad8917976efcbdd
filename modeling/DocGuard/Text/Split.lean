/-!
# Splitting and leading parts of text

Text is cut at single characters and tested for leading parts on its list of characters, where
every function below is a short recursion on the data.
-/

namespace DocGuard.Text

/-- The pieces between the occurrences of `sep`: always one more than there are occurrences. -/
def splitAt (sep : Char) : List Char → List (List Char)
  | [] => [[]]
  | c :: rest =>
    if c = sep then [] :: splitAt sep rest
    else
      match splitAt sep rest with
      | [] => [[c]]
      | piece :: pieces => (c :: piece) :: pieces

theorem splitAt_ne_nil (sep : Char) (cs : List Char) : splitAt sep cs ≠ [] := by
  cases cs with
  | nil => simp [splitAt]
  | cons c rest =>
    unfold splitAt
    split
    · simp
    · split <;> simp

/-- The parts before and after the first occurrence of `sep`, if it occurs. -/
def cutAt (sep : Char) : List Char → Option (List Char × List Char)
  | [] => none
  | c :: rest =>
    if c = sep then some ([], rest)
    else (cutAt sep rest).map fun (head, tail) => (c :: head, tail)

/-- What follows the leading part `lead`, if the text begins with it. -/
def dropLead : List Char → List Char → Option (List Char)
  | [], cs => some cs
  | _ :: _, [] => none
  | l :: lead, c :: cs => if l = c then dropLead lead cs else none

theorem dropLead_eq_some_iff {lead cs rest : List Char} :
    dropLead lead cs = some rest ↔ cs = lead ++ rest := by
  induction lead generalizing cs with
  | nil => simp [dropLead, eq_comm]
  | cons l lead ih =>
    cases cs with
    | nil => simp [dropLead]
    | cons c cs =>
      by_cases h : l = c
      · simp [dropLead, h, ih]
      · simp [dropLead, h, Ne.symm h]

def beginsWith (s lead : String) : Bool :=
  (dropLead lead.toList s.toList).isSome

def afterLead? (s lead : String) : Option String :=
  (dropLead lead.toList s.toList).map String.ofList

theorem afterLead?_append (lead rest : String) : afterLead? (lead ++ rest) lead = some rest := by
  have hrest : dropLead lead.toList (lead ++ rest).toList = some rest.toList :=
    dropLead_eq_some_iff.mpr String.toList_append
  rw [afterLead?, hrest, Option.map_some, String.ofList_toList]

theorem afterLead?_eq_none {s lead : String} (h : beginsWith s lead = false) :
    afterLead? s lead = none := by
  rw [afterLead?, Option.isNone_iff_eq_none.mp (Option.isSome_eq_false_iff.mp h), Option.map_none]

def joinWith (sep : String) : List String → String
  | [] => ""
  | [s] => s
  | s :: t :: rest => s ++ sep ++ joinWith sep (t :: rest)

example : splitAt '.' ['a', '.', '.', 'b'] = [['a'], [], ['b']] := by decide

end DocGuard.Text
