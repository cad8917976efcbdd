import DocGuard.Naming

/-!
# TOML tables

The contents of a configuration file: values, and tables that remember how they came about, for
that decides whether later lines may add to them.
-/

namespace DocGuard

inductive TableOrigin where
  | header
  | inner
  | dotted
  /-- A value on one line; nothing can be added to it. -/
  | inline
deriving DecidableEq, Repr

/-- A value of a configuration file. Moments are told apart from other values, but not from one
another. -/
inductive Toml where
  | text (s : String)
  | integer (n : Int)
  | float
  | bool (b : Bool)
  | moment
  | array (items : List Toml)
  | table (origin : TableOrigin) (entries : List (String × Toml))
  | tables (items : List (List (String × Toml)))

namespace Toml

abbrev Entries := List (String × Toml)

/-- A change of a table's entries, which may know whether a dotted key made the table; there may be
none. -/
abbrev Change := Bool → Entries → Option Entries

def addEntry (name : String) (t : Toml) : Entries → Option Entries
  | entries => if (Table.find? entries name).isSome then none else some (Table.set entries name t)

def changeLast (change : Entries → Option Entries) :
    List Entries → Option (List Entries)
  | [] => none
  | [entries] => (change entries).map fun e => [e]
  | entries :: rest => (changeLast change rest).map (entries :: ·)

/-- Changes the table at the end of a path. Missing tables on the way are made, for a dotted key or
for a header; values and tables on one line cannot be entered, nor tables with a header of their
own by a dotted key. -/
def changeAt (dotted : Bool) (change : Change) : List String → Bool → Entries → Option Entries
  | [], isDotted, entries => change isDotted entries
  | name :: path, _, entries =>
    match Table.find? entries name with
    | none =>
      (changeAt dotted change path dotted []).map fun inner =>
        Table.set entries name (.table (if dotted then .dotted else .inner) inner)
    | some (.table origin inner) =>
      if origin = .inline ∨ (dotted ∧ origin = .header) then none
      else
        (changeAt dotted change path (origin = .dotted) inner).map fun inner =>
          Table.set entries name (.table origin inner)
    | some (.tables items) =>
      (changeLast (changeAt dotted change path false) items).map fun items =>
        Table.set entries name (.tables items)
    | some _ => none

/-- Adds an entry under a key, dotted or not. The table that a dotted key ends in has to be one
that dotted keys made. -/
def addKey (path : List String) (name : String) (t : Toml) (entries : Entries) : Option Entries :=
  changeAt true (fun isDotted e => if isDotted = path.isEmpty then none else addEntry name t e)
    path false entries

/-- Begins the table with a header. A table can have only one header, and none if dotted keys made
it. -/
def openTable (name : String) : Change := fun _ entries =>
  match Table.find? entries name with
  | none => some (Table.set entries name (.table .header []))
  | some (.table .inner inner) => some (Table.set entries name (.table .header inner))
  | some _ => none

def openItem (name : String) : Change := fun _ entries =>
  match Table.find? entries name with
  | none => some (Table.set entries name (.tables [[]]))
  | some (.tables items) => some (Table.set entries name (.tables (items ++ [[]])))
  | some _ => none

def addUnder (header path : List String) (name : String) (t : Toml) (entries : Entries) :
    Option Entries :=
  changeAt false (fun _ e => addKey path name t e) header false entries

end Toml

end DocGuard
