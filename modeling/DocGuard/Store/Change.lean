import DocGuard.Document.Coercion

/-!
# Changes

What a collection tells its watchers about an inserted, updated or deleted document.
-/

namespace DocGuard

inductive ChangeKind where
  | insert
  | update
  | delete
deriving DecidableEq, Repr

def ChangeKind.name : ChangeKind → String
  | .insert => "insert"
  | .update => "update"
  | .delete => "delete"

/-- How a document differs from the one before it: the entries that are new or not equal, and the
names that are gone. -/
structure Difference where
  updated : Document
  removed : List String

def Difference.between (before after : Document) : Difference where
  updated := after.filter fun e => !Value.isJust (before.get? e.1) e.2
  removed := before.keys.filter fun key => !after.has key

/-- A change of a document. `key` holds the id of the document, `full` the document after the
change, where there is one. -/
structure Change where
  kind : ChangeKind
  collection : String
  key : Document
  full : Option Document
  difference : Option Difference

/-- The id of a document, null where it has none. -/
def Document.id (d : Document) : Value :=
  (d.get? "_id").getD .null

/-- The entry that identifies a document; empty where it has no id. -/
def Document.idEntry (d : Document) : Document :=
  match d.get? "_id" with
  | some id => [("_id", id)]
  | none => []

namespace Change

def ofInsert (collection : String) (d : Document) : Change :=
  ⟨.insert, collection, d.idEntry, some d, none⟩

def ofUpdate (collection : String) (before after : Document) : Change :=
  ⟨.update, collection, after.idEntry, some after, some (.between before after)⟩

def ofDelete (collection : String) (d : Document) : Change :=
  ⟨.delete, collection, d.idEntry, none, none⟩

def toDocument (c : Change) : Document :=
  let head : Document := [
    ("operationType", .str c.kind.name),
    ("ns", .doc [("coll", .str c.collection)]),
    ("documentKey", .doc c.key)]
  let full : Document := match c.full with
    | some d => [("fullDocument", .doc d)]
    | none => []
  let difference : Document := match c.difference with
    | some x => [("updateDescription", .doc [
        ("updatedFields", .doc x.updated),
        ("removedFields", .array (x.removed.map .str))])]
    | none => []
  head ++ full ++ difference

end Change

end DocGuard
