import DocGuard.Query.Update
import DocGuard.Store.Change

/-!
# Collections

A collection keeps documents in the order in which they were inserted, and every change that it
has published. Reading leaves it alone; writing gives a result and the collection afterwards. A
fault does not always leave a collection as it was: documents changed in front of the fault stay
changed, without a published change, and a failed deletion loses all documents.
-/

namespace DocGuard

/-- Named documents in the order of their insertion, the changes published so far, and how many
ids were made up. -/
structure Collection where
  name : String
  documents : List Document
  history : List Change
  minted : Nat

/-- A write to a collection: its result and the collection afterwards. -/
abbrev Write (α : Type) := Collection → Except Fault α × Collection

structure UpdateCount where
  matched : Nat
  modified : Nat
deriving DecidableEq, Repr

inductive Modification where
  | operators (update : Document)
  | stages (pipeline : List Document)

def Modification.toStages : Modification → Except Fault (List Document)
  | .operators update => updateStages update
  | .stages pipeline => .ok pipeline

inductive Extent where
  | first
  | every
deriving DecidableEq, Repr

structure Window where
  skip : Option Nat
  limit : Option Nat

def Window.cut {α : Type} (w : Window) (found : List α) : List α :=
  let rest := found.drop (w.skip.getD 0)
  match w.limit with
  | some n => rest.take n
  | none => rest

def Window.all : Window :=
  ⟨none, none⟩

structure Pass (α : Type) where
  documents : List Document
  result : Except Fault α

namespace Collection

def ofDocuments (name : String) (documents : List Document) : Collection :=
  ⟨name, documents, [], 0⟩

def publish (c : Collection) (changes : List Change) : Collection :=
  { c with history := c.history ++ changes }

/-! ## Reading -/

def findOne (c : Collection) (filter : Document) : Except Fault (Option Document) :=
  selectFirst filter c.documents

def find (c : Collection) (filter : Document) (w : Window) : Except Fault (List Document) := do
  return w.cut (← select filter c.documents)

def aggregate (c : Collection) (pipeline : List Document) : Except Fault (List Document) :=
  runPipeline pipeline c.documents

/-! ## Inserting -/

def holdsId (documents : List Document) (id : Value) : Bool :=
  documents.any fun d => Value.isJust (d.get? "_id") id

def withId (serial : Nat) (d : Document) : Document :=
  if d.has "_id" then d else d.insert "_id" (.objectId (.minted serial))

/-- How many ids have been made up once a document has its id. -/
def mintedAfter (minted : Nat) (d : Document) : Nat :=
  if d.has "_id" then minted else minted + 1

def insertOne (d : Document) : Write Value := fun c =>
  let minted := mintedAfter c.minted d
  let stored := withId minted d
  if holdsId c.documents stored.id then
    (.error (.store (.duplicateKey c.name stored.id)), c)
  else
    (.ok stored.id,
      { c with documents := c.documents ++ [stored], minted }.publish [.ofInsert c.name stored])

/-- The documents of a batch with their ids, and how many ids have been made up. The ids have to
differ from those stored and from one another; `ready` holds the documents done so far. -/
def prepareBatch (c : Collection) (ready : List Document) (minted : Nat) :
    List Document → Except Fault (List Document × Nat)
  | [] => .ok (ready, minted)
  | d :: rest =>
    let next := mintedAfter minted d
    let stored := withId next d
    -- an id in the store is reported before one in the batch
    if holdsId c.documents stored.id then .error (.store (.duplicateKey c.name stored.id))
    else if holdsId ready stored.id then .error (.store (.repeatedKey c.name))
    else prepareBatch c (ready ++ [stored]) next rest

def insertMany (batch : List Document) : Write (List Value) := fun c =>
  match c.prepareBatch [] c.minted batch with
  | .ok (stored, minted) =>
    (.ok (stored.map Document.id),
      { c with documents := c.documents ++ stored, minted }.publish
        (stored.map (Change.ofInsert c.name)))
  | .error e => (.error e, c)

/-! ## Updating -/

def updated (stages : List Document) (d : Document) : Except Fault Document := do
  match (← runPipeline stages [d]).getLast? with
  | some d' => return d'
  | none => .error (.store .updateRemovedDocument)

def addCounts (a b : UpdateCount) : UpdateCount :=
  ⟨a.matched + b.matched, a.modified + b.modified⟩

/-- The changes that putting one document in the place of another publishes: none if they are
equal. -/
def changesOf (name : String) (before after : Document) : List Change :=
  if after.equal before then [] else [.ofUpdate name before after]

/-- The document that is stored after an update: an equal outcome leaves the one before. -/
def kept (before after : Document) : Document :=
  if after.equal before then before else after

/-- Passes through documents from the left, updating those that satisfy a filter, until a fault. -/
def updatePass (name : String) (filter : Document) (stages : List Document) (extent : Extent) :
    List Document → Pass (UpdateCount × List Change)
  | [] => ⟨[], .ok (⟨0, 0⟩, [])⟩
  | d :: rest =>
    match matchesFilter d filter with
    -- the documents in front of the fault stay as they were changed
    | .error e => ⟨d :: rest, .error e⟩
    | .ok false =>
      let tail := updatePass name filter stages extent rest
      ⟨d :: tail.documents, tail.result⟩
    | .ok true =>
      match updated stages d with
      | .error e => ⟨d :: rest, .error e⟩
      | .ok after =>
        let changes := changesOf name d after
        let here : UpdateCount := ⟨1, changes.length⟩
        match extent with
        | .first => ⟨kept d after :: rest, .ok (here, changes)⟩
        | .every =>
          let tail := updatePass name filter stages extent rest
          ⟨kept d after :: tail.documents,
            tail.result.map fun (count, later) => (addCounts here count, changes ++ later)⟩

def update (filter : Document) (modification : Modification) (extent : Extent) :
    Write UpdateCount := fun c =>
  match modification.toStages with
  | .error e => (.error e, c)
  | .ok stages =>
    let pass := updatePass c.name filter stages extent c.documents
    match pass.result with
    -- nothing is published of the changes in front of the fault
    | .error e => (.error e, { c with documents := pass.documents })
    | .ok (count, changes) => (.ok count, { c with documents := pass.documents }.publish changes)

/-! ## Deleting -/

def deletePass (filter : Document) (extent : Extent) :
    List Document → Except Fault (List Document × List Document)
  | [] => .ok ([], [])
  | d :: rest => do
    if ← matchesFilter d filter then
      match extent with
      | .first => return (rest, [d])
      | .every =>
        let (others, removed) ← deletePass filter extent rest
        return (others, d :: removed)
    else
      let (others, removed) ← deletePass filter extent rest
      return (d :: others, removed)

def delete (filter : Document) (extent : Extent) : Write Nat := fun c =>
  match deletePass filter extent c.documents with
  -- the documents were taken out before the pass, and a fault comes before any is put back
  | .error e => (.error e, { c with documents := [] })
  | .ok (others, removed) =>
    (.ok removed.length,
      { c with documents := others }.publish (removed.map (Change.ofDelete c.name)))

end Collection

end DocGuard
