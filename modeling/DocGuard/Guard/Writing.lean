import DocGuard.Guard.Basic

/-!
# Guarded writing

Every write is decided before it starts: all documents concerned are validated, in the form that
they will have, and only then is one write issued to the collection. A refused write leaves the
collection alone.
-/

namespace DocGuard

/-- A write that waits for a decision: what was decided goes to the write, and a fault keeps the
collection as it is. -/
def Traced.thenWrite {α β : Type} (decision : Traced α) (write : α → Write β) (c : Collection) :
    Traced β × Collection :=
  match decision.result with
  | .ok a =>
    let outcome := write a c
    (⟨decision.calls, outcome.1⟩, outcome.2)
  | .error e => (⟨decision.calls, .error e⟩, c)

def narrowToIds (query : Document) (ids : List Value) : Document :=
  conjoin [query, [("_id", .doc [("$in", .array ids)])]]

def selectionStages (query : Document) : Extent → List Document
  | .first => [[("$match", .doc query)], [("$limit", .int32 1)]]
  | .every => [[("$match", .doc query)]]

namespace Guard

def insertOne (g : Guard) (d : Document) (c : Collection) : Traced Value × Collection :=
  let decision : Traced Unit := if g.asSystem then pure () else g.demandUnchanged .insert d
  decision.thenWrite (fun _ => Collection.insertOne d) c

/-- Inserts documents, if the user may insert each of them in full. -/
def insertMany (g : Guard) (batch : List Document) (c : Collection) :
    Traced (List Value) × Collection :=
  let decision : Traced Unit :=
    if g.asSystem then pure () else Traced.forAll (g.demandUnchanged .insert) batch
  decision.thenWrite (fun _ => Collection.insertMany batch) c

/-- The narrowed query of an update, once the outcome of the update has been validated for each
document that it selects. -/
def decideUpdate (g : Guard) (c : Collection) (filter : Document) (modification : Modification)
    (extent : Extent) : Traced Document := do
  let query ← g.narrow filter
  let stages ← modification.toStages
  -- the update is tried out on the stored documents without changing them
  let outcome ← c.aggregate (selectionStages query extent ++ stages)
  Traced.forAll (g.demandUnchanged .write) outcome
  return query

def update (g : Guard) (filter : Document) (modification : Modification) (extent : Extent)
    (c : Collection) : Traced UpdateCount × Collection :=
  let decision : Traced Document :=
    if g.asSystem then pure filter else g.decideUpdate c filter modification extent
  decision.thenWrite (fun query => Collection.update query modification extent) c

/-- The ids of the documents that the user may delete, of those that a query selects. -/
def deletableIds (g : Guard) (c : Collection) (query : Document) : Traced (List Value) := do
  let candidates ← c.find query .all
  let seen ← Traced.gather (candidates.map fun d => g.validate d .delete)
  return ((candidates.zip seen).filter fun p => p.2.isSome).map fun p => p.1.id

/-- The query that selects what a deletion of one document may take, or none if nothing may be
deleted. -/
def decideDeleteOne (g : Guard) (c : Collection) (filter : Document) :
    Traced (Option Document) := do
  let query ← g.narrow filter
  let ids ← g.deletableIds c query
  return if ids.isEmpty then none else some (narrowToIds query ids)

/-- The query that selects what a deletion takes, once each document has been found deletable, or
none if nothing is selected. -/
def decideDeleteMany (g : Guard) (c : Collection) (filter : Document) :
    Traced (Option Document) := do
  let query ← g.narrow filter
  let candidates ← c.find query .all
  if candidates.isEmpty then return none
  else
    Traced.forAll g.demandDeletion candidates
    return some (narrowToIds query (candidates.map Document.id))

/-- Deletes what a query selects; without a query nothing is deleted. -/
def deleteSelected (extent : Extent) : Option Document → Write Nat
  | some query => Collection.delete query extent
  | none => fun c => (.ok 0, c)

/-- Deletes the first document that the user may delete, or every document, if the user may delete
each of them. -/
def delete (g : Guard) (filter : Document) (extent : Extent) (c : Collection) :
    Traced Nat × Collection :=
  let decision : Traced (Option Document) :=
    if g.asSystem then pure (some filter)
    else
      match extent with
      | .first => g.decideDeleteOne c filter
      | .every => g.decideDeleteMany c filter
  decision.thenWrite (deleteSelected extent) c

end Guard

end DocGuard
