import DocGuard.Store.Collection

/-!
# Ids of inserted documents

An insertion adds documents at the end, and each of them only if no document in front of it has its
id. So no id repeats in a collection that was filled by insertions alone.
-/

namespace DocGuard
namespace Collection

/-- Whether no id repeats: no document has the id of one behind it. -/
def DistinctIds (documents : List Document) : Prop :=
  documents.Pairwise fun d e => Value.isJust (d.get? "_id") e.id = false

theorem holdsId_eq_false {documents : List Document} {id : Value} :
    holdsId documents id = false ↔ ∀ d ∈ documents, Value.isJust (d.get? "_id") id = false := by
  simp only [holdsId, List.any_eq_false, Bool.not_eq_true]

/-- A document with a new id goes to the end. -/
theorem DistinctIds.append_single {documents : List Document} {d : Document}
    (h : DistinctIds documents) (hnew : holdsId documents d.id = false) :
    DistinctIds (documents ++ [d]) := by
  refine List.pairwise_append.mpr ⟨h, List.pairwise_singleton _ d, fun e he new hd => ?_⟩
  rw [List.mem_singleton.mp hd]
  exact holdsId_eq_false.mp hnew e he

/-- A document of a batch has to be new beside the stored ones and those in front of it. -/
theorem prepareBatch_cons_eq_ok {c : Collection} {d : Document} {ready rest : List Document}
    {minted : Nat} {done : List Document × Nat} :
    c.prepareBatch ready minted (d :: rest) = .ok done ↔
      holdsId (c.documents ++ ready) (withId (mintedAfter minted d) d).id = false ∧
        c.prepareBatch (ready ++ [withId (mintedAfter minted d) d]) (mintedAfter minted d) rest =
          .ok done := by
  generalize hstored : withId (mintedAfter minted d) d = stored
  have hsplit : holdsId (c.documents ++ ready) stored.id =
      (holdsId c.documents stored.id || holdsId ready stored.id) := List.any_append
  rw [hsplit, prepareBatch, hstored]
  by_cases hstore : holdsId c.documents stored.id = true
  · simp [hstore]
  · by_cases hready : holdsId ready stored.id = true <;> simp [hstore, hready]

/-- The documents of a batch can be added one after another. -/
theorem distinctIds_of_prepareBatch {c : Collection} {batch ready stored : List Document}
    {minted minted' : Nat} (hready : DistinctIds (c.documents ++ ready))
    (h : c.prepareBatch ready minted batch = .ok (stored, minted')) :
    DistinctIds (c.documents ++ stored) := by
  -- what is kept is that the stored documents and those of the batch done so far can stand together
  induction batch generalizing ready minted with
  | nil =>
    cases h
    exact hready
  | cons d rest ih =>
    obtain ⟨hnew, hrest⟩ := prepareBatch_cons_eq_ok.mp h
    have hnext := hready.append_single hnew
    rw [List.append_assoc] at hnext
    exact ih hnext hrest

/-- What holds of each document of a batch with its id holds of what is stored. -/
theorem forall_of_prepareBatch {c : Collection} {p : Document → Prop}
    {batch ready stored : List Document} {minted minted' : Nat} (hready : ∀ d ∈ ready, p d)
    (hbatch : ∀ d ∈ batch, ∀ serial, p (withId serial d))
    (h : c.prepareBatch ready minted batch = .ok (stored, minted')) : ∀ d ∈ stored, p d := by
  induction batch generalizing ready minted with
  | nil =>
    cases h
    exact hready
  | cons d rest ih =>
    obtain ⟨hd, hrest⟩ := List.forall_mem_cons.mp hbatch
    obtain ⟨-, hprepare⟩ := prepareBatch_cons_eq_ok.mp h
    have hstored : ∀ e ∈ [withId (mintedAfter minted d) d], p e :=
      List.forall_mem_singleton.mpr (hd _)
    exact ih (List.forall_mem_append.mpr ⟨hready, hstored⟩) hrest hprepare

/-- The collections that insertions fill. -/
inductive Inserted : Collection → Prop
  | empty (name : String) : Inserted (.ofDocuments name [])
  | one {c : Collection} (h : Inserted c) (d : Document) : Inserted (insertOne d c).2
  | many {c : Collection} (h : Inserted c) (batch : List Document) : Inserted (insertMany batch c).2

theorem distinctIds_insertOne {c : Collection} (h : DistinctIds c.documents) (d : Document) :
    DistinctIds (insertOne d c).2.documents := by
  unfold insertOne
  simp only
  split
  · exact h
  · next hnew => exact h.append_single (Bool.eq_false_iff.mpr hnew)

theorem distinctIds_insertMany {c : Collection} (h : DistinctIds c.documents)
    (batch : List Document) : DistinctIds (insertMany batch c).2.documents := by
  unfold insertMany
  split
  · next stored minted hbatch =>
    have hnone : DistinctIds (c.documents ++ []) := by rwa [List.append_nil]
    exact distinctIds_of_prepareBatch hnone hbatch
  · exact h

/-- In a collection that was filled by insertions no id repeats. -/
theorem Inserted.distinctIds {c : Collection} (h : Inserted c) : DistinctIds c.documents := by
  induction h with
  | empty name => exact .nil
  | one _ d ih => exact distinctIds_insertOne ih d
  | many _ batch ih => exact distinctIds_insertMany ih batch

end Collection
end DocGuard
