import DocGuard.Proofs.Decision
import DocGuard.Proofs.GuardedUpdate
import DocGuard.Proofs.Insertion

/-!
# Batches and single insertions

A batch is validated as a whole before its ids are looked at, and an id of it is compared with the
stored ones and with those of the batch in front of it apart from each other. Insertions of the
same documents one after another compare each id with a collection that grows. Both accept the same
documents and then do the same.
-/

namespace DocGuard

theorem Document.insert_of_not_has {d : Document} {key : String} (h : d.has key = false)
    (v : Value) : d.insert key v = d ++ [(key, v)] := by
  induction d with
  | nil => rfl
  | cons e rest ih =>
    obtain ⟨k, w⟩ := e
    by_cases hk : k = key
    · simp [has, get?_cons, hk] at h
    · have hrest : Document.has rest key = false := by simpa [has, get?_cons, hk] using h
      rw [insert, if_neg hk, ih hrest]
      rfl

/-- Whether a document is stored as another one: as it is, or with a made-up id at its end if it
has none. -/
def Document.StoredAs (d stored : Document) : Prop :=
  if d.has "_id" then stored = d
  else ∃ serial, stored = d ++ [("_id", .objectId (.minted serial))]

namespace Collection

/-! ## Documents that come in -/

variable {c : Collection} {d : Document}

/-- A collection into which documents came, each published as inserted, and the number of ids that
have been made up then. -/
def receiving (c : Collection) (stored : List Document) (minted : Nat) : Collection :=
  { c with documents := c.documents ++ stored, minted }.publish
    (stored.map (Change.ofInsert c.name))

@[simp] theorem minted_receiving (c : Collection) (stored : List Document) (n : Nat) :
    (c.receiving stored n).minted = n := rfl

theorem receiving_nil (c : Collection) : c.receiving [] c.minted = c := by
  simp [receiving, publish]

theorem receiving_receiving (c : Collection) (earlier later : List Document) (n n' : Nat) :
    (c.receiving earlier n).receiving later n' = c.receiving (earlier ++ later) n' := by
  simp [receiving, publish]

theorem withId_storedAs (serial : Nat) (d : Document) : d.StoredAs (withId serial d) := by
  unfold Document.StoredAs withId
  by_cases h : d.has "_id" = true
  · rw [if_pos h, if_pos h]
  · rw [if_neg h, if_neg h]
    exact ⟨serial, Document.insert_of_not_has (Bool.eq_false_iff.mpr h) _⟩

theorem insertOne_of_new
    (h : holdsId c.documents (withId (mintedAfter c.minted d) d).id = false) :
    insertOne d c = (.ok (withId (mintedAfter c.minted d) d).id,
      c.receiving [withId (mintedAfter c.minted d) d] (mintedAfter c.minted d)) := by
  unfold insertOne
  simp only [h]
  rfl

theorem new_of_insertOne {id : Value} (h : (insertOne d c).1 = .ok id) :
    holdsId c.documents (withId (mintedAfter c.minted d) d).id = false := by
  by_contra hheld
  unfold insertOne at h
  rw [if_pos (Bool.not_eq_false _ ▸ hheld)] at h
  cases h

end Collection

namespace Guard

open Collection (holdsId mintedAfter withId receiving_receiving minted_receiving)

variable {g : Guard} {c : Collection} {d : Document} {batch rest ready stored : List Document}
  {minted minted' : Nat}

/-! ## One document -/

theorem insertOne_eq (hsystem : g.asSystem = false) (d : Document) (c : Collection) :
    g.insertOne d c =
      (g.demandUnchanged .insert d).thenWrite (fun _ => Collection.insertOne d) c := by
  unfold insertOne
  rw [hsystem]
  rfl

theorem insertOne_of_new (hsystem : g.asSystem = false)
    (hpasses : (g.demandUnchanged .insert d).result = .ok ())
    (hnew : holdsId c.documents (withId (mintedAfter c.minted d) d).id = false) :
    g.insertOne d c =
      (⟨(g.demandUnchanged .insert d).calls, .ok (withId (mintedAfter c.minted d) d).id⟩,
        c.receiving [withId (mintedAfter c.minted d) d] (mintedAfter c.minted d)) := by
  rw [insertOne_eq hsystem, Traced.thenWrite_of_ok hpasses, Collection.insertOne_of_new hnew]

theorem insertOne_eq_ok (hsystem : g.asSystem = false) {id : Value}
    (h : (g.insertOne d c).1.result = .ok id) :
    (g.demandUnchanged .insert d).result = .ok () ∧
      holdsId c.documents (withId (mintedAfter c.minted d) d).id = false := by
  rw [insertOne_eq hsystem] at h
  obtain ⟨⟨⟩, hpasses, hwrite, -⟩ := Traced.thenWrite_eq_ok h
  exact ⟨hpasses, Collection.new_of_insertOne hwrite⟩

/-! ## One after another -/

/-- Inserts documents one after another, up to the first fault. -/
def insertEach (g : Guard) : List Document → Collection → Traced (List Value) × Collection
  | [], c => (pure [], c)
  | d :: rest, c =>
    let first := g.insertOne d c
    match first.1.result with
    | .error e => (⟨first.1.calls, .error e⟩, first.2)
    | .ok id =>
      let others := g.insertEach rest first.2
      (⟨first.1.calls ++ others.1.calls, others.1.result.map (id :: ·)⟩, others.2)

theorem insertEach_cons_of_ok {calls : List Call} {id : Value} {c' : Collection}
    (h : g.insertOne d c = (⟨calls, .ok id⟩, c')) (rest : List Document) :
    g.insertEach (d :: rest) c =
      (⟨calls ++ (g.insertEach rest c').1.calls,
        (g.insertEach rest c').1.result.map (id :: ·)⟩, (g.insertEach rest c').2) := by
  rw [insertEach, h]

theorem insertEach_cons_eq_ok {ids : List Value}
    (h : (g.insertEach (d :: rest) c).1.result = .ok ids) :
    ∃ id others, (g.insertOne d c).1.result = .ok id ∧
      (g.insertEach rest (g.insertOne d c).2).1.result = .ok others := by
  unfold insertEach at h
  cases hfirst : (g.insertOne d c).1.result with
  | error e =>
    simp only [hfirst] at h
    cases h
  | ok id =>
    simp only [hfirst] at h
    obtain ⟨others, hothers, -⟩ := except_map_eq_ok.mp h
    exact ⟨id, others, rfl, hothers⟩

/-- What single insertions accept is accepted as a batch. -/
theorem exists_prepareBatch_of_insertEach (hsystem : g.asSystem = false) {ids : List Value}
    (h : (g.insertEach batch (c.receiving ready minted)).1.result = .ok ids) :
    (Traced.forAll (g.demandUnchanged .insert) batch).result = .ok () ∧
      ∃ done, c.prepareBatch ready minted batch = .ok done := by
  -- `ready` holds what came into `c` in front of the rest of the batch
  induction batch generalizing ready minted ids with
  | nil => exact ⟨rfl, _, rfl⟩
  | cons d rest ih =>
    obtain ⟨id, others, hfirst, hrest⟩ := insertEach_cons_eq_ok h
    obtain ⟨hpasses, hnew⟩ := insertOne_eq_ok hsystem hfirst
    rw [insertOne_of_new hsystem hpasses hnew, receiving_receiving, minted_receiving] at hrest
    obtain ⟨hall, done, hprepare⟩ := ih hrest
    refine ⟨Traced.forAll_cons_eq_ok.mpr ⟨hpasses, hall⟩, done, ?_⟩
    exact Collection.prepareBatch_cons_eq_ok.mpr ⟨hnew, hprepare⟩

/-- What is accepted as a batch single insertions accept, and they store and publish the same. -/
theorem insertEach_of_prepareBatch (hsystem : g.asSystem = false)
    (hpass : (Traced.forAll (g.demandUnchanged .insert) batch).result = .ok ())
    (hprepare : c.prepareBatch ready minted batch = .ok (stored, minted')) :
    ∃ new, stored = ready ++ new ∧ List.Forall₂ Document.StoredAs batch new ∧
      g.insertEach batch (c.receiving ready minted) =
        (⟨(Traced.forAll (g.demandUnchanged .insert) batch).calls, .ok (new.map Document.id)⟩,
          c.receiving stored minted') := by
  induction batch generalizing ready minted with
  | nil =>
    cases hprepare
    exact ⟨[], (List.append_nil stored).symm, .nil, rfl⟩
  | cons d rest ih =>
    obtain ⟨hd, hrest⟩ := Traced.forAll_cons_eq_ok.mp hpass
    obtain ⟨hnew, hprepared⟩ := Collection.prepareBatch_cons_eq_ok.mp hprepare
    obtain ⟨new, hstored, hstoredAs, heach⟩ := ih hrest hprepared
    have hfirst := insertOne_of_new (c := c.receiving ready minted) hsystem hd hnew
    rw [receiving_receiving, minted_receiving] at hfirst
    refine ⟨withId (mintedAfter minted d) d :: new, ?_, ?_, ?_⟩
    · rw [hstored, List.append_assoc, List.singleton_append]
    · exact .cons (Collection.withId_storedAs _ d) hstoredAs
    · rw [insertEach_cons_of_ok hfirst, heach, Traced.calls_forAll_cons hd]
      rfl

/-! ## A batch -/

theorem insertMany_eq (hsystem : g.asSystem = false) (batch : List Document) (c : Collection) :
    g.insertMany batch c = (Traced.forAll (g.demandUnchanged .insert) batch).thenWrite
      (fun _ => Collection.insertMany batch) c := by
  unfold insertMany
  rw [hsystem]
  rfl

theorem insertMany_of_prepareBatch (hsystem : g.asSystem = false)
    (hpass : (Traced.forAll (g.demandUnchanged .insert) batch).result = .ok ())
    (hprepare : c.prepareBatch [] c.minted batch = .ok (stored, minted')) :
    g.insertMany batch c =
      (⟨(Traced.forAll (g.demandUnchanged .insert) batch).calls, .ok (stored.map Document.id)⟩,
        c.receiving stored minted') := by
  rw [insertMany_eq hsystem, Traced.thenWrite_of_ok hpass, Collection.insertMany, hprepare]
  rfl

theorem insertMany_eq_ok (hsystem : g.asSystem = false) {ids : List Value}
    (h : (g.insertMany batch c).1.result = .ok ids) :
    (Traced.forAll (g.demandUnchanged .insert) batch).result = .ok () ∧
      ∃ done, c.prepareBatch [] c.minted batch = .ok done := by
  rw [insertMany_eq hsystem] at h
  obtain ⟨⟨⟩, hpass, hwrite, -⟩ := Traced.thenWrite_eq_ok h
  refine ⟨hpass, ?_⟩
  unfold Collection.insertMany at hwrite
  cases hprepare : c.prepareBatch [] c.minted batch with
  | ok done => exact ⟨done, rfl⟩
  | error e =>
    rw [hprepare] at hwrite
    cases hwrite

theorem insertMany_error_unchanged (hsystem : g.asSystem = false) {e : Fault}
    (h : (g.insertMany batch c).1.result = .error e) : (g.insertMany batch c).2 = c := by
  cases hpass : (Traced.forAll (g.demandUnchanged .insert) batch).result with
  | error e' => rw [insertMany_eq hsystem, Traced.thenWrite_of_error hpass]
  | ok _ =>
    cases hprepare : c.prepareBatch [] c.minted batch with
    | ok done =>
      rw [insertMany_of_prepareBatch hsystem hpass hprepare] at h
      cases h
    | error e' =>
      rw [insertMany_eq hsystem, Traced.thenWrite_of_ok hpass, Collection.insertMany, hprepare]

/-- A batch is inserted exactly if its documents can be inserted one after another. Both then make
the same calls, give the same ids, store the documents behind the old ones and publish each of
them, and the user may insert each document in full. A batch that is refused leaves everything as
it was. -/
theorem insertMany_agrees_with_insertEach (hsystem : g.asSystem = false) (batch : List Document)
    (c : Collection) :
    ((∃ ids, (g.insertMany batch c).1.result = .ok ids) ↔
      ∃ ids, (g.insertEach batch c).1.result = .ok ids) ∧
    (∀ ids, (g.insertMany batch c).1.result = .ok ids →
      g.insertEach batch c = g.insertMany batch c ∧
      (∀ d ∈ batch, g.Passes .insert d) ∧
      ∃ stored, List.Forall₂ Document.StoredAs batch stored ∧
        ids = stored.map Document.id ∧
        (g.insertMany batch c).2.documents = c.documents ++ stored ∧
        (g.insertMany batch c).2.history = c.history ++ stored.map (Change.ofInsert c.name)) ∧
    ∀ e, (g.insertMany batch c).1.result = .error e → (g.insertMany batch c).2 = c := by
  have hagree : ∀ ids, (g.insertMany batch c).1.result = .ok ids →
      ∃ stored minted', List.Forall₂ Document.StoredAs batch stored ∧
        g.insertEach batch c = g.insertMany batch c ∧
        g.insertMany batch c =
          (⟨(Traced.forAll (g.demandUnchanged .insert) batch).calls,
            .ok (stored.map Document.id)⟩, c.receiving stored minted') := by
    intro ids h
    obtain ⟨hpass, ⟨stored, minted'⟩, hprepare⟩ := insertMany_eq_ok hsystem h
    obtain ⟨new, hnew, hstored, heach⟩ := insertEach_of_prepareBatch hsystem hpass hprepare
    rw [Collection.receiving_nil] at heach
    rw [List.nil_append] at hnew
    subst hnew
    have hmany := insertMany_of_prepareBatch hsystem hpass hprepare
    exact ⟨stored, minted', hstored, heach.trans hmany.symm, hmany⟩
  refine ⟨⟨?_, ?_⟩, ?_, fun e he => insertMany_error_unchanged hsystem he⟩
  · rintro ⟨ids, h⟩
    obtain ⟨_, _, _, heach, _⟩ := hagree ids h
    exact ⟨ids, heach ▸ h⟩
  · rintro ⟨ids, h⟩
    rw [← Collection.receiving_nil c] at h
    obtain ⟨hpass, done, hprepare⟩ := exists_prepareBatch_of_insertEach hsystem h
    rw [insertMany_of_prepareBatch hsystem hpass hprepare]
    exact ⟨_, rfl⟩
  · intro ids h
    obtain ⟨stored, minted', hstored, heach, hmany⟩ := hagree ids h
    refine ⟨heach, fun d hd => ?_, stored, hstored, ?_, ?_, ?_⟩
    · exact passes_of_demandUnchanged
        (Traced.result_of_forAll (insertMany_eq_ok hsystem h).1 hd)
    · rw [hmany] at h
      cases h
      rfl
    · rw [hmany]
      rfl
    · rw [hmany]
      rfl

def ofAuthor : Guard :=
  underRole { Role.bare "author" with
    write := some (.condition [("%%root.owner", .str "%%user.id")])
    insert := some (.condition [("%%root.owner", .str "%%user.id")]) }

/-- Two documents of one user, the first without an id. -/
def twoOf (owner : String) : List Document :=
  [[("owner", .str owner)], [("_id", .int32 3), ("owner", .str owner)]]

/-- The user inserts two documents of their own, together or one after another; two documents of
somebody else change nothing. -/
theorem insertMany_takes_own_or_none :
    (ofAuthor.insertMany (twoOf "ann") (todosWith "bob")).1.result =
        .ok [.objectId (.minted 1), .int32 3] ∧
      ofAuthor.insertEach (twoOf "ann") (todosWith "bob") =
        ofAuthor.insertMany (twoOf "ann") (todosWith "bob") ∧
      (∀ d ∈ twoOf "ann", ofAuthor.Passes .insert d) ∧
      (ofAuthor.insertMany (twoOf "bob") (todosWith "bob")).1.result =
        .error .insertNotPermitted ∧
      (ofAuthor.insertMany (twoOf "bob") (todosWith "bob")).2 = todosWith "bob" := by
  have hown : (ofAuthor.insertMany (twoOf "ann") (todosWith "bob")).1.result =
      .ok [.objectId (.minted 1), .int32 3] := rfl
  have hrefused : (ofAuthor.insertMany (twoOf "bob") (todosWith "bob")).1.result =
      .error .insertNotPermitted := rfl
  obtain ⟨-, hagree, -⟩ := insertMany_agrees_with_insertEach (g := ofAuthor) rfl (twoOf "ann")
    (todosWith "bob")
  obtain ⟨heach, hpasses, -⟩ := hagree _ hown
  obtain ⟨-, -, hunchanged⟩ := insertMany_agrees_with_insertEach (g := ofAuthor) rfl (twoOf "bob")
    (todosWith "bob")
  exact ⟨hown, heach, hpasses, hrefused, hunchanged _ hrefused⟩

end Guard

end DocGuard
