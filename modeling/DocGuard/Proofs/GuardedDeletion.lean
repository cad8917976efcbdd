import DocGuard.Proofs.Decision
import DocGuard.Proofs.GuardedUpdate
import DocGuard.Proofs.Insertion
import DocGuard.Proofs.Path

/-!
# Guarded deletions

Which documents a user may delete is decided on the documents, but what is then issued is a query
for their ids. A deletion takes the right document where `$in` tells the ids of stored documents
apart like the check for duplicates does, which it does not do for numbers of different width and
for lists.
-/

namespace DocGuard

/-! ## Queries for ids -/

/-- A conjunction of two filters asks the second only where the first matches. -/
theorem matchesFilter_conjoin (d p q : Document) :
    matchesFilter d (conjoin [p, q]) =
      (do if ← matchesFilter d p then matchesFilter d q else return false) := by
  have hright : ∀ x : Except Fault Bool,
      (do if ← x then Except.ok true else return false) = x := by
    intro x
    rcases x with e | _ | _ <;> rfl
  change (do if ← matchesEntry d "$and" (.array [.doc p, .doc q]) then .ok true else return false)
    = _
  rw [hright]
  change (do if ← matchesFilter d p then
    (do if ← matchesFilter d q then Except.ok true else return false) else return false) = _
  rw [hright]

/-- A conjunction is satisfied where both filters are. -/
theorem satisfies_conjoin (p q d : Document) :
    satisfies (conjoin [p, q]) d = (satisfies p d && satisfies q d) := by
  unfold satisfies
  rw [matchesFilter_conjoin]
  rcases matchesFilter d p with e | _ | _ <;> rfl

/-- Whether `$in` finds a document by an id. -/
def Document.answersTo (d : Document) (id : Value) : Bool :=
  oneOf (toItems (d.getPath "_id")) id

/-- Whether an id is among some ids is decided for every document, whatever the ids are. -/
theorem matchesFilter_ids (d : Document) (ids : List Value) :
    matchesFilter d [("_id", .doc [("$in", .array ids)])] = .ok (ids.any d.answersTo) := by
  have hfield : matchesField (d.getPath "_id") (.doc [("$in", .array ids)]) =
      if ids.any d.answersTo then .ok true else .ok false := rfl
  change (do
    if ← matchesField (d.getPath "_id") (.doc [("$in", .array ids)]) then .ok true
    else .ok false) = _
  rw [hfield]
  cases ids.any d.answersTo <;> rfl

/-- Where a query can be decided, it can be decided together with some ids. -/
theorem matchesFilter_narrowToIds {query d : Document} {here : Bool}
    (h : matchesFilter d query = .ok here) (ids : List Value) :
    matchesFilter d (narrowToIds query ids) = .ok (here && ids.any d.answersTo) := by
  unfold narrowToIds
  rw [matchesFilter_conjoin, h, matchesFilter_ids]
  cases here <;> rfl

/-- The narrowed query of a deletion can be decided for every document. -/
theorem exists_matchesFilter_narrowToIds {query : Document} {documents found : List Document}
    (hfound : select query documents = .ok found) (ids : List Value) :
    ∀ d ∈ documents, ∃ here, matchesFilter d (narrowToIds query ids) = .ok here := by
  intro d hd
  obtain ⟨here, hhere⟩ := exists_matchesFilter_of_select hfound hd
  exact ⟨_, matchesFilter_narrowToIds hhere ids⟩

theorem satisfies_narrowToIds (query : Document) (ids : List Value) :
    satisfies (narrowToIds query ids) = fun d => satisfies query d && ids.any d.answersTo := by
  funext d
  have hids : satisfies [("_id", .doc [("$in", .array ids)])] d = ids.any d.answersTo :=
    satisfies_of_ok (matchesFilter_ids d ids)
  show satisfies (conjoin [query, _]) d = _
  rw [satisfies_conjoin, hids]

/-! ## What a deletion is decided to take -/

namespace Guard

variable {g : Guard} {c : Collection}

/-- Whether the user may delete a document; a fault is no permission. -/
def mayDelete (g : Guard) (d : Document) : Bool :=
  match (g.validate d .delete).result with
  | .ok seen => seen.isSome
  | .error _ => false

theorem mayDelete_of_ok {d : Document} {seen : Option Document}
    (h : (g.validate d .delete).result = .ok seen) : g.mayDelete d = seen.isSome := by
  unfold mayDelete
  rw [h]

/-- What stays of candidates that are paired with what the user sees of them are those that the user
may delete. -/
theorem filter_zip_seen {candidates : List Document} {seen : List (Option Document)}
    (h : List.Forall₂ (fun d s => (g.validate d .delete).result = .ok s) candidates seen) :
    ((candidates.zip seen).filter fun p => p.2.isSome).map (fun p => p.1.id) =
      (candidates.filter g.mayDelete).map Document.id := by
  induction h with
  | nil => rfl
  | @cons d s rest others hd _ ih =>
    have hmay : g.mayDelete d = s.isSome := mayDelete_of_ok hd
    rw [List.zip_cons_cons, List.filter_cons, List.filter_cons, hmay]
    cases hsome : s.isSome with
    | true =>
      rw [if_pos rfl, if_pos rfl, List.map_cons, List.map_cons, ih]
    | false =>
      rw [if_neg (by decide), if_neg (by decide), ih]

/-- A deletion of one document is for the ids of those documents that the narrowed query matches and
that the user may delete. -/
theorem decideDeleteOne_eq_ok {filter : Document} {selected : Option Document}
    (h : (g.decideDeleteOne c filter).result = .ok selected) :
    ∃ query found ids, g.narrow filter = .ok query ∧ select query c.documents = .ok found ∧
      ids = (found.filter g.mayDelete).map Document.id ∧
      selected = (if ids.isEmpty then none else some (narrowToIds query ids)) := by
  unfold decideDeleteOne deletableIds Collection.find at h
  simp only [Traced.result_bind] at h
  obtain ⟨query, hquery, h⟩ := bind_eq_ok.mp h
  obtain ⟨ids, hids, h⟩ := bind_eq_ok.mp h
  obtain ⟨candidates, hcandidates, hids⟩ := bind_eq_ok.mp hids
  obtain ⟨found, hfound, hall⟩ := bind_eq_ok.mp hcandidates
  obtain ⟨seen, hseen, hids⟩ := bind_eq_ok.mp hids
  cases hall
  cases hids
  cases h
  exact ⟨query, found, _, hquery, hfound, filter_zip_seen (Traced.forall₂_of_gather hseen), rfl⟩

theorem mayDelete_of_demandDeletion {d : Document} (h : (g.demandDeletion d).result = .ok ()) :
    g.mayDelete d = true := by
  unfold demandDeletion at h
  rw [Traced.result_bind] at h
  obtain ⟨seen, hseen, hgranted⟩ := bind_eq_ok.mp h
  rw [mayDelete_of_ok hseen]
  cases seen with
  | none => cases hgranted
  | some _ => rfl

/-- A deletion of every document is for the ids of the documents that the narrowed query matches, and
the user may delete each of these. -/
theorem decideDeleteMany_eq_ok {filter : Document} {selected : Option Document}
    (h : (g.decideDeleteMany c filter).result = .ok selected) :
    ∃ query found, g.narrow filter = .ok query ∧ select query c.documents = .ok found ∧
      (∀ d ∈ found, g.mayDelete d = true) ∧
      selected =
        (if found.isEmpty then none else some (narrowToIds query (found.map Document.id))) := by
  unfold decideDeleteMany Collection.find at h
  simp only [Traced.result_bind] at h
  obtain ⟨query, hquery, h⟩ := bind_eq_ok.mp h
  obtain ⟨candidates, hcandidates, h⟩ := bind_eq_ok.mp h
  obtain ⟨found, hfound, hall⟩ := bind_eq_ok.mp hcandidates
  cases hall
  refine ⟨query, found, hquery, hfound, ?_⟩
  cases found with
  | nil =>
    cases h
    exact ⟨fun d hd => absurd hd List.not_mem_nil, rfl⟩
  | cons d rest =>
    change (Traced.forAll g.demandDeletion (d :: rest) >>= _ : Traced (Option Document)).result = _
      at h
    rw [Traced.result_bind] at h
    obtain ⟨_, hdemanded, h⟩ := bind_eq_ok.mp h
    cases h
    refine ⟨fun e he => mayDelete_of_demandDeletion (Traced.result_of_forAll hdemanded he), rfl⟩

/-- A deletion of one document that succeeds takes the first document that the narrowed query
matches and that `$in` finds by the id of some document that may be deleted. -/
theorem exists_withoutFirst_of_delete {filter : Document} {count : Nat}
    (hsystem : g.asSystem = false)
    (hok : (g.delete filter .first c).1.result = .ok count) :
    ∃ query found, g.narrow filter = .ok query ∧ select query c.documents = .ok found ∧
      (count, (g.delete filter .first c).2) = c.withoutFirst fun d =>
        satisfies query d && ((found.filter g.mayDelete).map Document.id).any d.answersTo := by
  unfold delete at hok ⊢
  rw [hsystem, if_neg (by decide)] at hok ⊢
  obtain ⟨selected, hdecided, hwrite, hstore⟩ := Traced.thenWrite_eq_ok hok
  obtain ⟨query, found, ids, hquery, hfound, rfl, rfl⟩ := decideDeleteOne_eq_ok hdecided
  refine ⟨query, found, hquery, hfound, ?_⟩
  rw [hstore]
  generalize (found.filter g.mayDelete).map Document.id = ids at hwrite ⊢
  cases ids with
  | nil =>
    -- no query is issued where nothing may be deleted
    cases hwrite
    refine (Collection.withoutFirst_of_forall_not fun d _ => ?_).symm
    simp only [List.any_nil, Bool.and_false, Bool.false_eq_true, not_false_eq_true]
  | cons id rest =>
    have hdelete := Collection.delete_first_eq
      (exists_matchesFilter_narrowToIds hfound (id :: rest))
    rw [satisfies_narrowToIds] at hdelete
    change (Collection.delete (narrowToIds query (id :: rest)) .first c).1 = _ at hwrite
    change (count, (Collection.delete (narrowToIds query (id :: rest)) .first c).2) = _
    rw [hdelete] at hwrite ⊢
    cases hwrite
    rfl

end Guard

/-! ## Telling ids apart -/

/-- Whether `$in` tells the ids of documents apart like the check for duplicates does: it finds each
document by its own id, and by the id of a document behind it only if the check takes the two ids
for one. -/
structure TellsIdsApart (documents : List Document) : Prop where
  self : ∀ d ∈ documents, d.answersTo d.id = true
  apart : documents.Pairwise fun d e =>
    d.answersTo e.id = true → Value.isJust (d.get? "_id") e.id = true

/-- Whether a value is a text or an object id. -/
def Value.isName : Value → Bool
  | .str _ => true
  | .objectId _ => true
  | _ => false

/-- A document with a text or an object id for an id is found by an equal id alone. -/
theorem answersTo_of_isName {d : Document} {id : Value} (hid : d.get? "_id" = some id)
    (hname : id.isName = true) (other : Value) :
    d.answersTo other = Value.isJust (d.get? "_id") other := by
  unfold Document.answersTo
  rw [Document.getPath_of_get? hid, hid]
  cases id <;> cases hname
  all_goals
    simp only [toItems, oneOf, List.any_cons, List.any_nil, Bool.or_false]
    cases other <;> rfl

/-- The ids that a store makes up, other object ids and texts are told apart. -/
theorem TellsIdsApart.of_isName {documents : List Document}
    (h : ∀ d ∈ documents, ∃ id, d.get? "_id" = some id ∧ id.isName = true) :
    TellsIdsApart documents where
  self d hd := by
    obtain ⟨id, hid, hname⟩ := h d hd
    rw [answersTo_of_isName hid hname, Document.id, hid]
    cases id <;> cases hname <;> exact beq_self_eq_true _
  apart := List.pairwise_iff_forall_sublist.mpr fun hpair hanswers => by
    obtain ⟨id, hid, hname⟩ := h _ (hpair.subset List.mem_cons_self)
    rwa [answersTo_of_isName hid hname] at hanswers

/-- If what has one property has another, and what has the other stands for something with the one
that is not behind it, the same is first for both. -/
theorem first_eq_of_pairwise {α : Type} {R : α → α → Prop} {p q : α → Bool} {l : List α}
    (hapart : l.Pairwise fun a b => ¬ R a b) (hpq : ∀ a ∈ l, p a = true → q a = true)
    (hqp : ∀ a ∈ l, q a = true → ∃ b ∈ l, p b = true ∧ R a b) :
    l.find? q = l.find? p ∧ l.eraseP q = l.eraseP p := by
  induction l with
  | nil => exact ⟨rfl, rfl⟩
  | cons a rest ih =>
    obtain ⟨hfirst, hrest⟩ := List.pairwise_cons.mp hapart
    by_cases hp : p a = true
    · have hq : q a = true := hpq a List.mem_cons_self hp
      rw [List.find?_cons_of_pos hq, List.find?_cons_of_pos hp, List.eraseP_cons_of_pos hq,
        List.eraseP_cons_of_pos hp]
      exact ⟨rfl, rfl⟩
    · -- what `a` stands for would be `a` itself or behind it
      have hq : ¬ q a = true := by
        intro hq
        obtain ⟨b, hb, hpb, hab⟩ := hqp a List.mem_cons_self hq
        rcases List.mem_cons.mp hb with rfl | hb
        · exact hp hpb
        · exact hfirst b hb hab
      have htail := ih hrest (fun b hb => hpq b (List.mem_cons_of_mem a hb)) fun b hb hqb => by
        obtain ⟨d, hd, hpd, hbd⟩ := hqp b (List.mem_cons_of_mem a hb) hqb
        rcases List.mem_cons.mp hd with rfl | hd
        · exact absurd hpd hp
        · exact ⟨d, hd, hpd, hbd⟩
      rw [List.find?_cons_of_neg hq, List.find?_cons_of_neg hp, List.eraseP_cons_of_neg hq,
        List.eraseP_cons_of_neg hp, htail.1, htail.2]
      exact ⟨rfl, rfl⟩

/-- Where no id repeats and ids are told apart, no document is found by the id of one behind it. -/
theorem TellsIdsApart.pairwise_not_answersTo {documents : List Document}
    (h : TellsIdsApart documents) (hdistinct : Collection.DistinctIds documents) :
    documents.Pairwise fun d e => ¬ d.answersTo e.id = true := by
  refine hdistinct.imp₂ (fun d e hnew hsame hanswers => ?_) h.apart
  rw [hsame hanswers] at hnew
  cases hnew

/-- The first document with one property that is found by the id of some document with two
properties is the first document with both. -/
theorem withoutFirst_ids_eq {c : Collection} {s m : Document → Bool}
    (hdistinct : Collection.DistinctIds c.documents) (hids : TellsIdsApart c.documents) :
    (c.withoutFirst fun d =>
        s d && (((c.documents.filter s).filter m).map Document.id).any d.answersTo) =
      c.withoutFirst fun d => s d && m d := by
  have hmem : ∀ d, d ∈ (c.documents.filter s).filter m ↔
      d ∈ c.documents ∧ (s d && m d) = true := by
    intro d
    rw [List.mem_filter, List.mem_filter, Bool.and_eq_true, and_assoc]
  have hnamed : ∀ d ∈ c.documents, (s d && m d) = true →
      (s d && (((c.documents.filter s).filter m).map Document.id).any d.answersTo) = true := by
    intro d hd hboth
    have hid : d.id ∈ ((c.documents.filter s).filter m).map Document.id :=
      List.mem_map_of_mem ((hmem d).mpr ⟨hd, hboth⟩)
    rw [Bool.and_eq_true] at hboth ⊢
    exact ⟨hboth.1, List.any_eq_true.mpr ⟨d.id, hid, hids.self d hd⟩⟩
  have hfound : ∀ d ∈ c.documents,
      (s d && (((c.documents.filter s).filter m).map Document.id).any d.answersTo) = true →
      ∃ e ∈ c.documents, (s e && m e) = true ∧ d.answersTo e.id = true := by
    intro d _ hd
    rw [Bool.and_eq_true] at hd
    obtain ⟨id, hid, hanswers⟩ := List.any_eq_true.mp hd.2
    obtain ⟨e, he, rfl⟩ := List.mem_map.mp hid
    obtain ⟨hstored, hboth⟩ := (hmem e).mp he
    exact ⟨e, hstored, hboth, hanswers⟩
  obtain ⟨hfind, herase⟩ :=
    first_eq_of_pairwise (hids.pairwise_not_answersTo hdistinct) hnamed hfound
  unfold Collection.withoutFirst
  rw [hfind, herase]

/-! ## Deleting one document -/

namespace Guard

variable {g : Guard} {c : Collection}

def ofDeleter : Guard :=
  underRole { Role.bare "owner" with
    delete := some (.condition [("%%root.owner", .str "%%user.id")]) }

/-- The collection that the insertion of a batch fills. -/
def filledWith (batch : List Document) : Collection :=
  (Collection.insertMany batch (.ofDocuments "todos" [])).2

theorem inserted_filledWith (batch : List Document) : (filledWith batch).Inserted :=
  .many (.empty "todos") batch

/-- Documents whose ids are the same number in two widths. -/
def twoWidths : Collection :=
  filledWith [
    [("_id", .int32 1), ("owner", .str "bob")],
    [("_id", .int64 1), ("owner", .str "ann")]]

/-- A document whose id is a list. -/
def listForId : Collection :=
  filledWith [[("_id", .array [.int32 1]), ("owner", .str "ann")]]

/-- Whether a deletion of one document takes and counts the first document that the narrowed query
matches and that the user may delete, and nothing if there is none. -/
def TakesFirstPermitted (g : Guard) (filter : Document) (c : Collection) (count : Nat) : Prop :=
  ∃ query, g.narrow filter = .ok query ∧
    (count, (g.delete filter .first c).2) = c.withoutFirst fun d =>
      satisfies query d && g.mayDelete d

/-- A deletion of one document that succeeds takes the first one permitted, in a collection that was
filled by insertions and whose ids `$in` tells apart. -/
theorem delete_takes_first_permitted {filter : Document} {count : Nat}
    (hsystem : g.asSystem = false) (hinserted : c.Inserted) (hids : TellsIdsApart c.documents)
    (hok : (g.delete filter .first c).1.result = .ok count) :
    g.TakesFirstPermitted filter c count := by
  obtain ⟨query, found, hquery, hfound, hdeleted⟩ := exists_withoutFirst_of_delete hsystem hok
  refine ⟨query, hquery, hdeleted.trans ?_⟩
  rw [select_eq_filter hfound]
  exact withoutFirst_ids_eq hinserted.distinctIds hids

/-- The user's own document is deleted, though the document of somebody else is in front. -/
theorem delete_takes_own :
    let c := filledWith [[("owner", .str "bob")], [("owner", .str "ann")]]
    (ofDeleter.delete [] .first c).1.result = .ok 1 ∧ ofDeleter.TakesFirstPermitted [] c 1 := by
  intro c
  have hok : (ofDeleter.delete [] .first c).1.result = .ok 1 := rfl
  have hids : TellsIdsApart c.documents := by
    refine .of_isName fun d hd => ?_
    rcases List.mem_cons.mp hd with rfl | hd
    · exact ⟨.objectId (.minted 1), rfl, rfl⟩
    · exact ⟨.objectId (.minted 2), by rw [List.mem_singleton.mp hd]; rfl, rfl⟩
  exact ⟨hok, delete_takes_first_permitted rfl (inserted_filledWith _) hids hok⟩

/-- Ids that are not told apart lead to the wrong document: that of somebody else goes, for its id
is the same number in another width, and the user's own stays, for its id is a list. -/
theorem delete_takes_denied :
    (twoWidths.Inserted ∧ (ofDeleter.delete [] .first twoWidths).1.result = .ok 1 ∧
      ¬ ofDeleter.TakesFirstPermitted [] twoWidths 1) ∧
    (listForId.Inserted ∧ (ofDeleter.delete [] .first listForId).1.result = .ok 0 ∧
      ¬ ofDeleter.TakesFirstPermitted [] listForId 0) := by
  constructor
  · refine ⟨inserted_filledWith _, rfl, ?_⟩
    rintro ⟨query, hquery, hdeleted⟩
    cases hquery
    have hkept := congrArg (fun outcome => outcome.2.documents.map Document.id) hdeleted
    change [Value.int64 1] = [Value.int32 1] at hkept
    cases hkept
  · refine ⟨inserted_filledWith _, rfl, ?_⟩
    rintro ⟨query, hquery, hdeleted⟩
    cases hquery
    have hcount := congrArg Prod.fst hdeleted
    change 0 = 1 at hcount
    cases hcount

end Guard

end DocGuard
