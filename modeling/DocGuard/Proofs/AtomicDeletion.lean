import DocGuard.Proofs.Deletion
import DocGuard.Proofs.GuardedDeletion

/-!
# Guarded deletions fail closed

A guarded deletion has looked through the whole collection with its query before it issues a query
that is narrower. The narrower one can be decided for every document as well, so that the write
behind the decision meets no fault, and a deletion that is refused or fails leaves the collection as
it was. What a deletion of every document takes, the user may delete.
-/

namespace DocGuard

namespace Guard

variable {g : Guard} {c : Collection} {filter : Document} {extent : Extent}

/-! ## Refused deletions -/

theorem exists_deleteSelected {query : Document} {found : List Document}
    (hfound : select query c.documents = .ok found) (ids : List Value) (extent : Extent) :
    ∃ count, (deleteSelected extent
      (if ids.isEmpty then none else some (narrowToIds query ids)) c).1 = .ok count := by
  cases ids.isEmpty with
  | true => exact ⟨0, rfl⟩
  | false =>
    have hdecided := exists_matchesFilter_narrowToIds hfound ids
    cases hdelete : (Collection.delete (narrowToIds query ids) extent c).1 with
    | ok count => exact ⟨count, hdelete⟩
    -- the search has shown that no document makes the query fail, so the narrower one cannot either
    | error e =>
      exact absurd (Collection.delete_eq_error.mp hdelete) (Collection.not_meetsFault hdecided)

theorem delete_error_unchanged {e : Fault} (hsystem : g.asSystem = false)
    (herror : (g.delete filter extent c).1.result = .error e) :
    (g.delete filter extent c).2 = c := by
  unfold delete at herror ⊢
  rw [hsystem, if_neg (by decide)] at herror ⊢
  refine Traced.thenWrite_unchanged (fun selected hdecided => ?_) herror
  cases extent with
  | first =>
    obtain ⟨query, found, ids, -, hfound, -, rfl⟩ := decideDeleteOne_eq_ok hdecided
    exact exists_deleteSelected hfound ids .first
  | every =>
    obtain ⟨query, found, -, hfound, -, rfl⟩ := decideDeleteMany_eq_ok hdecided
    have hids : found.isEmpty = (found.map Document.id).isEmpty := List.isEmpty_map.symm
    rw [hids]
    exact exists_deleteSelected hfound _ .every

/-! ## Deleting every document -/

/-- A deletion of every document that succeeds has found that the user may delete each document that
the narrowed query matches. It takes those of them that `$in` finds by one of their ids. -/
theorem exists_withoutAll_of_delete {count : Nat} (hsystem : g.asSystem = false)
    (hok : (g.delete filter .every c).1.result = .ok count) :
    ∃ query found, g.narrow filter = .ok query ∧ select query c.documents = .ok found ∧
      (∀ d ∈ found, g.mayDelete d = true) ∧
      (count, (g.delete filter .every c).2) = c.withoutAll fun d =>
        satisfies query d && (found.map Document.id).any d.answersTo := by
  unfold delete at hok ⊢
  rw [hsystem, if_neg (by decide)] at hok ⊢
  obtain ⟨selected, hdecided, hwrite, hstore⟩ := Traced.thenWrite_eq_ok hok
  obtain ⟨query, found, hquery, hfound, hmay, rfl⟩ := decideDeleteMany_eq_ok hdecided
  refine ⟨query, found, hquery, hfound, hmay, ?_⟩
  rw [hstore]
  cases hempty : found.isEmpty with
  | true =>
    -- no query is issued where nothing is found
    rw [hempty] at hwrite
    cases hwrite
    refine (Collection.withoutAll_of_forall_not fun d _ => ?_).symm
    rw [List.isEmpty_iff.mp hempty, List.map_nil, List.any_nil, Bool.and_false]
    decide
  | false =>
    rw [hempty] at hwrite
    have hdelete := Collection.delete_every_eq
      (exists_matchesFilter_narrowToIds hfound (found.map Document.id))
    rw [satisfies_narrowToIds] at hdelete
    change (Collection.delete (narrowToIds query (found.map Document.id)) .every c).1 = _ at hwrite
    change (count, (Collection.delete (narrowToIds query (found.map Document.id)) .every c).2) = _
    rw [hdelete] at hwrite ⊢
    cases hwrite
    rfl

/-- Whether a deletion of every document takes only what it may take: documents that the narrowed
query matches and that the user may delete, among them each that `$in` finds by its own id. The
others stay as and where they are, and the taken ones are counted and published in their order. -/
def TakesOnlyPermitted (g : Guard) (filter : Document) (c : Collection) (count : Nat) : Prop :=
  ∃ query taken, g.narrow filter = .ok query ∧
    (∀ d ∈ c.documents, taken d = true →
      matchesFilter d query = .ok true ∧ g.mayDelete d = true) ∧
    (∀ d ∈ c.documents, matchesFilter d query = .ok true → d.answersTo d.id = true →
      taken d = true) ∧
    (count, (g.delete filter .every c).2) = c.withoutAll taken

theorem takesOnlyPermitted_of_delete {count : Nat} (hsystem : g.asSystem = false)
    (hok : (g.delete filter .every c).1.result = .ok count) :
    g.TakesOnlyPermitted filter c count := by
  obtain ⟨query, found, hquery, hfound, hmay, hdeleted⟩ := exists_withoutAll_of_delete hsystem hok
  have hmem : ∀ d ∈ c.documents, satisfies query d = true → d ∈ found := by
    intro d hd hmatch
    rw [select_eq_filter hfound]
    exact List.mem_filter.mpr ⟨hd, hmatch⟩
  refine ⟨query, _, hquery, fun d hd htaken => ?_, fun d hd hmatch hself => ?_, hdeleted⟩
  · have hd' := hmem d hd (Bool.and_eq_true_iff.mp htaken).1
    exact ⟨((mem_select hfound).mp hd').2, hmay d hd'⟩
  · have hmatches : satisfies query d = true := satisfies_of_ok hmatch
    have hid : d.id ∈ found.map Document.id := List.mem_map_of_mem (hmem d hd hmatches)
    exact Bool.and_eq_true_iff.mpr ⟨hmatches, List.any_eq_true.mpr ⟨d.id, hid, hself⟩⟩

/-- One document that the narrowed query matches and that the user may not delete is enough for a
deletion of every document to fail. -/
theorem exists_delete_error {query d : Document} (hsystem : g.asSystem = false)
    (hquery : g.narrow filter = .ok query) (hd : d ∈ c.documents)
    (hmatch : matchesFilter d query = .ok true) (hdenied : g.mayDelete d = false) :
    ∃ e, (g.delete filter .every c).1.result = .error e := by
  cases hresult : (g.delete filter .every c).1.result with
  | error e => exact ⟨e, rfl⟩
  | ok count =>
    obtain ⟨query', found, hquery', hfound, hmay, -⟩ :=
      exists_withoutAll_of_delete hsystem hresult
    rw [hquery] at hquery'
    cases hquery'
    rw [hmay d ((mem_select hfound).mpr ⟨hd, hmatch⟩)] at hdenied
    cases hdenied

/-- A guarded deletion fails closed. Where it fails, the collection and what it published are as
they were. A deletion of every document fails for one document that is not permitted, and takes
only what is permitted where it succeeds. -/
theorem delete_fails_closed (hsystem : g.asSystem = false) (c : Collection) (filter : Document) :
    (∀ extent e, (g.delete filter extent c).1.result = .error e →
      (g.delete filter extent c).2 = c) ∧
    (∀ query d, g.narrow filter = .ok query → d ∈ c.documents →
      matchesFilter d query = .ok true → g.mayDelete d = false →
      ∃ e, (g.delete filter .every c).1.result = .error e) ∧
    ∀ count, (g.delete filter .every c).1.result = .ok count →
      g.TakesOnlyPermitted filter c count := by
  refine ⟨fun extent e herror => delete_error_unchanged hsystem herror, ?_, fun count hok => ?_⟩
  · exact fun query d hquery hd hmatch hdenied =>
      exists_delete_error hsystem hquery hd hmatch hdenied
  · exact takesOnlyPermitted_of_delete hsystem hok

/-- A user who may delete their own documents deletes these, and together with the document of
somebody else none. -/
theorem delete_takes_own_or_none :
    (ofDeleter.delete [("owner", .str "ann")] .every (todosWith "bob")).1.result = .ok 1 ∧
      ofDeleter.TakesOnlyPermitted [("owner", .str "ann")] (todosWith "bob") 1 ∧
      (∃ e, (ofDeleter.delete [] .every (todosWith "bob")).1.result = .error e) ∧
      (ofDeleter.delete [] .every (todosWith "bob")).2 = todosWith "bob" := by
  have hown : (ofDeleter.delete [("owner", .str "ann")] .every (todosWith "bob")).1.result =
      .ok 1 := rfl
  have hrefused : (ofDeleter.delete [] .every (todosWith "bob")).1.result =
      .error .deleteNotPermitted := rfl
  have hall := delete_fails_closed (g := ofDeleter) rfl (todosWith "bob") []
  refine ⟨hown, (delete_fails_closed (g := ofDeleter) rfl _ _).2.2 1 hown, ?_, ?_⟩
  · exact hall.2.1 [] [("_id", .int32 2), ("owner", .str "bob")] rfl (.tail _ (.head _)) rfl rfl
  · exact hall.1 .every _ hrefused

end Guard

end DocGuard
