import DocGuard.Proofs.Visibility

/-!
# What a deletion leaves

A deletion without a fault splits the documents into those that it keeps and those that it removes.
On the way all documents are out of the collection, and a fault brings none of them back: it
publishes nothing, and the collection is empty afterwards. The only safe deletions are those with a
filter that was seen to be decided for every document before.
-/

namespace DocGuard
namespace Collection

variable {filter : Document} {extent : Extent} {documents : List Document} {e : Fault}

/-! ## Deletions without a fault -/

/-- A collection without the documents that have a property, and the number of documents that this
takes away. -/
def withoutAll (c : Collection) (p : Document → Bool) : Nat × Collection :=
  ((c.documents.filter p).length,
    { c with documents := c.documents.filter fun d => !p d }.publish
      ((c.documents.filter p).map (.ofDelete c.name)))

theorem withoutAll_of_forall_not {c : Collection} {p : Document → Bool}
    (h : ∀ d ∈ c.documents, ¬ p d = true) : c.withoutAll p = (0, c) := by
  have hnone : c.documents.filter p = [] := List.filter_eq_nil_iff.mpr h
  have hall : (c.documents.filter fun d => !p d) = c.documents :=
    List.filter_eq_self.mpr fun d hd => by rw [Bool.eq_false_iff.mpr (h d hd)]; rfl
  have hhistory : c.history ++ [] = c.history := List.append_nil c.history
  simp only [withoutAll, publish, hnone, hall, List.map_nil, hhistory, List.length_nil]

theorem deletePass_every_eq (h : ∀ d ∈ documents, ∃ here, matchesFilter d filter = .ok here) :
    deletePass filter .every documents =
      .ok (documents.filter fun d => !satisfies filter d, documents.filter (satisfies filter)) := by
  induction documents with
  | nil => rfl
  | cons d rest ih =>
    obtain ⟨here, hhere⟩ := h d List.mem_cons_self
    have hrest := ih fun e he => h e (List.mem_cons_of_mem d he)
    have hsatisfies := satisfies_of_ok hhere
    rw [List.filter_cons, List.filter_cons, hsatisfies]
    cases here with
    | true => rw [deletePass_every hhere, hrest]; rfl
    | false => rw [deletePass_cons_false hhere, hrest]; rfl

theorem delete_every_eq {c : Collection}
    (h : ∀ d ∈ c.documents, ∃ here, matchesFilter d filter = .ok here) :
    delete filter .every c =
      (.ok (c.withoutAll (satisfies filter)).1, (c.withoutAll (satisfies filter)).2) := by
  unfold delete withoutAll
  rw [deletePass_every_eq h]

/-! ## Deletions with a fault -/

/-- Whether a deletion meets a fault: some document makes the filter fail, and the deletion gets as
far, for the filter can be decided in front of it and finds nothing there that ends the deletion. -/
def MeetsFault (filter : Document) (extent : Extent) (documents : List Document) (e : Fault) :
    Prop :=
  ∃ front d rest, documents = front ++ d :: rest ∧ matchesFilter d filter = .error e ∧
    ∀ b ∈ front, ∃ here, matchesFilter b filter = .ok here ∧ (here = true → extent = .every)

theorem MeetsFault.nonempty (h : MeetsFault filter extent documents e) : documents ≠ [] := by
  obtain ⟨front, d, rest, rfl, -⟩ := h
  exact List.append_ne_nil_of_right_ne_nil front (List.cons_ne_nil d rest)

theorem meetsFault_cons_of_error {d : Document} {e' : Fault}
    (h : matchesFilter d filter = .error e') (rest : List Document) :
    MeetsFault filter extent (d :: rest) e ↔ e' = e := by
  constructor
  · rintro ⟨front, d', rest', hsplit, hfault, hfront⟩
    rcases List.cons_eq_append_iff.mp hsplit with ⟨-, hcons⟩ | ⟨front', rfl, -⟩
    · cases hcons
      rw [h] at hfault
      exact Except.error.inj hfault
    · obtain ⟨here, hhere, -⟩ := hfront d List.mem_cons_self
      rw [h] at hhere
      cases hhere
  · rintro rfl
    exact ⟨[], d, rest, rfl, h, fun b hb => absurd hb List.not_mem_nil⟩

theorem meetsFault_cons_of_ok {d : Document} {here : Bool} (h : matchesFilter d filter = .ok here)
    (rest : List Document) :
    MeetsFault filter extent (d :: rest) e ↔
      (here = true → extent = .every) ∧ MeetsFault filter extent rest e := by
  constructor
  · rintro ⟨front, d', rest', hsplit, hfault, hfront⟩
    rcases List.cons_eq_append_iff.mp hsplit with ⟨-, hcons⟩ | ⟨front', rfl, hrest⟩
    · cases hcons
      rw [h] at hfault
      cases hfault
    · obtain ⟨here', hhere', hends⟩ := hfront d List.mem_cons_self
      rw [h] at hhere'
      cases hhere'
      exact ⟨hends, front', d', rest', hrest, hfault,
        fun b hb => hfront b (List.mem_cons_of_mem d hb)⟩
  · rintro ⟨hends, front, d', rest', rfl, hfault, hfront⟩
    refine ⟨d :: front, d', rest', rfl, hfault, fun b hb => ?_⟩
    rcases List.mem_cons.mp hb with rfl | hb
    · exact ⟨here, h, hends⟩
    · exact hfront b hb

theorem deletePass_eq_error :
    deletePass filter extent documents = .error e ↔ MeetsFault filter extent documents e := by
  induction documents with
  | nil => exact ⟨(nomatch ·), fun h => absurd rfl h.nonempty⟩
  | cons d rest ih =>
    cases hhere : matchesFilter d filter with
    | error e' =>
      rw [deletePass_cons_error hhere, meetsFault_cons_of_error hhere]
      exact ⟨Except.error.inj, congrArg Except.error⟩
    | ok here =>
      rw [meetsFault_cons_of_ok hhere, ← ih]
      cases here with
      | false =>
        rw [deletePass_cons_false hhere]
        cases deletePass filter extent rest <;> simp [Except.map]
      | true =>
        -- the first match ends a deletion of one document, so that nothing behind it is read
        cases extent with
        | first => rw [deletePass_first hhere]; simp
        | every =>
          rw [deletePass_every hhere]
          cases deletePass filter .every rest <;> simp [Except.map]

theorem not_meetsFault (h : ∀ d ∈ documents, ∃ here, matchesFilter d filter = .ok here) :
    ¬ MeetsFault filter extent documents e := by
  rintro ⟨front, d, rest, rfl, hfault, -⟩
  obtain ⟨here, hhere⟩ := h d (List.mem_append_right front List.mem_cons_self)
  rw [hfault] at hhere
  cases hhere

theorem delete_eq_error {c : Collection} :
    (delete filter extent c).1 = .error e ↔ MeetsFault filter extent c.documents e := by
  rw [← deletePass_eq_error]
  unfold delete
  cases deletePass filter extent c.documents with
  | error e' => rw [Except.error.injEq, Except.error.injEq]
  | ok pass => exact ⟨(nomatch ·), (nomatch ·)⟩

theorem delete_of_error {c : Collection} (h : (delete filter extent c).1 = .error e) :
    (delete filter extent c).2 = { c with documents := [] } := by
  unfold delete at h ⊢
  cases hpass : deletePass filter extent c.documents with
  | error e' => rfl
  | ok pass => rw [hpass] at h; cases h

/-- A deletion fails exactly where it gets to a document for which its filter cannot be decided. It
then has published nothing and has lost every document, of which there was at least one. Where a
search with its filter succeeds it does not fail. -/
theorem delete_error_loses_documents (c : Collection) (filter : Document) (extent : Extent) :
    (∀ e, (delete filter extent c).1 = .error e ↔ MeetsFault filter extent c.documents e) ∧
      (∀ e, (delete filter extent c).1 = .error e →
        c.documents ≠ [] ∧ (delete filter extent c).2 = { c with documents := [] }) ∧
      ∀ found, c.find filter .all = .ok found →
        ∃ count, (delete filter extent c).1 = .ok count := by
  refine ⟨fun e => delete_eq_error, fun e he => ?_, fun found hfound => ?_⟩
  · exact ⟨(delete_eq_error.mp he).nonempty, delete_of_error he⟩
  · obtain ⟨selected, hselected, -⟩ := bind_eq_ok.mp hfound
    cases hdelete : (delete filter extent c).1 with
    | ok count => exact ⟨count, rfl⟩
    | error e =>
      refine absurd (delete_eq_error.mp hdelete) (not_meetsFault fun d hd => ?_)
      exact exists_matchesFilter_of_select hselected hd

def bobAndAnn : Collection :=
  .ofDocuments "todos" [
    [("_id", .int32 1), ("owner", .str "bob")],
    [("_id", .int32 2), ("owner", .str "ann")]]

/-- A filter for one of the users, with an operator that does not exist. -/
def annAndUnknown : Document :=
  [("owner", .str "ann"), ("title", .doc [("$like", .str "a")])]

/-- Deleting todos of one user with such a filter loses those of both. -/
theorem delete_loses_both :
    (delete annAndUnknown .first bobAndAnn).1 = .error (.operatorNotFound "$like") ∧
      bobAndAnn.documents ≠ [] ∧
      (delete annAndUnknown .first bobAndAnn).2 = { bobAndAnn with documents := [] } := by
  have herror : (delete annAndUnknown .first bobAndAnn).1 =
      .error (.operatorNotFound "$like") := rfl
  exact ⟨herror, (delete_error_loses_documents bobAndAnn annAndUnknown .first).2.1 _ herror⟩

/-- So a failed deletion does not leave the collection as it was. -/
theorem delete_error_changes_store :
    ¬ ∀ (c : Collection) (filter : Document) (extent : Extent) (e : Fault),
      (delete filter extent c).1 = .error e → (delete filter extent c).2 = c := by
  intro hall
  have hintact := hall bobAndAnn annAndUnknown .every (.operatorNotFound "$like") rfl
  exact absurd (congrArg (fun c => c.documents.length) hintact) (by decide)

end Collection
end DocGuard
