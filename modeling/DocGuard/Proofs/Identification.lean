import DocGuard.Proofs.ChangeLog
import DocGuard.Proofs.InterruptedUpdate
import DocGuard.Proofs.Path

/-!
# Ids through runs of edits

An insertion gives a document an id that no other has, and a deletion gives none and takes none
from those that stay. An update looks at no id: it can give a document the id of another one, or
leave it without. As long as each update leaves the ids as they were, every document has one and
none repeats, whatever else is done and whether it succeeds or not. Stages that name no path into
the id, and no projection without it, are such an update.
-/

namespace DocGuard

/-! ## Paths beside a name -/

/-- Whether a path leads past a name: its first segment is another one. -/
def pathLeadsPast (name path : String) : Bool :=
  (segments path).head? != some name

theorem pathLeadsPast_iff {name path s : String} {rest : List String}
    (h : segments path = s :: rest) : pathLeadsPast name path = true ↔ name ≠ s := by
  unfold pathLeadsPast
  rw [h, List.head?_cons, bne_iff_ne, ne_eq, Option.some.injEq, eq_comm]

namespace Document

variable {d d' : Document} {key path : String}

theorem get?_setWalk_of_ne {s : String} (h : key ≠ s) (rest : List String) (v : Value) :
    (d.setWalk (s :: rest) v).get? key = d.get? key := by
  cases rest with
  | nil => exact get?_insert_of_ne d v h
  | cons t rest => exact get?_insert_of_ne d _ h

theorem get?_removeWalk_of_ne {s : String} (h : key ≠ s) (rest : List String) :
    (d.removeWalk (s :: rest)).get? key = d.get? key := by
  cases rest with
  | nil => exact get?_erase_of_ne d h
  | cons t rest =>
    unfold removeWalk
    split
    · exact get?_insert_of_ne d _ h
    · rfl

theorem get?_assignPath (h : pathLeadsPast key path = true) (found : Option Value) :
    (d.assignPath path found).get? key = d.get? key := by
  obtain ⟨s, rest, hsegments⟩ := exists_segments path
  have hne : key ≠ s := (pathLeadsPast_iff hsegments).mp h
  cases found with
  | some v =>
    show (d.setWalk (segments path) v).get? key = d.get? key
    rw [hsegments, get?_setWalk_of_ne hne]
  | none =>
    show (d.removeWalk (segments path)).get? key = d.get? key
    rw [hsegments, get?_removeWalk_of_ne hne]

theorem get?_filter {keep : String → Bool} (h : keep key = true) (d : Document) :
    Document.get? (d.filter fun e => keep e.1) key = d.get? key := by
  induction d with
  | nil => rfl
  | cons e rest ih =>
    obtain ⟨k, v⟩ := e
    by_cases hk : k = key
    · subst hk
      simp [h, get?_cons]
    · by_cases hkeep : keep k = true <;> simp [hkeep, get?_cons, hk, ih]

/-- Changes that each leave what is under a name leave it together. -/
theorem get?_foldl {α : Type} {change : Document → α → Document} {changes : List α}
    (h : ∀ d, ∀ a ∈ changes, (change d a).get? key = d.get? key) (d : Document) :
    (changes.foldl change d).get? key = d.get? key := by
  let motive (d' : Document) : Prop := d'.get? key = d.get? key
  exact List.foldlRecOn (motive := motive) changes change rfl
    fun d' hd' a ha => (h d' a ha).trans hd'

end Document

/-! ## Stages that leave the id -/

theorem keys_assignedValues {d : Document} {fields : List (String × Value)}
    {values : List (String × Option Value)} (h : assignedValues d fields = .ok values) :
    values.map Prod.fst = fields.map Prod.fst := by
  induction fields generalizing values with
  | nil =>
    cases h
    rfl
  | cons e rest ih =>
    obtain ⟨found, -, h⟩ := bind_eq_ok.mp h
    obtain ⟨others, hothers, h⟩ := bind_eq_ok.mp h
    cases h
    rw [List.map_cons, List.map_cons, ih hothers]

theorem Document.get?_assign {fields d d' : Document} {key : String}
    (hfields : fields.keys.all (pathLeadsPast key) = true) (h : Document.assign fields d = .ok d') :
    d'.get? key = d.get? key := by
  obtain ⟨values, hvalues, h⟩ := bind_eq_ok.mp h
  cases h
  refine Document.get?_foldl (fun d e he => ?_) d
  have hkey : e.1 ∈ fields.keys := by
    unfold keys
    rw [← keys_assignedValues hvalues]
    exact List.mem_map_of_mem he
  exact Document.get?_assignPath (List.all_eq_true.mp hfields e.1 hkey) e.2

theorem Document.get?_project {projection : Document} (h : keepsId projection = true)
    (d : Document) : (Document.project projection d).get? "_id" = d.get? "_id" := by
  unfold Document.project
  split
  · exact Document.get?_filter (by simp [keepsName, h]) d
  · refine Document.get?_foldl (fun d key hkey => ?_) d
    -- only names other than the id are left to remove
    have hne : key ≠ "_id" := by
      rintro rfl
      simp [h] at hkey
    exact Document.get?_erase_of_ne d hne.symm

/-- Whether a stage names no path into the id and, where it keeps or removes names, keeps it. -/
def Transform.sparesId : Transform → Bool
  | .assign fields => fields.keys.all (pathLeadsPast "_id")
  | .unset paths => paths.all (pathLeadsPast "_id")
  | .project projection => keepsId projection
  | _ => true

theorem Transform.get?_id_of_apply {t : Transform} {d d' : Document} (hspares : t.sparesId = true)
    (h : t.apply [d] = .ok [d']) : d'.get? "_id" = d.get? "_id" := by
  cases t with
  | keep filter =>
    have hmem : d' ∈ [d] := (select_sublist h).subset (List.mem_singleton_self d')
    rw [List.mem_singleton.mp hmem]
  | limit count => rw [apply_limit_single h]
  | skip count => rw [(apply_skip_single h).2]
  | assign fields =>
    obtain ⟨hassign, -⟩ := List.forall₂_cons.mp (mapM_eq_ok.mp h)
    exact Document.get?_assign hspares hassign
  | unset paths =>
    cases h
    refine Document.get?_foldl (fun d path hpath => ?_) d
    exact Document.get?_assignPath (List.all_eq_true.mp hspares path hpath) none
  | project projection =>
    cases h
    exact Document.get?_project hspares d

/-- Whether a stage spares the id. One that cannot be read changes nothing. -/
def stageSparesId (stage : Document) : Bool :=
  match Transform.read stage with
  | .ok t => t.sparesId
  | .error _ => true

theorem get?_id_of_runPipeline {stages : List Document} {d d' : Document}
    (hspare : stages.all stageSparesId = true) (h : runPipeline stages [d] = .ok [d']) :
    d'.get? "_id" = d.get? "_id" := by
  induction stages generalizing d with
  | nil =>
    cases h
    rfl
  | cons stage rest ih =>
    obtain ⟨hstage, hrest⟩ := Bool.and_eq_true_iff.mp hspare
    obtain ⟨t, -, hread, -, -⟩ := runPipeline_cons_eq_ok.mp h
    obtain ⟨mid, happly, hrun⟩ := runPipeline_cons_single hread h
    unfold stageSparesId at hstage
    rw [hread] at hstage
    exact (ih hrest hrun).trans (Transform.get?_id_of_apply hstage happly)

/-- Whether a modification spares the id. One that cannot be made out changes nothing. -/
def Modification.sparesId (modification : Modification) : Bool :=
  match modification.toStages with
  | .ok pipeline => pipeline.all stageSparesId
  | .error _ => true

namespace Collection

/-! ## Ids in a collection -/

def idsOf (documents : List Document) : List (Option Value) :=
  documents.map (Document.get? · "_id")

/-- Whether every document has an id, and none repeats. -/
structure Identified (documents : List Document) : Prop where
  has : ∀ d ∈ documents, d.has "_id" = true
  distinct : DistinctIds documents

variable {documents documents' : List Document} {c : Collection} {filter : Document}
  {stages : List Document} {extent : Extent}

theorem identified_iff :
    Identified documents ↔ (∀ id ∈ idsOf documents, id.isSome = true) ∧
      (idsOf documents).Pairwise fun id id' => Value.isJust id (id'.getD .null) = false := by
  unfold idsOf
  rw [List.forall_mem_map, List.pairwise_map]
  exact ⟨fun h => ⟨h.has, h.distinct⟩, fun h => ⟨h.1, h.2⟩⟩

theorem Identified.of_idsOf (h : Identified documents) (hids : idsOf documents' = idsOf documents) :
    Identified documents' := by
  rw [identified_iff, hids]
  exact identified_iff.mp h

theorem Identified.sublist (h : Identified documents) (hsub : documents'.Sublist documents) :
    Identified documents' :=
  ⟨fun d hd => h.has d (hsub.subset hd), h.distinct.sublist hsub⟩

/-! ## Insertions -/

theorem has_id_withId (serial : Nat) (d : Document) : (withId serial d).has "_id" = true := by
  unfold withId
  split
  · next hhas => exact hhas
  · simp [Document.has]

theorem identified_insertOne (h : Identified c.documents) (d : Document) :
    Identified (insertOne d c).2.documents := by
  refine ⟨?_, distinctIds_insertOne h.distinct d⟩
  unfold insertOne
  simp only
  split
  · exact h.has
  · exact List.forall_mem_append.mpr ⟨h.has, List.forall_mem_singleton.mpr (has_id_withId _ d)⟩

theorem identified_insertMany (h : Identified c.documents) (batch : List Document) :
    Identified (insertMany batch c).2.documents := by
  refine ⟨?_, distinctIds_insertMany h.distinct batch⟩
  unfold insertMany
  split
  · next stored _ hbatch =>
    have hstored : ∀ d ∈ stored, d.has "_id" = true := forall_of_prepareBatch
      (List.forall_mem_nil _) (fun d _ serial => has_id_withId serial d) hbatch
    exact List.forall_mem_append.mpr ⟨h.has, hstored⟩
  · exact h.has

/-! ## Updates -/

theorem get?_id_renewed (hspare : stages.all stageSparesId = true) (filter d : Document) :
    (renewed filter stages d).get? "_id" = d.get? "_id" := by
  unfold renewed
  split
  · next after _ hafter =>
    have hid := get?_id_of_runPipeline hspare (updated_eq_ok.mp hafter)
    rcases kept_eq_or d after with hkept | hkept <;> rw [hkept]
    exact hid
  · rfl

/-- Whether it succeeds or not, a pass with stages that spare the id leaves the ids. -/
theorem idsOf_updatePass (name : String) (hspare : stages.all stageSparesId = true) :
    idsOf (updatePass name filter stages extent documents).documents = idsOf documents := by
  induction documents with
  | nil => rfl
  | cons d rest ih =>
    have hd := get?_id_renewed hspare filter d
    rcases updatePass_cases filter stages extent d with
      ⟨e, hfault⟩ | hpast | ⟨rfl, hmatch, after, hafter⟩
    · rw [updatePass_of_faultAt name extent hfault]
    · rw [documents_updatePass_of_goesPast name hpast]
      show (renewed filter stages d).get? "_id" :: _ = d.get? "_id" :: idsOf rest
      rw [hd]
      exact congrArg _ ih
    · rw [updatePass_first name hmatch hafter, ← renewed_of_true hmatch hafter]
      show (renewed filter stages d).get? "_id" :: _ = d.get? "_id" :: idsOf rest
      rw [hd]
      rfl

theorem idsOf_update {modification : Modification} (h : modification.sparesId = true)
    (c : Collection) (filter : Document) (extent : Extent) :
    idsOf (update filter modification extent c).2.documents = idsOf c.documents := by
  unfold Modification.sparesId at h
  unfold update
  cases hstages : modification.toStages with
  | error e => rfl
  | ok stages =>
    rw [hstages] at h
    simp only
    -- with or without a fault the documents are those of the pass
    split <;> exact idsOf_updatePass c.name h

/-! ## Deletions -/

theorem deletePass_sublist {others removed : List Document}
    (h : deletePass filter extent documents = .ok (others, removed)) :
    others.Sublist documents := by
  induction documents generalizing others removed with
  | nil =>
    cases h
    exact .slnil
  | cons d rest ih =>
    cases hhere : matchesFilter d filter with
    | error e => rw [deletePass_cons_error hhere] at h; cases h
    | ok here =>
      cases here with
      | false =>
        rw [deletePass_cons_false hhere] at h
        obtain ⟨pass, hrest, hkept⟩ := except_map_eq_ok.mp h
        cases hkept
        exact (ih hrest).cons_cons d
      | true =>
        cases extent with
        | first =>
          rw [deletePass_first hhere] at h
          cases h
          exact List.sublist_cons_self d _
        | every =>
          rw [deletePass_every hhere] at h
          obtain ⟨pass, hrest, htaken⟩ := except_map_eq_ok.mp h
          cases htaken
          exact (ih hrest).cons d

theorem delete_sublist (c : Collection) (filter : Document) (extent : Extent) :
    (delete filter extent c).2.documents.Sublist c.documents := by
  unfold delete
  split
  · exact List.nil_sublist c.documents
  · next hpass => exact deletePass_sublist hpass

/-! ## Runs -/

end Collection

/-- Whether an edit leaves the ids of a collection as they are, as far as it is an update. -/
def Edit.LeavesIds (c : Collection) : Edit → Prop
  | .update filter modification extent =>
    Collection.idsOf (Collection.update filter modification extent c).2.documents =
      Collection.idsOf c.documents
  | _ => True

namespace Collection

/-- The collections that edits lead to from an empty one, with or without success, as long as the
updates leave the ids. -/
inductive Reached : Collection → Prop
  | empty (name : String) : Reached (.ofDocuments name [])
  | step {c : Collection} (h : Reached c) (edit : Edit) (hids : edit.LeavesIds c) :
      Reached (edit.run c).2

def afterAll (c : Collection) (edits : List Edit) : Collection :=
  edits.foldl (fun c edit => (edit.run c).2) c

theorem identified_run {c : Collection} (h : Identified c.documents) {edit : Edit}
    (hids : edit.LeavesIds c) : Identified (edit.run c).2.documents := by
  cases edit with
  | insertOne d => exact identified_insertOne h d
  | insertMany batch => exact identified_insertMany h batch
  | update filter modification extent => exact h.of_idsOf hids
  | delete filter extent => exact h.sublist (delete_sublist c filter extent)

theorem Reached.identified {c : Collection} (h : Reached c) : Identified c.documents := by
  induction h with
  | empty name => exact ⟨List.forall_mem_nil _, .nil⟩
  | step _ edit hids ih => exact identified_run ih hids

/-- In every collection that edits lead to, each document has an id and no id repeats, as long as
the updates among them leave the ids. A further update by a modification that spares the id leaves
them, with any filter, for one document or for every one. -/
theorem ids_stay_apart {c : Collection} (h : Reached c) :
    Identified c.documents ∧
      ∀ modification : Modification, modification.sparesId = true →
        ∀ filter extent, (Edit.update filter modification extent).LeavesIds c :=
  ⟨h.identified, fun _ hspares filter extent => idsOf_update hspares c filter extent⟩

/-- Two todos come in, the second without an id; both are done, and the first goes. -/
def todosDone : Collection :=
  (Collection.ofDocuments "todos" []).afterAll [
    .insertMany [[("_id", .int32 1), ("owner", .str "ann")], [("owner", .str "bob")]],
    .update [] (.operators [("$set", .doc [("done", .bool true)])]) .every,
    .delete [("owner", .str "ann")] .first]

/-- The one left has an id. -/
theorem todosDone_identified :
    todosDone.documents = [[("owner", .str "bob"), ("_id", .objectId (.minted 1)),
        ("done", .bool true)]] ∧
      Reached todosDone ∧ Identified todosDone.documents := by
  have hinserted : Reached ((Edit.insertMany [[("_id", .int32 1), ("owner", .str "ann")],
      [("owner", .str "bob")]]).run (ofDocuments "todos" [])).2 :=
    .step (.empty "todos") _ trivial
  have hreached : Reached todosDone := by
    refine .step (.step hinserted _ ?_) _ trivial
    exact (ids_stay_apart hinserted).2 _ rfl [] .every
  exact ⟨rfl, hreached, (ids_stay_apart hreached).1⟩

/-- But an update can give a document the id of another, and take it away. -/
theorem updates_spoil_ids :
    (¬ ∀ (name : String) (edits : List Edit),
      DistinctIds ((ofDocuments name []).afterAll edits).documents) ∧
    ¬ ∀ (name : String) (edits : List Edit),
      ∀ d ∈ ((ofDocuments name []).afterAll edits).documents, d.has "_id" = true := by
  let two := Edit.insertMany [[("_id", .int32 1)], [("_id", .int32 2)]]
  let takeSecond := Edit.update [("_id", .int32 1)]
    (.operators [("$set", .doc [("_id", .int32 2)])]) .first
  let drop := Edit.update [] (.operators [("$unset", .doc [("_id", .str "")])]) .first
  constructor
  · intro hall
    have hapart := List.rel_of_pairwise_cons (hall "todos" [two, takeSecond])
      (List.mem_singleton_self _)
    exact absurd hapart (by decide)
  · intro hall
    exact absurd (hall "todos" [two, drop] [] List.mem_cons_self) (by decide)

end Collection
end DocGuard
