import DocGuard.Guard.Reading
import DocGuard.Proofs.AtomicDeletion
import DocGuard.Proofs.GuardedInsertion

/-!
# Collections without rules

Without roles and row filters nothing is narrowed and every document passes. A guard for a user
still does more than one for the system: it compares what is written with itself, tries updates out
on all documents at once, and deletes by ids. Where none of this fails it does what the system does.
-/

namespace DocGuard

/-! ## Computations without calls -/

namespace Traced

variable {α β : Type}

theorem liftM_ok (a : α) : (liftM (Except.ok a : Except Fault α) : Traced α) = pure a := rfl

theorem gather_pure (f : β → α) (items : List β) :
    gather (items.map fun b => (pure (f b) : Traced α)) = pure (items.map f) := by
  induction items with
  | nil => rfl
  | cons b rest ih =>
    rw [List.map_cons, gather, ih]
    rfl

theorem forAll_pure {f : β → Traced Unit} {items : List β} (h : ∀ b ∈ items, f b = pure ()) :
    forAll f items = pure () := by
  induction items with
  | nil => rfl
  | cons b rest ih =>
    rw [forAll, h b List.mem_cons_self, ih fun b hb => h b (List.mem_cons_of_mem _ hb)]
    rfl

/-- A write that succeeds without a decision in front of it does the same behind one exactly where
that decision goes through; `P` is when it does. -/
theorem thenWrite_eq_iff {decision : Traced α} {a : α} {b : β} {write : α → Write β}
    {c : Collection} {P : Prop} (hpure : P → decision = pure a)
    (hok : ∀ x, decision.result = .ok x → P)
    (hsystem : ((pure a : Traced α).thenWrite write c).1.result = .ok b) :
    decision.thenWrite write c = (pure a : Traced α).thenWrite write c ↔ P := by
  constructor
  · intro hsame
    rw [← hsame] at hsystem
    obtain ⟨x, hx, -⟩ := thenWrite_eq_ok hsystem
    exact hok x hx
  · intro hp
    rw [hpure hp]

end Traced

/-! ## Deleting by ids -/

namespace Document

theorem get?_idEntry (d : Document) : d.idEntry.get? "_id" = d.get? "_id" := by
  unfold idEntry
  cases d.get? "_id" <;> rfl

theorem getPath_id (d : Document) : d.getPath "_id" = d.get? "_id" :=
  getPath_of_not_mem (by decide) d

theorem answersTo_of_idEntry_eq {d e : Document} (h : d.idEntry = e.idEntry) :
    d.answersTo = e.answersTo := by
  have hid : d.get? "_id" = e.get? "_id" := by
    rw [← get?_idEntry d, ← get?_idEntry e, h]
  funext id
  unfold answersTo
  rw [getPath_id, getPath_id, hid]

end Document

theorem first_eq_of_narrower {α : Type} {p r : α → Bool} {l : List α}
    (hr : ∀ a, r a = true → p a = true) (h : ∀ a ∈ (l.filter p).take 1, r a = true) :
    l.find? r = l.find? p ∧ l.eraseP r = l.eraseP p := by
  induction l with
  | nil => exact ⟨rfl, rfl⟩
  | cons a rest ih =>
    by_cases hp : p a = true
    · -- the first item with the wider property has the narrower one too
      rw [List.filter_cons_of_pos hp] at h
      have hra : r a = true := h a List.mem_cons_self
      rw [List.find?_cons_of_pos hra, List.find?_cons_of_pos hp, List.eraseP_cons_of_pos hra,
        List.eraseP_cons_of_pos hp]
      exact ⟨rfl, rfl⟩
    · rw [List.filter_cons_of_neg hp] at h
      have hra : ¬ r a = true := fun hra => hp (hr a hra)
      obtain ⟨hfind, herase⟩ := ih h
      rw [List.find?_cons_of_neg hra, List.find?_cons_of_neg hp, List.eraseP_cons_of_neg hra,
        List.eraseP_cons_of_neg hp, hfind, herase]
      exact ⟨rfl, rfl⟩

theorem Extent.mem_of_mem_cut {α : Type} {a : α} {found : List α} (extent : Extent)
    (h : a ∈ extent.cut found) : a ∈ found := by
  cases extent with
  | first => exact List.mem_of_mem_take h
  | every => exact h

namespace Collection

variable {c : Collection} {p q : Document → Bool}

/-- A collection without the documents that have a property, or without the first of them, and the
number of documents that this takes away. -/
def without (c : Collection) (extent : Extent) (p : Document → Bool) : Nat × Collection :=
  match extent with
  | .first => c.withoutFirst p
  | .every => c.withoutAll p

theorem without_of_forall_not (extent : Extent) (h : ∀ d ∈ c.documents, ¬ p d = true) :
    c.without extent p = (0, c) := by
  cases extent with
  | first => exact withoutFirst_of_forall_not h
  | every => exact withoutAll_of_forall_not h

theorem delete_eq_without {filter : Document} (extent : Extent)
    (h : ∀ d ∈ c.documents, ∃ here, matchesFilter d filter = .ok here) :
    delete filter extent c =
      (.ok (c.without extent (satisfies filter)).1, (c.without extent (satisfies filter)).2) := by
  cases extent with
  | first => exact delete_first_eq h
  | every => exact delete_every_eq h

theorem withoutFirst_and_eq_iff (hq : ∀ d e, d.idEntry = e.idEntry → q d = q e) :
    c.withoutFirst (fun d => p d && q d) = c.withoutFirst p ↔
      ∀ d ∈ (c.documents.filter p).take 1, q d = true := by
  constructor
  · intro hsame d hd
    have hfirst : c.documents.find? p = some d := by
      rw [← List.head?_filter]
      cases hfilter : c.documents.filter p with
      | nil => rw [hfilter] at hd; cases hd
      | cons e rest =>
        rw [hfilter] at hd
        rw [List.mem_singleton.mp hd]
        rfl
    unfold withoutFirst at hsame
    rw [hfirst] at hsame
    cases hother : c.documents.find? fun d => p d && q d with
    | none =>
      rw [hother] at hsame
      cases congrArg Prod.fst hsame
    | some e =>
      -- the change that is published tells which document was taken
      rw [hother] at hsame
      have hhistory : c.history ++ [Change.ofDelete c.name e] =
          c.history ++ [Change.ofDelete c.name d] := congrArg (fun out => out.2.history) hsame
      have hchange : Change.ofDelete c.name e = Change.ofDelete c.name d :=
        List.head_eq_of_cons_eq (List.append_cancel_left hhistory)
      have hboth := List.find?_some hother
      rw [← hq e d (congrArg Change.key hchange)]
      exact (Bool.and_eq_true_iff.mp hboth).2
  · intro hall
    have hnarrower : ∀ d, (p d && q d) = true → p d = true := fun d hd =>
      (Bool.and_eq_true_iff.mp hd).1
    have hboth : ∀ d ∈ (c.documents.filter p).take 1, (p d && q d) = true := by
      intro d hd
      have hp : p d = true := (List.mem_filter.mp (List.mem_of_mem_take hd)).2
      rw [hp, hall d hd]
      rfl
    obtain ⟨hfind, herase⟩ := first_eq_of_narrower hnarrower hboth
    unfold withoutFirst
    rw [hfind, herase]

theorem withoutAll_and_eq_iff :
    c.withoutAll (fun d => p d && q d) = c.withoutAll p ↔
      ∀ d ∈ c.documents.filter p, q d = true := by
  constructor
  · intro hsame
    have hlength : ((c.documents.filter p).filter q).length = (c.documents.filter p).length := by
      rw [List.filter_filter]
      refine Eq.trans ?_ (congrArg Prod.fst hsame)
      refine congrArg List.length (List.filter_congr fun d _ => ?_)
      exact Bool.and_comm (q d) (p d)
    exact List.length_filter_eq_length_iff.mp hlength
  · intro hall
    have hboth : ∀ d ∈ c.documents, (p d && q d) = p d := by
      intro d hd
      cases hp : p d with
      | false => rfl
      | true => exact hall d (List.mem_filter.mpr ⟨hd, hp⟩)
    have htaken : (c.documents.filter fun d => p d && q d) = c.documents.filter p :=
      List.filter_congr hboth
    have hkept : (c.documents.filter fun d => !(p d && q d)) = c.documents.filter fun d => !p d :=
      List.filter_congr fun d hd => by rw [hboth d hd]
    unfold withoutAll
    rw [htaken, hkept]

/-- A further property of ids changes nothing of what is taken away exactly if all that is taken away
without it has that property. -/
theorem without_and_eq_iff (hq : ∀ d e, d.idEntry = e.idEntry → q d = q e) (extent : Extent) :
    c.without extent (fun d => p d && q d) = c.without extent p ↔
      ∀ d ∈ extent.cut (c.documents.filter p), q d = true := by
  cases extent with
  | first => exact withoutFirst_and_eq_iff hq
  | every => exact withoutAll_and_eq_iff

/-- Whether a deletion can look through all documents, and the ids of what it finds lead back to
each document that it is for. -/
def FindsByIds (c : Collection) (filter : Document) (extent : Extent) : Prop :=
  ∃ found, select filter c.documents = .ok found ∧
    ∀ d ∈ extent.cut found, (found.map Document.id).any d.answersTo = true

/-- A deletion finds the documents that answer to their own ids. -/
theorem findsByIds_of_self {filter : Document} {extent : Extent} {found : List Document}
    (hfound : select filter c.documents = .ok found)
    (hself : ∀ d ∈ extent.cut found, d.answersTo d.id = true) : c.FindsByIds filter extent := by
  refine ⟨found, hfound, fun d hd => List.any_eq_true.mpr ⟨d.id, ?_, hself d hd⟩⟩
  exact List.mem_map_of_mem (extent.mem_of_mem_cut hd)

end Collection

/-! ## Trying updates out -/

theorem exists_read_stage (op : UpdateOperator) (fields : Document) :
    ∃ t, Transform.read (op.stage fields) = .ok t := by
  cases op with
  | unset =>
    refine ⟨.unset fields.keys, ?_⟩
    change (do return Transform.unset (← requireNames (fields.keys.map .str))) = _
    rw [requireNames_map_str]
    rfl
  | _ => exact ⟨_, rfl⟩

/-- Stages that can be read and go well for each document alone go well for all of them together, and
the first outcomes come out. -/
theorem exists_runPipeline_of_forall₂ {stages documents outcomes : List Document}
    (hread : ∀ stage ∈ stages, ∃ t, Transform.read stage = .ok t)
    (halone : List.Forall₂ (fun d d' => runPipeline stages [d] = .ok [d']) documents outcomes) :
    ∃ out, runPipeline stages documents = .ok out ∧ out <+: outcomes := by
  induction stages generalizing documents outcomes with
  | nil => exact ⟨documents, rfl, eq_of_forall₂_runPipeline_nil halone ▸ List.prefix_rfl⟩
  | cons stage rest ih =>
    obtain ⟨t, ht⟩ := hread stage List.mem_cons_self
    obtain ⟨mids, happly, houtcomes⟩ := exists_forall₂_runPipeline_cons ht halone
    have hlater : ∀ s ∈ rest, ∃ t, Transform.read s = .ok t :=
      fun s hs => hread s (List.mem_cons_of_mem stage hs)
    cases t with
    | limit count =>
      -- the outcomes behind the cut are lost
      obtain ⟨out, hrun, hfirst⟩ := ih hlater (List.forall₂_take count houtcomes)
      exact ⟨out, runPipeline_cons_eq_ok.mpr ⟨_, _, ht, happly, hrun⟩,
        hfirst.trans (List.take_prefix count outcomes)⟩
    | _ =>
      obtain ⟨out, hrun, hfirst⟩ := ih hlater houtcomes
      exact ⟨out, runPipeline_cons_eq_ok.mpr ⟨_, _, ht, happly, hrun⟩, hfirst⟩

namespace Collection

variable {c : Collection} {filter : Document} {modification : Modification} {extent : Extent}

/-- Whether an update can be tried out on all documents that it is for together, with outcomes that
are equal to themselves. -/
def TriesOut (c : Collection) (filter : Document) (modification : Modification)
    (extent : Extent) : Prop :=
  ∃ stages tried, modification.toStages = .ok stages ∧
    c.aggregate (selectionStages filter extent ++ stages) = .ok tried ∧
    ∀ d ∈ tried, d.equal d = true

/-- An update that succeeds can be tried out before if its filter can be decided for every document,
its stages can be read and its outcomes are equal to themselves. -/
theorem triesOut_of_update {found : List Document} {count : UpdateCount}
    (hok : (update filter modification extent c).1 = .ok count)
    (hfound : select filter c.documents = .ok found)
    (hread : ∀ pipeline, modification = .stages pipeline →
      ∀ stage ∈ pipeline, ∃ t, Transform.read stage = .ok t)
    (hequal : ∀ stages, modification.toStages = .ok stages → ∀ d ∈ extent.cut found,
      ∀ after, runPipeline stages [d] = .ok [after] → after.equal after = true) :
    c.TriesOut filter modification extent := by
  cases hstages : modification.toStages with
  | error e =>
    unfold update at hok
    rw [hstages] at hok
    cases hok
  | ok stages =>
    -- the stages of operators can always be read, and those of a pipeline are asked to
    have hreadable : ∀ stage ∈ stages, ∃ t, Transform.read stage = .ok t := by
      cases modification with
      | stages pipeline =>
        cases hstages
        exact hread stages rfl
      | operators fields =>
        intro stage hstage
        obtain ⟨op, paths, rfl⟩ := exists_operator_of_updateStages hstages stage hstage
        exact exists_read_stage op paths
    cases hpass : (updatePass c.name filter stages extent c.documents).result with
    | error e =>
      unfold update at hok
      simp only [hstages, hpass] at hok
      cases hok
    | ok done =>
      obtain ⟨outcomes, halone, -⟩ := updatePass_eq_ok hfound hpass
      obtain ⟨tried, hrun, hfirst⟩ := exists_runPipeline_of_forall₂ hreadable halone
      -- what comes out of the trial is among what the documents become alone
      refine ⟨stages, tried, hstages, ?_, fun after hafter => ?_⟩
      · rw [aggregate, runPipeline_selectionStages, hfound]
        exact hrun
      · obtain ⟨d, hd, hout⟩ := exists_mem_of_forall₂ halone.flip (hfirst.subset hafter)
        exact hequal stages hstages d hd after hout

end Collection

namespace Guard

/-! ## Guards without rules -/

/-- Whether a guard is for a user, under neither roles nor row filters for the collection. -/
structure Unruled (g : Guard) : Prop where
  user : g.asSystem = false
  roles : g.roles = []
  filters : g.filters = []

/-- The guard for the system in place of the user. -/
def system (g : Guard) : Guard :=
  { g with asSystem := true }

section

variable {g : Guard} {c : Collection} {filter d : Document} {access : Access}

theorem Unruled.narrow (h : g.Unruled) (filter : Document) : g.narrow filter = .ok filter := by
  unfold Guard.narrow
  rw [h.filters]
  rfl

theorem Unruled.validate (h : g.Unruled) (d : Document) (access : Access) :
    g.validate d access = pure (some d) := by
  unfold Guard.validate
  rw [h.roles]
  rfl

theorem Unruled.demandUnchanged (h : g.Unruled) (hd : d.equal d = true) (access : Access) :
    g.demandUnchanged access d = pure () := by
  unfold Guard.demandUnchanged
  rw [h.validate, pure_bind]
  simp only [hd]
  rfl

theorem Unruled.equal_of_demandUnchanged (h : g.Unruled)
    (hok : (g.demandUnchanged access d).result = .ok ()) : d.equal d = true := by
  obtain ⟨seen, hseen, hequal⟩ := passes_of_demandUnchanged hok
  rw [h.validate] at hseen
  cases hseen
  exact hequal

theorem Unruled.gather_validate (h : g.Unruled) (found : List Document) (access : Access) :
    Traced.gather (found.map fun d => g.validate d access) = pure (found.map some) := by
  simp only [h.validate]
  exact Traced.gather_pure some found

theorem Unruled.demandDeletion (h : g.Unruled) (d : Document) : g.demandDeletion d = pure () := by
  unfold Guard.demandDeletion
  rw [h.validate, pure_bind]
  rfl

/-! ## Reading -/

theorem Unruled.findOne (h : g.Unruled) (c : Collection) (filter : Document) :
    g.findOne c filter = .lift (c.findOne filter) := by
  unfold Guard.findOne
  rw [h.user, if_neg (by decide), h.narrow, Traced.liftM_ok, pure_bind]
  cases c.findOne filter with
  | error e => rfl
  | ok found =>
    cases found with
    | none => rw [h.roles]; rfl
    | some d =>
      change (do return some ((← g.validate d .read).getD [])) = _
      rw [h.validate]
      rfl

theorem Unruled.find (h : g.Unruled) (c : Collection) (filter : Document) (w : Window) :
    g.find c filter w = .lift (c.find filter w) := by
  unfold Guard.find
  rw [h.user, if_neg (by decide), h.narrow, Traced.liftM_ok, pure_bind]
  cases c.find filter w with
  | error e => rfl
  | ok found =>
    change (do return (← Traced.gather (found.map fun d => g.validate d .read)).filterMap id) = _
    rw [h.gather_validate, pure_bind, List.filterMap_map]
    exact congrArg pure (List.filterMap_some)

/-! ## Writing -/

theorem Unruled.insertOne_eq_iff (h : g.Unruled) {id : Value}
    (hok : (g.system.insertOne d c).1.result = .ok id) :
    g.insertOne d c = g.system.insertOne d c ↔ d.equal d = true := by
  rw [insertOne_eq h.user]
  exact Traced.thenWrite_eq_iff (fun hd => h.demandUnchanged hd .insert)
    (fun _ hpassed => h.equal_of_demandUnchanged hpassed) hok

theorem Unruled.insertMany_eq_iff (h : g.Unruled) {batch : List Document} {ids : List Value}
    (hok : (g.system.insertMany batch c).1.result = .ok ids) :
    g.insertMany batch c = g.system.insertMany batch c ↔ ∀ d ∈ batch, d.equal d = true := by
  rw [insertMany_eq h.user]
  refine Traced.thenWrite_eq_iff (fun hall => ?_) (fun _ hpassed d hd => ?_) hok
  · exact Traced.forAll_pure fun d hd => h.demandUnchanged (hall d hd) .insert
  · exact h.equal_of_demandUnchanged (Traced.result_of_forAll hpassed hd)

theorem Unruled.update_eq_iff (h : g.Unruled) {modification : Modification} {extent : Extent}
    {count : UpdateCount}
    (hok : (g.system.update filter modification extent c).1.result = .ok count) :
    g.update filter modification extent c = g.system.update filter modification extent c ↔
      c.TriesOut filter modification extent := by
  have hdecision : g.update filter modification extent c =
      (g.decideUpdate c filter modification extent).thenWrite
        (fun query => Collection.update query modification extent) c := by
    unfold Guard.update
    rw [h.user]
    rfl
  rw [hdecision]
  refine Traced.thenWrite_eq_iff ?_ (fun query hdecided => ?_) hok
  -- without rules the trial and the equality of its outcomes are all there is to decide
  · rintro ⟨stages, tried, hstages, htried, hequal⟩
    unfold decideUpdate
    rw [h.narrow, Traced.liftM_ok, pure_bind, hstages, Traced.liftM_ok, pure_bind, htried,
      Traced.liftM_ok, pure_bind,
      Traced.forAll_pure fun d hd => h.demandUnchanged (hequal d hd) .write, pure_bind]
  · obtain ⟨stages, tried, hquery, hstages, htried, hdemanded⟩ := decideUpdate_eq_ok hdecided
    rw [h.narrow] at hquery
    cases hquery
    exact ⟨stages, tried, hstages, htried, fun d hd => h.equal_of_demandUnchanged (hdemanded d hd)⟩

theorem Unruled.decideDelete (h : g.Unruled) {found : List Document}
    (hfound : select filter c.documents = .ok found) :
    g.decideDeleteOne c filter =
        pure (if found.isEmpty then none else some (narrowToIds filter (found.map Document.id))) ∧
      g.decideDeleteMany c filter =
        pure (if found.isEmpty then none
          else some (narrowToIds filter (found.map Document.id))) := by
  have hcandidates : c.find filter .all = .ok found := by
    unfold Collection.find
    rw [hfound]
    rfl
  constructor
  · have hids : (((found.zip (found.map some)).filter fun p => p.2.isSome).map fun p => p.1.id) =
        found.map Document.id := by
      clear hfound hcandidates
      induction found with
      | nil => rfl
      | cons d rest ih => exact congrArg (d.id :: ·) ih
    unfold decideDeleteOne deletableIds
    rw [h.narrow, Traced.liftM_ok, pure_bind, hcandidates, Traced.liftM_ok, pure_bind,
      h.gather_validate, pure_bind, pure_bind, hids, List.isEmpty_map]
  · unfold decideDeleteMany
    rw [h.narrow, Traced.liftM_ok, pure_bind, hcandidates, Traced.liftM_ok, pure_bind,
      Traced.forAll_pure fun d _ => h.demandDeletion d]
    cases found.isEmpty <;> rfl

theorem Unruled.delete_eq_without (h : g.Unruled) {found : List Document}
    (hfound : select filter c.documents = .ok found) (extent : Extent) :
    g.delete filter extent c =
      (pure (c.without extent fun d =>
          satisfies filter d && (found.map Document.id).any d.answersTo).1,
        (c.without extent fun d =>
          satisfies filter d && (found.map Document.id).any d.answersTo).2) := by
  obtain ⟨hone, hmany⟩ := h.decideDelete hfound
  have hdecision : g.delete filter extent c =
      (pure (if found.isEmpty then none
          else some (narrowToIds filter (found.map Document.id))) : Traced _).thenWrite
        (deleteSelected extent) c := by
    unfold Guard.delete
    rw [h.user, if_neg (by decide), hone, hmany]
    cases extent <;> rfl
  rw [hdecision, Traced.thenWrite_of_ok rfl]
  cases hempty : found.isEmpty with
  | true =>
    -- no query is issued where nothing is found
    have hnone : ∀ d ∈ c.documents,
        ¬ (satisfies filter d && (found.map Document.id).any d.answersTo) = true := by
      intro d _
      rw [List.isEmpty_iff.mp hempty, List.map_nil, List.any_nil, Bool.and_false]
      decide
    rw [Collection.without_of_forall_not extent hnone]
    rfl
  | false =>
    have hdelete := Collection.delete_eq_without extent
      (exists_matchesFilter_narrowToIds hfound (found.map Document.id))
    rw [satisfies_narrowToIds] at hdelete
    change ((⟨[], (Collection.delete (narrowToIds filter (found.map Document.id)) extent c).1⟩ :
      Traced Nat), (Collection.delete (narrowToIds filter (found.map Document.id)) extent c).2) = _
    rw [hdelete]
    rfl

theorem Unruled.exists_select_of_delete (h : g.Unruled) {extent : Extent} {count : Nat}
    (hok : (g.delete filter extent c).1.result = .ok count) :
    ∃ found, select filter c.documents = .ok found := by
  have hnarrowed : ∃ query found, g.narrow filter = .ok query ∧
      select query c.documents = .ok found := by
    cases extent with
    | first =>
      obtain ⟨query, found, hquery, hfound, -⟩ := exists_withoutFirst_of_delete h.user hok
      exact ⟨query, found, hquery, hfound⟩
    | every =>
      obtain ⟨query, found, hquery, hfound, -⟩ := exists_withoutAll_of_delete h.user hok
      exact ⟨query, found, hquery, hfound⟩
  obtain ⟨query, found, hquery, hfound⟩ := hnarrowed
  rw [h.narrow] at hquery
  cases hquery
  exact ⟨found, hfound⟩

theorem delete_system (hfound : ∃ found, select filter c.documents = .ok found) (extent : Extent) :
    g.system.delete filter extent c =
      (pure (c.without extent (satisfies filter)).1, (c.without extent (satisfies filter)).2) := by
  obtain ⟨found, hfound⟩ := hfound
  have hdecided : ∀ d ∈ c.documents, ∃ here, matchesFilter d filter = .ok here := fun _ =>
    exists_matchesFilter_of_select hfound
  change ((⟨[], (Collection.delete filter extent c).1⟩ : Traced Nat),
    (Collection.delete filter extent c).2) = _
  rw [Collection.delete_eq_without extent hdecided]
  rfl

theorem Unruled.delete_eq_iff (h : g.Unruled) {extent : Extent} {count : Nat}
    (hok : (g.system.delete filter extent c).1.result = .ok count) :
    g.delete filter extent c = g.system.delete filter extent c ↔ c.FindsByIds filter extent := by
  cases hselect : select filter c.documents with
  | error e =>
    -- the system may end before the fault, but the guard looks through all documents first
    have hnone : ¬ ∃ found, select filter c.documents = .ok found := by
      rintro ⟨found, hfound⟩
      rw [hselect] at hfound
      cases hfound
    refine iff_of_false (fun hsame => hnone ?_) fun ⟨found, hfound, _⟩ => hnone ⟨found, hfound⟩
    rw [← hsame] at hok
    exact h.exists_select_of_delete hok
  | ok found =>
    have hids : ∀ d e : Document, d.idEntry = e.idEntry →
        (found.map Document.id).any d.answersTo = (found.map Document.id).any e.answersTo := by
      intro d e hsame
      rw [Document.answersTo_of_idEntry_eq hsame]
    have hpair : ∀ x y : Nat × Collection,
        ((pure x.1 : Traced Nat), x.2) = (pure y.1, y.2) ↔ x = y := by
      rintro ⟨n, a⟩ ⟨m, b⟩
      refine ⟨fun hsame => ?_, fun hsame => hsame ▸ rfl⟩
      cases hsame
      rfl
    rw [h.delete_eq_without hselect, delete_system ⟨found, hselect⟩, hpair,
      Collection.without_and_eq_iff hids, ← select_eq_filter hselect]
    constructor
    · intro hall
      exact ⟨found, hselect, hall⟩
    · rintro ⟨found', hfound', hall⟩
      rw [hselect] at hfound'
      cases hfound'
      exact hall

/-- Without rules a guard for a user reads like one for the system, and what the system can write the
user can write with the same effect, exactly if an inserted document is equal to itself, an update
can be tried out before, and a deletion finds what it takes by ids. -/
theorem unruled_like_system (h : g.Unruled) (c : Collection) :
    (∀ filter, g.findOne c filter = g.system.findOne c filter) ∧
      (∀ filter w, g.find c filter w = g.system.find c filter w) ∧
      (∀ d id, (g.system.insertOne d c).1.result = .ok id →
        (g.insertOne d c = g.system.insertOne d c ↔ d.equal d = true)) ∧
      (∀ batch ids, (g.system.insertMany batch c).1.result = .ok ids →
        (g.insertMany batch c = g.system.insertMany batch c ↔ ∀ d ∈ batch, d.equal d = true)) ∧
      (∀ filter modification extent count,
        (g.system.update filter modification extent c).1.result = .ok count →
        (g.update filter modification extent c = g.system.update filter modification extent c ↔
          c.TriesOut filter modification extent)) ∧
      ∀ filter extent count, (g.system.delete filter extent c).1.result = .ok count →
        (g.delete filter extent c = g.system.delete filter extent c ↔
          c.FindsByIds filter extent) :=
  ⟨h.findOne c, h.find c, fun _ _ => h.insertOne_eq_iff, fun _ _ => h.insertMany_eq_iff,
    fun _ _ _ _ => h.update_eq_iff, fun _ _ _ => h.delete_eq_iff⟩

end

/-- A guard for a user of a collection without rules. -/
def ofAnyone : Guard where
  rules := []
  collection := "todos"
  user := [("id", .str "ann")]
  asSystem := false
  caller := fun name _ _ => .error (.functionNotFound name)

/-- That user marks all documents and deletes the first of them like the system. -/
theorem unruled_marks_and_deletes :
    ofAnyone.Unruled ∧
      (ofAnyone.system.update [] (.stages (markUpTo 2)) .every (todosWith "bob")).1.result =
        .ok ⟨2, 2⟩ ∧
      ofAnyone.update [] (.stages (markUpTo 2)) .every (todosWith "bob") =
        ofAnyone.system.update [] (.stages (markUpTo 2)) .every (todosWith "bob") ∧
      (ofAnyone.system.delete [] .first (todosWith "bob")).1.result = .ok 1 ∧
      ofAnyone.delete [] .first (todosWith "bob") =
        ofAnyone.system.delete [] .first (todosWith "bob") := by
  have hunruled : ofAnyone.Unruled := ⟨rfl, rfl, rfl⟩
  have hmarks :
      (ofAnyone.system.update [] (.stages (markUpTo 2)) .every (todosWith "bob")).1.result =
        .ok ⟨2, 2⟩ := rfl
  have hdeletes : (ofAnyone.system.delete [] .first (todosWith "bob")).1.result = .ok 1 := rfl
  have hfound : select [] (todosWith "bob").documents = .ok (todosWith "bob").documents := rfl
  have htries : (todosWith "bob").TriesOut [] (.stages (markUpTo 2)) .every := by
    refine Collection.triesOut_of_update hmarks hfound ?_ ?_
    · rintro _ ⟨⟩ stage hstage
      obtain rfl | rfl := List.mem_pair.mp hstage
      · exact ⟨.limit 2, rfl⟩
      · exact ⟨.assign [("done", .bool true)], rfl⟩
    · rintro _ ⟨⟩ d hd after hafter
      obtain rfl | rfl := List.mem_pair.mp hd <;> cases hafter <;> decide
  have hfinds : (todosWith "bob").FindsByIds [] .first :=
    Collection.findsByIds_of_self hfound (by decide)
  obtain ⟨-, -, -, -, hupdate, hdelete⟩ := unruled_like_system hunruled (todosWith "bob")
  exact ⟨hunruled, hmarks, (hupdate _ _ _ _ hmarks).mpr htries, hdeletes,
    (hdelete _ _ _ hdeletes).mpr hfinds⟩

/-- A filter that takes the documents of one user and asks of the others what cannot be decided. -/
def annOrUnknown : Document :=
  [("$or", .array [
    .doc [("owner", .str "ann")],
    .doc [("title", .doc [("$like", .str "a")])]])]

/-- A guard for the user fails where the system succeeds on a value that is no number, on a filter
that cannot be decided for a document behind the first match, and on stages that no document gets
to. A document with a list for an id is not deleted. -/
theorem unruled_unlike_system :
    ofAnyone.Unruled ∧
      ((ofAnyone.system.insertOne [("_id", .int32 3), ("x", .negativeNaN)]
            (todosWith "bob")).1.result = .ok (.int32 3) ∧
        (ofAnyone.insertOne [("_id", .int32 3), ("x", .negativeNaN)]
            (todosWith "bob")).1.result = .error .insertNotPermitted) ∧
      ((ofAnyone.system.update [] (.operators [("$set", .doc [("x", .negativeNaN)])]) .first
            (todosWith "bob")).1.result = .ok ⟨1, 1⟩ ∧
        (ofAnyone.update [] (.operators [("$set", .doc [("x", .negativeNaN)])]) .first
            (todosWith "bob")).1.result = .error .updateNotPermitted) ∧
      ((ofAnyone.system.update [("owner", .str "eve")] (.stages [[("$sort", .int32 1)]]) .every
            (todosWith "bob")).1.result = .ok ⟨0, 0⟩ ∧
        (ofAnyone.update [("owner", .str "eve")] (.stages [[("$sort", .int32 1)]]) .every
            (todosWith "bob")).1.result = .error (.store (.unknownStage "$sort"))) ∧
      ((ofAnyone.system.delete annOrUnknown .first (todosWith "bob")).1.result = .ok 1 ∧
        (ofAnyone.delete annOrUnknown .first (todosWith "bob")).1.result =
          .error (.operatorNotFound "$like")) ∧
      (ofAnyone.system.delete [] .every
            (.ofDocuments "todos" [[("_id", .array [.int32 1])]])).1.result = .ok 1 ∧
        (ofAnyone.delete [] .every
            (.ofDocuments "todos" [[("_id", .array [.int32 1])]])).1.result = .ok 0 :=
  ⟨⟨rfl, rfl, rfl⟩, ⟨rfl, rfl⟩, ⟨rfl, rfl⟩, ⟨rfl, rfl⟩, ⟨rfl, rfl⟩, rfl, rfl⟩

end Guard

end DocGuard
