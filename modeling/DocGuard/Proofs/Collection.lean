import DocGuard.Proofs.Pipeline
import DocGuard.Store.Collection

/-!
# Passes over a collection

An update passes through the documents once and runs its stages on each selected document alone. A
deletion passes through them once and leaves out the selected ones.
-/

namespace DocGuard

/-- The selected documents that a request is for. -/
def Extent.cut {α : Type} (extent : Extent) (found : List α) : List α :=
  match extent with
  | .first => found.take 1
  | .every => found

theorem Extent.cut_map {α β : Type} (f : α → β) (extent : Extent) (found : List α) :
    extent.cut (found.map f) = (extent.cut found).map f := by
  cases extent with
  | first => exact List.map_take.symm
  | every => rfl

theorem Window.mem_of_mem_cut {α : Type} {a : α} {found : List α} (w : Window)
    (h : a ∈ w.cut found) : a ∈ found := by
  unfold Window.cut at h
  cases hlimit : w.limit with
  | none => rw [hlimit] at h; exact List.mem_of_mem_drop h
  | some n => rw [hlimit] at h; exact List.mem_of_mem_drop (List.mem_of_mem_take h)

namespace Collection

/-! ## Updating -/

theorem updated_eq_ok {stages : List Document} {d after : Document} :
    updated stages d = .ok after ↔ runPipeline stages [d] = .ok [after] := by
  rw [updated, bind_eq_ok]
  constructor
  · rintro ⟨out, hrun, hlast⟩
    cases hout : out.getLast? with
    | none => rw [hout] at hlast; cases hlast
    | some last =>
      rw [hout] at hlast
      cases hlast
      rw [hrun, runPipeline_single hrun hout]
  · intro hrun
    exact ⟨[after], hrun, rfl⟩

theorem kept_eq_or (before after : Document) :
    kept before after = before ∨ kept before after = after := by
  unfold kept
  cases after.equal before with
  | true => exact .inl rfl
  | false => exact .inr rfl

end Collection

/-- What an update does at the place of a stored document. `outcome` is what its stages make of the
document, where the update is for it. -/
structure Visit where
  before : Document
  outcome : Option Document

namespace Visit

/-- The visit of a document that an update is not for. -/
def ofPassed (d : Document) : Visit :=
  ⟨d, none⟩

/-- Whether the update is for the document. -/
def isTarget (v : Visit) : Bool :=
  v.outcome.isSome

/-- Whether the update changes the document: an outcome that equals it is no change. -/
def isChanged (v : Visit) : Bool :=
  match v.outcome with
  | some d => !d.equal v.before
  | none => false

def after (v : Visit) : Document :=
  match v.outcome with
  | some d => Collection.kept v.before d
  | none => v.before

def count (visits : List Visit) : UpdateCount :=
  ⟨(visits.filter isTarget).length, (visits.filter isChanged).length⟩

/-- The changes that an update publishes, one for each changed document. -/
def changes (name : String) (visits : List Visit) : List Change :=
  (visits.filter isChanged).map fun v => .ofUpdate name v.before v.after

theorem filter_isChanged_cons (d after : Document) (visits : List Visit) :
    (⟨d, some after⟩ :: visits).filter isChanged =
      (if after.equal d then [] else [⟨d, some after⟩]) ++ visits.filter isChanged := by
  have hchanged : isChanged ⟨d, some after⟩ = !after.equal d := rfl
  rw [List.filter_cons, hchanged]
  cases after.equal d <;> rfl

theorem count_cons (name : String) (d after : Document) (visits : List Visit) :
    count (⟨d, some after⟩ :: visits) =
      Collection.addCounts ⟨1, (Collection.changesOf name d after).length⟩ (count visits) := by
  unfold count Collection.addCounts Collection.changesOf
  rw [filter_isChanged_cons, List.filter_cons_of_pos (by rfl), List.length_cons,
    List.length_append, Nat.add_comm _ 1]
  cases after.equal d <;> rfl

theorem changes_cons (name : String) (d after : Document) (visits : List Visit) :
    changes name (⟨d, some after⟩ :: visits) =
      Collection.changesOf name d after ++ changes name visits := by
  unfold changes Collection.changesOf
  rw [filter_isChanged_cons, List.map_append]
  congr 1
  cases hequal : after.equal d with
  | true => rfl
  | false =>
    have hkept : Collection.kept d after = after := by
      unfold Collection.kept
      rw [hequal]
      rfl
    exact congrArg (fun stored => [Change.ofUpdate name d stored]) hkept

theorem map_before_ofPassed (documents : List Document) :
    (documents.map ofPassed).map before = documents := by
  rw [List.map_map]
  exact List.map_id documents

theorem map_after_ofPassed (documents : List Document) :
    (documents.map ofPassed).map after = documents := by
  rw [List.map_map]
  exact List.map_id documents

theorem filter_isTarget_ofPassed (documents : List Document) :
    (documents.map ofPassed).filter isTarget = [] := by
  rw [List.filter_map]
  exact congrArg (List.map ofPassed) (List.filter_eq_nil_iff.mpr fun _ _ => Bool.false_ne_true)

theorem filter_isChanged_ofPassed (documents : List Document) :
    (documents.map ofPassed).filter isChanged = [] := by
  rw [List.filter_map]
  exact congrArg (List.map ofPassed) (List.filter_eq_nil_iff.mpr fun _ _ => Bool.false_ne_true)

end Visit

/-- Whether visits are those of an update with a filter: one for each document in its order, those
that the filter matches, as far as the request is for them, being the ones with an outcome, which
is the single document that the stages make of the document alone. -/
structure Visits (filter : Document) (stages : List Document) (extent : Extent)
    (documents : List Document) (visits : List Visit) : Prop where
  before : visits.map Visit.before = documents
  targets : visits.filter Visit.isTarget =
    extent.cut (visits.filter fun v => satisfies filter v.before)
  outcome : ∀ v ∈ visits, ∀ d, v.outcome = some d → runPipeline stages [v.before] = .ok [d]

namespace Visits

variable {filter : Document} {stages : List Document} {d after : Document}
  {rest : List Document} {extent : Extent} {visits : List Visit}

/-- One more document in front that the filter does not match. -/
theorem cons_passed (h : Visits filter stages extent rest visits)
    (hd : matchesFilter d filter = .ok false) :
    Visits filter stages extent (d :: rest) (.ofPassed d :: visits) where
  before := congrArg (d :: ·) h.before
  targets := by
    have hpassed : satisfies filter (Visit.ofPassed d).before = false := satisfies_of_ok hd
    have htarget : (Visit.ofPassed d).isTarget = false := rfl
    rw [List.filter_cons_of_neg (by rw [htarget]; decide),
      List.filter_cons_of_neg (by rw [hpassed]; decide)]
    exact h.targets
  outcome := by
    intro v hv d' hd'
    rcases List.mem_cons.mp hv with rfl | hmem
    · cases hd'
    · exact h.outcome v hmem d' hd'

/-- One more document in front that the filter matches, for an update of every document. -/
theorem cons_target (h : Visits filter stages .every rest visits)
    (hd : matchesFilter d filter = .ok true) (hafter : runPipeline stages [d] = .ok [after]) :
    Visits filter stages .every (d :: rest) (⟨d, some after⟩ :: visits) where
  before := congrArg (d :: ·) h.before
  targets := by
    have hmatch : satisfies filter d = true := satisfies_of_ok hd
    rw [List.filter_cons_of_pos (by rfl), h.targets]
    exact (List.filter_cons_of_pos (by exact hmatch)).symm
  outcome := by
    intro v hv d' hd'
    rcases List.mem_cons.mp hv with rfl | hmem
    · cases hd'; exact hafter
    · exact h.outcome v hmem d' hd'

/-- An update of one document ends at the first document that the filter matches. -/
theorem of_first (rest : List Document) (hd : matchesFilter d filter = .ok true)
    (hafter : runPipeline stages [d] = .ok [after]) :
    Visits filter stages .first (d :: rest) (⟨d, some after⟩ :: rest.map .ofPassed) where
  before := congrArg (d :: ·) (Visit.map_before_ofPassed rest)
  targets := by
    have hmatch : satisfies filter d = true := satisfies_of_ok hd
    rw [List.filter_cons_of_pos (by rfl), Visit.filter_isTarget_ofPassed]
    rw [List.filter_cons_of_pos (by exact hmatch)]
    rfl
  outcome := by
    intro v hv d' hd'
    rcases List.mem_cons.mp hv with rfl | hmem
    · cases hd'; exact hafter
    · obtain ⟨_, _, rfl⟩ := List.mem_map.mp hmem
      cases hd'

/-- The documents that an update is for are those of the visits with an outcome. -/
theorem cut_eq {documents found : List Document}
    (h : Visits filter stages extent documents visits)
    (hfound : select filter documents = .ok found) :
    extent.cut found = (visits.filter Visit.isTarget).map Visit.before := by
  rw [select_eq_filter hfound, ← h.before, List.filter_map, Extent.cut_map, h.targets]
  rfl

theorem forall₂_outcomes {documents : List Document}
    (h : Visits filter stages extent documents visits) :
    List.Forall₂ (fun d d' => runPipeline stages [d] = .ok [d'])
      ((visits.filter Visit.isTarget).map Visit.before) (visits.filterMap Visit.outcome) := by
  have houtcome := h.outcome
  clear h
  induction visits with
  | nil => exact .nil
  | cons v rest ih =>
    have hrest := ih fun w hw => houtcome w (List.mem_cons_of_mem v hw)
    obtain ⟨before, outcome⟩ := v
    cases outcome with
    | none => exact hrest
    | some d => exact .cons (houtcome _ List.mem_cons_self d rfl) hrest

end Visits

namespace Collection

/-- An update pass without a fault visits the documents in order. -/
theorem exists_visits_of_updatePass {name : String} {filter : Document}
    {stages : List Document} {extent : Extent} {documents : List Document}
    {done : UpdateCount × List Change}
    (hpass : (updatePass name filter stages extent documents).result = .ok done) :
    ∃ visits, Visits filter stages extent documents visits ∧
      updatePass name filter stages extent documents =
        ⟨visits.map Visit.after, .ok (Visit.count visits, Visit.changes name visits)⟩ := by
  induction documents generalizing done with
  | nil => exact ⟨[], ⟨rfl, by cases extent <;> rfl, fun v hv => absurd hv List.not_mem_nil⟩, rfl⟩
  | cons d rest ih =>
    rw [updatePass] at hpass ⊢
    cases hhere : matchesFilter d filter with
    | error e => rw [hhere] at hpass; cases hpass
    | ok here =>
      rw [hhere] at hpass
      cases here with
      | false =>
        obtain ⟨visits, hvisits, hrest⟩ := ih hpass
        refine ⟨.ofPassed d :: visits, hvisits.cons_passed hhere, ?_⟩
        rw [hrest]
        rfl
      | true =>
        cases hafter : updated stages d with
        | error e => simp only [hafter] at hpass; cases hpass
        | ok after =>
          simp only [hafter] at hpass ⊢
          have halone := updated_eq_ok.mp hafter
          cases extent with
          | first =>
            refine ⟨_, .of_first rest hhere halone, ?_⟩
            have hcount : Visit.count (rest.map .ofPassed) = ⟨0, 0⟩ := by
              unfold Visit.count
              rw [Visit.filter_isTarget_ofPassed, Visit.filter_isChanged_ofPassed]
              rfl
            have hchanges : Visit.changes name (rest.map .ofPassed) = [] := by
              unfold Visit.changes
              rw [Visit.filter_isChanged_ofPassed]
              rfl
            rw [Visit.count_cons name, Visit.changes_cons, hcount, hchanges, List.append_nil,
              List.map_cons, Visit.map_after_ofPassed]
            rfl
          | every =>
            cases htail : (updatePass name filter stages .every rest).result with
            | error e => simp only [htail] at hpass; cases hpass
            | ok tail =>
              obtain ⟨visits, hvisits, hrest⟩ := ih htail
              refine ⟨_, hvisits.cons_target hhere halone, ?_⟩
              rw [hrest] at htail ⊢
              cases htail
              rw [Visit.count_cons name, Visit.changes_cons]
              rfl

/-- After an update that succeeds, each document is as it was or holds the outcome of the stages
for a document that the update was for. -/
theorem updatePass_eq_ok {name : String} {filter : Document} {stages : List Document}
    {extent : Extent} {documents found : List Document} {count : UpdateCount}
    {changes : List Change} (hfound : select filter documents = .ok found)
    (hpass : (updatePass name filter stages extent documents).result = .ok (count, changes)) :
    ∃ outcomes,
      List.Forall₂ (fun d d' => runPipeline stages [d] = .ok [d']) (extent.cut found) outcomes ∧
      count.matched = outcomes.length ∧
      List.Forall₂ (fun d v => v = d ∨ v ∈ outcomes) documents
        (updatePass name filter stages extent documents).documents := by
  obtain ⟨visits, hvisits, hrun⟩ := exists_visits_of_updatePass hpass
  have houtcomes := hvisits.forall₂_outcomes
  rw [hrun] at hpass ⊢
  cases hpass
  refine ⟨visits.filterMap Visit.outcome, ?_, ?_, ?_⟩
  · rw [hvisits.cut_eq hfound]
    exact houtcomes
  · rw [← houtcomes.length_eq, List.length_map]
    rfl
  · rw [← hvisits.before]
    refine List.forall₂_map_left_iff.mpr (List.forall₂_map_right_iff.mpr ?_)
    refine List.forall₂_same.mpr fun v hv => ?_
    obtain ⟨before, outcome⟩ := v
    cases outcome with
    | none => exact .inl rfl
    | some d =>
      refine (kept_eq_or before d).imp id fun hkept => ?_
      exact List.mem_filterMap.mpr ⟨_, hv, congrArg some hkept.symm⟩

/-- An update pass does not fail where the filter can be decided for every document and the stages
succeed for each document that the update is for. -/
theorem exists_updatePass_eq_ok (name : String) {filter : Document} {stages : List Document}
    {extent : Extent} {documents found : List Document}
    (hfound : select filter documents = .ok found)
    (halone : ∀ d ∈ extent.cut found, ∃ d', runPipeline stages [d] = .ok [d']) :
    ∃ done, (updatePass name filter stages extent documents).result = .ok done := by
  induction documents generalizing found with
  | nil => exact ⟨_, rfl⟩
  | cons d rest ih =>
    obtain ⟨here, others, hhere, hothers, rfl⟩ := select_cons_eq_ok.mp hfound
    rw [updatePass, hhere]
    cases here with
    | false => exact ih hothers halone
    | true =>
      cases extent with
      | first =>
        obtain ⟨after, hafter⟩ := halone d List.mem_cons_self
        simp only [updated_eq_ok.mpr hafter]
        exact ⟨_, rfl⟩
      | every =>
        obtain ⟨after, hafter⟩ := halone d List.mem_cons_self
        obtain ⟨done, hdone⟩ := ih hothers fun e he => halone e (List.mem_cons_of_mem d he)
        simp only [updated_eq_ok.mpr hafter, hdone]
        exact ⟨_, rfl⟩

/-- An update that was tried out on the documents that it is for, with success for each of them
alone, is carried out as tried. -/
theorem exists_visits_of_update {c : Collection} {filter : Document}
    {modification : Modification} {extent : Extent} {stages found : List Document}
    (hstages : modification.toStages = .ok stages)
    (hfound : select filter c.documents = .ok found)
    (halone : ∀ d ∈ extent.cut found, ∃ d', runPipeline stages [d] = .ok [d']) :
    ∃ visits, Visits filter stages extent c.documents visits ∧
      update filter modification extent c = (.ok (Visit.count visits),
        { c with
          documents := visits.map Visit.after
          history := c.history ++ Visit.changes c.name visits }) := by
  obtain ⟨done, hdone⟩ := exists_updatePass_eq_ok c.name hfound halone
  obtain ⟨visits, hvisits, hrun⟩ := exists_visits_of_updatePass hdone
  refine ⟨visits, hvisits, ?_⟩
  unfold update
  simp only [hstages, hrun]
  rfl

/-! ## Deleting -/

variable {filter d : Document} {rest : List Document} {extent : Extent}

theorem deletePass_cons_error {e : Fault} (h : matchesFilter d filter = .error e) :
    deletePass filter extent (d :: rest) = .error e := by
  unfold deletePass
  rw [h]
  rfl

theorem deletePass_cons_false (h : matchesFilter d filter = .ok false) :
    deletePass filter extent (d :: rest) =
      (deletePass filter extent rest).map fun pass => (d :: pass.1, pass.2) := by
  rw [deletePass.eq_def]
  simp only [h]
  rfl

theorem deletePass_first (h : matchesFilter d filter = .ok true) :
    deletePass filter .first (d :: rest) = .ok (rest, [d]) := by
  unfold deletePass
  rw [h]
  rfl

theorem deletePass_every (h : matchesFilter d filter = .ok true) :
    deletePass filter .every (d :: rest) =
      (deletePass filter .every rest).map fun pass => (pass.1, d :: pass.2) := by
  rw [deletePass.eq_def]
  simp only [h]
  rfl

/-- Deleting the first of the documents that satisfy a filter takes it out of its place. -/
theorem deletePass_first_eq {documents : List Document}
    (h : ∀ d ∈ documents, ∃ here, matchesFilter d filter = .ok here) :
    deletePass filter .first documents =
      .ok (documents.eraseP (satisfies filter),
        (documents.find? (satisfies filter)).toList) := by
  induction documents with
  | nil => rfl
  | cons d rest ih =>
    obtain ⟨here, hhere⟩ := h d List.mem_cons_self
    have hrest := ih fun e he => h e (List.mem_cons_of_mem d he)
    have hsatisfies := satisfies_of_ok hhere
    cases here with
    | true =>
      rw [deletePass_first hhere, List.eraseP_cons_of_pos hsatisfies,
        List.find?_cons_of_pos hsatisfies]
      rfl
    | false =>
      have hnot : ¬ satisfies filter d = true := by rw [hsatisfies]; decide
      rw [deletePass_cons_false hhere, hrest, List.eraseP_cons_of_neg hnot,
        List.find?_cons_of_neg hnot]
      rfl

/-- A collection without the first of its documents that has a property, and the number of
documents that this takes away. -/
def withoutFirst (c : Collection) (p : Document → Bool) : Nat × Collection :=
  match c.documents.find? p with
  | none => (0, c)
  | some d => (1, { c with documents := c.documents.eraseP p }.publish [.ofDelete c.name d])

theorem withoutFirst_of_forall_not {c : Collection} {p : Document → Bool}
    (h : ∀ d ∈ c.documents, ¬ p d = true) : c.withoutFirst p = (0, c) := by
  unfold withoutFirst
  rw [List.find?_eq_none.mpr h]

/-- A deletion of one document takes away the first that satisfies the filter. -/
theorem delete_first_eq {c : Collection}
    (h : ∀ d ∈ c.documents, ∃ here, matchesFilter d filter = .ok here) :
    delete filter .first c =
      (.ok (c.withoutFirst (satisfies filter)).1, (c.withoutFirst (satisfies filter)).2) := by
  unfold delete withoutFirst
  rw [deletePass_first_eq h]
  cases hfirst : c.documents.find? (satisfies filter) with
  | some d => rfl
  | none =>
    have hnone : c.documents.eraseP (satisfies filter) = c.documents :=
      List.eraseP_of_forall_not (List.find?_eq_none.mp hfirst)
    have hhistory : c.history ++ [] = c.history := List.append_nil c.history
    simp only [hnone, Option.toList, List.map_nil, publish, hhistory, List.length_nil]

end Collection

end DocGuard
