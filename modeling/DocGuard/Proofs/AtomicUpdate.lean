import DocGuard.Proofs.GuardedUpdate

/-!
# Updates by operators

Update operators make one document of each document, so that what is tried out on all documents at
once is what the write makes of each of them alone. Once the outcomes have passed validation nothing
can fail any more: a guarded update by operators is carried out in full, place by place, or leaves
the collection as it was.
-/

namespace DocGuard

namespace Guard

/-- An update by operators that is let through has outcomes that may all be written, and is then
carried out with these outcomes. -/
theorem exists_visits_of_decideUpdate {g : Guard} {c : Collection}
    {filter query operators : Document} {extent : Extent}
    (h : (g.decideUpdate c filter (.operators operators) extent).result = .ok query) :
    ∃ stages visits, g.narrow filter = .ok query ∧ updateStages operators = .ok stages ∧
      Visits query stages extent c.documents visits ∧
      (∀ v ∈ visits, ∀ d, v.outcome = some d → (g.demandUnchanged .write d).result = .ok ()) ∧
      Collection.update query (.operators operators) extent c = (.ok (Visit.count visits),
        { c with
          documents := visits.map Visit.after
          history := c.history ++ Visit.changes c.name visits }) := by
  obtain ⟨stages, tried, hquery, hstages, htried, hdemanded⟩ := decideUpdate_eq_ok h
  rw [Collection.aggregate, runPipeline_selectionStages] at htried
  obtain ⟨found, hfound, hrun⟩ := bind_eq_ok.mp htried
  have halone : ∀ d ∈ extent.cut found, ∃ d' ∈ tried, runPipeline stages [d] = .ok [d'] :=
    fun d hd => exists_mem_of_forall₂ (forall₂_of_updateStages hstages hrun) hd
  obtain ⟨visits, hvisits, hupdate⟩ := Collection.exists_visits_of_update hstages hfound
    fun d hd => (halone d hd).imp fun _ hd' => hd'.2
  refine ⟨stages, visits, hquery, hstages, hvisits, fun v hv d hd => ?_, hupdate⟩
  have htarget : v.isTarget = true := by rw [Visit.isTarget, hd]; rfl
  have hselected : v.before ∈ extent.cut found := by
    rw [hvisits.cut_eq hfound]
    exact List.mem_map_of_mem (List.mem_filter.mpr ⟨hv, htarget⟩)
  obtain ⟨d', hd', hrun'⟩ := halone v.before hselected
  -- the outcome that is written is the one that was tried out
  rw [hvisits.outcome v hv d hd] at hrun'
  cases hrun'
  exact hdemanded d hd'

variable {g : Guard} {c : Collection} {filter operators : Document} {extent : Extent}

/-- A guarded update by operators that fails was not let through. -/
theorem update_error_unchanged {e : Fault} (hsystem : g.asSystem = false)
    (herror : (g.update filter (.operators operators) extent c).1.result = .error e) :
    (g.update filter (.operators operators) extent c).2 = c := by
  unfold update at herror ⊢
  rw [hsystem, if_neg (by decide)] at herror ⊢
  refine Traced.thenWrite_unchanged (fun query hdecided => ?_) herror
  obtain ⟨stages, visits, -, -, -, -, hupdate⟩ := exists_visits_of_decideUpdate hdecided
  exact ⟨_, congrArg Prod.fst hupdate⟩

theorem exists_visits_of_update {count : UpdateCount} (hsystem : g.asSystem = false)
    (hok : (g.update filter (.operators operators) extent c).1.result = .ok count) :
    ∃ query stages visits, g.narrow filter = .ok query ∧ updateStages operators = .ok stages ∧
      Visits query stages extent c.documents visits ∧
      (∀ v ∈ visits, ∀ d, v.outcome = some d → (g.demandUnchanged .write d).result = .ok ()) ∧
      count = Visit.count visits ∧
      (g.update filter (.operators operators) extent c).2 =
        { c with
          documents := visits.map Visit.after
          history := c.history ++ Visit.changes c.name visits } := by
  unfold update at hok ⊢
  rw [hsystem, if_neg (by decide)] at hok ⊢
  obtain ⟨query, hdecided, hwrite, hstore⟩ := Traced.thenWrite_eq_ok hok
  obtain ⟨stages, visits, hquery, hstages, hvisits, hdemanded, hupdate⟩ :=
    exists_visits_of_decideUpdate hdecided
  rw [hupdate] at hwrite hstore
  cases hwrite
  exact ⟨query, stages, visits, hquery, hstages, hvisits, hdemanded, rfl, hstore⟩

def markDone : Document :=
  [("$set", .doc [("done", .bool true)])]

/-- A guarded update by operators is exact and atomic. If it succeeds, each document that it is for
has been replaced in its place by what the operators make of it alone, each of these outcomes may
be written in full, all other documents are where and as they were, and the counts and the published
changes are those of the replaced documents in order. If it fails, the collection is as it was. -/
theorem update_exact_or_unchanged (hsystem : g.asSystem = false) (c : Collection)
    (filter operators : Document) (extent : Extent) :
    (∀ e, (g.update filter (.operators operators) extent c).1.result = .error e →
      (g.update filter (.operators operators) extent c).2 = c) ∧
    ∀ count, (g.update filter (.operators operators) extent c).1.result = .ok count →
      ∃ query stages visits, g.narrow filter = .ok query ∧ updateStages operators = .ok stages ∧
        Visits query stages extent c.documents visits ∧
        (∀ v ∈ visits, ∀ d, v.outcome = some d →
          (g.demandUnchanged .write d).result = .ok ()) ∧
        count = Visit.count visits ∧
        (g.update filter (.operators operators) extent c).2 =
          { c with
            documents := visits.map Visit.after
            history := c.history ++ Visit.changes c.name visits } := by
  exact ⟨fun _ => update_error_unchanged hsystem, fun _ => exists_visits_of_update hsystem⟩

/-- The user's own document is marked; together with the document of somebody else nothing is. -/
theorem update_marks_own_or_none :
    ((ofOwner.update [] (.operators markDone) .every (todosWith "bob")).1.result =
        .error .updateNotPermitted ∧
      (ofOwner.update [] (.operators markDone) .every (todosWith "bob")).2 = todosWith "bob") ∧
    (ofOwner.update [] (.operators markDone) .first (todosWith "bob")).1.result = .ok ⟨1, 1⟩ ∧
    ∃ query stages visits, ofOwner.narrow [] = .ok query ∧
      updateStages markDone = .ok stages ∧
      Visits query stages .first (todosWith "bob").documents visits ∧
      (∀ v ∈ visits, ∀ d, v.outcome = some d →
        (ofOwner.demandUnchanged .write d).result = .ok ()) ∧
      (⟨1, 1⟩ : UpdateCount) = Visit.count visits ∧
      (ofOwner.update [] (.operators markDone) .first (todosWith "bob")).2 =
        { todosWith "bob" with
          documents := visits.map Visit.after
          history := (todosWith "bob").history ++
            Visit.changes (todosWith "bob").name visits } := by
  have hrefused : (ofOwner.update [] (.operators markDone) .every (todosWith "bob")).1.result =
      .error .updateNotPermitted := rfl
  have hdone : (ofOwner.update [] (.operators markDone) .first (todosWith "bob")).1.result =
      .ok ⟨1, 1⟩ := rfl
  have hevery := update_exact_or_unchanged (g := ofOwner) rfl (todosWith "bob") [] markDone .every
  have hfirst := update_exact_or_unchanged (g := ofOwner) rfl (todosWith "bob") [] markDone .first
  exact ⟨⟨hrefused, hevery.1 _ hrefused⟩, hdone, hfirst.2 _ hdone⟩

end Guard

end DocGuard
