import DocGuard.Guard.Writing
import DocGuard.Proofs.Collection

/-!
# What guarded updates write

A guarded update is tried out on all selected documents at once, and the outcomes have to pass
validation. The write then runs the same stages on each document alone. The two agree on every
document that no `$limit` of a user's pipeline cuts off, so that what is written was validated.
-/

namespace DocGuard

/-! ## Writes that wait for a decision -/

section

variable {α β : Type} {decision : Traced α} {write : α → Write β} {c : Collection}

theorem Traced.thenWrite_of_ok {a : α} (h : decision.result = .ok a) :
    decision.thenWrite write c = (⟨decision.calls, (write a c).1⟩, (write a c).2) := by
  unfold Traced.thenWrite
  rw [h]

theorem Traced.thenWrite_of_error {e : Fault} (h : decision.result = .error e) :
    decision.thenWrite write c = (⟨decision.calls, .error e⟩, c) := by
  unfold Traced.thenWrite
  rw [h]

theorem Traced.thenWrite_eq_ok {b : β} (h : (decision.thenWrite write c).1.result = .ok b) :
    ∃ a, decision.result = .ok a ∧ (write a c).1 = .ok b ∧
      (decision.thenWrite write c).2 = (write a c).2 := by
  cases hresult : decision.result with
  | error e => rw [thenWrite_of_error hresult] at h; cases h
  | ok a => rw [thenWrite_of_ok hresult] at h ⊢; exact ⟨a, rfl, h, rfl⟩

/-- Where a write cannot fail once it is decided, a fault leaves the collection as it was. -/
theorem Traced.thenWrite_unchanged {e : Fault}
    (hwrite : ∀ a, decision.result = .ok a → ∃ b, (write a c).1 = .ok b)
    (h : (decision.thenWrite write c).1.result = .error e) : (decision.thenWrite write c).2 = c := by
  cases hresult : decision.result with
  | error e => rw [thenWrite_of_error hresult]
  | ok a =>
    obtain ⟨b, hb⟩ := hwrite a hresult
    rw [thenWrite_of_ok hresult, hb] at h
    cases h

end

/-! ## Trying an update out -/

/-- Trying an update out runs its stages on the documents that the request is for. -/
theorem runPipeline_selectionStages (query : Document) (extent : Extent)
    (stages documents : List Document) :
    runPipeline (selectionStages query extent ++ stages) documents =
      (do runPipeline stages (extent.cut (← select query documents))) := by
  cases extent with
  | every => exact runPipeline_match query stages documents
  | first =>
    refine (runPipeline_match query _ documents).trans ?_
    refine bind_congr fun found => ?_
    exact runPipeline_limit_one stages found

/-- An update operator makes one document of each document. -/
theorem mapsEach_of_read_stage {op : UpdateOperator} {fields : Document} {t : Transform}
    (h : Transform.read (op.stage fields) = .ok t) : t.mapsEach = true := by
  cases op with
  | unset =>
    obtain ⟨paths, _, hpaths⟩ := bind_eq_ok.mp h
    cases hpaths
    rfl
  | _ => cases h; rfl

/-- Each stage of an update is that of one of its operators. -/
theorem exists_operator_of_updateStages {update : Document} {stages : List Document}
    (h : updateStages update = .ok stages) :
    ∀ stage ∈ stages, ∃ (op : UpdateOperator) (d : Document), stage = op.stage d := by
  obtain ⟨parts, -, rfl⟩ := exists_parts_of_updateStages h
  exact List.forall_mem_map.mpr fun part _ => ⟨part.1, part.2, rfl⟩

theorem limitsAdmit_updateStages {update : Document} {stages : List Document} (number : Nat)
    (h : updateStages update = .ok stages) : LimitsAdmit stages number := by
  intro stage hstage count hcount
  obtain ⟨op, fields, rfl⟩ := exists_operator_of_updateStages h stage hstage
  cases mapsEach_of_read_stage hcount

/-- An update that succeeds on documents together gives the outcomes that they have alone. -/
theorem forall₂_of_updateStages {update : Document} {stages documents out : List Document}
    (h : updateStages update = .ok stages) (hrun : runPipeline stages documents = .ok out) :
    List.Forall₂ (fun d d' => runPipeline stages [d] = .ok [d']) documents out := by
  refine forall₂_of_runPipeline (fun stage hstage t hread => ?_) hrun
  obtain ⟨op, fields, rfl⟩ := exists_operator_of_updateStages h stage hstage
  exact mapsEach_of_read_stage hread

/-- A `$limit` of an update for one document lets that document through, as the update fails
otherwise. -/
theorem limitsAdmit_of_first {stages found outcomes : List Document}
    (h : List.Forall₂ (fun d d' => runPipeline stages [d] = .ok [d']) (Extent.first.cut found)
      outcomes) : LimitsAdmit stages outcomes.length := by
  have hlength : outcomes.length ≤ 1 := by
    rw [← h.length_eq]
    exact List.length_take_le 1 found
  intro stage hstage count hcount
  generalize Extent.first.cut found = selected at h
  cases h with
  | nil => exact Nat.zero_le count
  | cons hd _ =>
    exact Nat.le_trans hlength (limitsAdmit_of_runPipeline hd stage hstage count hcount)

namespace Guard

/-- A document passes validation for an access if the user may access it in full. -/
def Passes (g : Guard) (access : Access) (d : Document) : Prop :=
  ∃ seen, (g.validate d access).result = .ok (some seen) ∧ seen.equal d = true

theorem passes_of_demandUnchanged {g : Guard} {access : Access} {d : Document}
    (h : (g.demandUnchanged access d).result = .ok ()) : g.Passes access d := by
  unfold demandUnchanged at h
  rw [Traced.result_bind] at h
  obtain ⟨part, hvalid, hrest⟩ := bind_eq_ok.mp h
  cases part with
  | none => cases hrest
  | some seen =>
    cases hequal : seen.equal d with
    | true => exact ⟨seen, hvalid, hequal⟩
    | false => simp only [hequal] at hrest; cases hrest

/-- An update that is let through was tried out, and what came out passes validation. -/
theorem decideUpdate_eq_ok {g : Guard} {c : Collection} {filter query : Document}
    {modification : Modification} {extent : Extent}
    (h : (g.decideUpdate c filter modification extent).result = .ok query) :
    ∃ stages tried, g.narrow filter = .ok query ∧ modification.toStages = .ok stages ∧
      c.aggregate (selectionStages query extent ++ stages) = .ok tried ∧
      ∀ v ∈ tried, (g.demandUnchanged .write v).result = .ok () := by
  unfold decideUpdate at h
  simp only [Traced.result_bind] at h
  obtain ⟨query', hquery', h⟩ := bind_eq_ok.mp h
  obtain ⟨stages, hstages, h⟩ := bind_eq_ok.mp h
  obtain ⟨tried, htried, h⟩ := bind_eq_ok.mp h
  obtain ⟨_, hall, hquery⟩ := bind_eq_ok.mp h
  cases hquery
  exact ⟨stages, tried, hquery', hstages, htried, fun v hv => Traced.result_of_forAll hall hv⟩

/-- An update that succeeds has tried its stages out on all the documents that it is for, and then
has written what the stages make of each of them alone. -/
theorem update_eq_ok {g : Guard} {c : Collection} {filter : Document}
    {modification : Modification} {extent : Extent} {count : UpdateCount}
    (hsystem : g.asSystem = false)
    (hok : (g.update filter modification extent c).1.result = .ok count) :
    ∃ query stages found tried written, g.narrow filter = .ok query ∧
      modification.toStages = .ok stages ∧ select query c.documents = .ok found ∧
      runPipeline stages (extent.cut found) = .ok tried ∧ (∀ v ∈ tried, g.Passes .write v) ∧
      List.Forall₂ (fun d v => runPipeline stages [d] = .ok [v]) (extent.cut found) written ∧
      count.matched = written.length ∧
      List.Forall₂ (fun before after => after = before ∨ after ∈ written) c.documents
        (g.update filter modification extent c).2.documents := by
  unfold update at hok ⊢
  rw [hsystem] at hok ⊢
  obtain ⟨query, hdecided, hwrite, hstore⟩ := Traced.thenWrite_eq_ok hok
  rw [hstore]
  obtain ⟨stages, tried, hquery, hstages, htried, hdemanded⟩ := decideUpdate_eq_ok hdecided
  rw [Collection.aggregate, runPipeline_selectionStages] at htried
  obtain ⟨found, hfound, hrun⟩ := bind_eq_ok.mp htried
  have hpasses : ∀ v ∈ tried, g.Passes .write v := fun v hv =>
    passes_of_demandUnchanged (hdemanded v hv)
  refine ⟨query, stages, found, tried, ?_⟩
  unfold Collection.update at hwrite ⊢
  simp only [hstages] at hwrite ⊢
  cases hpass : (Collection.updatePass c.name query stages extent c.documents).result with
  | error e => simp only [hpass] at hwrite; cases hwrite
  | ok done =>
    obtain ⟨counted, changes⟩ := done
    simp only [hpass] at hwrite ⊢
    cases hwrite
    obtain ⟨written, halone, hmatched, hdocuments⟩ := Collection.updatePass_eq_ok hfound hpass
    exact ⟨written, hquery, trivial, hfound, hrun, hpasses, halone, hmatched, hdocuments⟩

/-- The shapes that an update tries out are as many as the documents that it matches exactly if
each of its `$limit`s lets all of these through. -/
theorem length_tried_eq_iff {stages selected tried written : List Document}
    (hrun : runPipeline stages selected = .ok tried)
    (halone : List.Forall₂ (fun d v => runPipeline stages [d] = .ok [v]) selected written) :
    tried.length = written.length ↔ LimitsAdmit stages written.length := by
  constructor
  · intro hlength
    exact hlength ▸ limitsAdmit_of_runPipeline hrun
  · intro hlimits
    have htake := take_runPipeline halone hrun hlimits
    have hle : tried.length ≤ written.length := halone.length_eq ▸ length_runPipeline_le hrun
    rw [List.take_length, List.take_of_length_le hle] at htake
    rw [htake]

def ofOwner : Guard where
  rules := [("todos", ⟨[{ Role.bare "owner" with
    write := some (.condition [("%%root.owner", .str "%%user.id")]) }], []⟩)]
  collection := "todos"
  user := [("id", .str "ann")]
  asSystem := false
  caller := fun name _ _ => .error (.functionNotFound name)

/-- A document of that user and one of some owner. -/
def todosWith (owner : String) : Collection :=
  .ofDocuments "todos" [
    [("_id", .int32 1), ("owner", .str "ann")],
    [("_id", .int32 2), ("owner", .str owner)]]

/-- Stages that mark the documents up to a number of them. -/
def markUpTo (count : Int32) : List Document :=
  [[("$limit", .int32 count)], [("$set", .doc [("done", .bool true)])]]

/-- When an update succeeds, each document that it changes passes validation in the form in which
it is now stored. For an update of many documents by stages of the user this takes that each
`$limit` among them lets all the matched documents through. -/
theorem update_writes_validated {g : Guard} {c : Collection} {filter : Document}
    {modification : Modification} {extent : Extent} {count : UpdateCount}
    (hsystem : g.asSystem = false)
    (hok : (g.update filter modification extent c).1.result = .ok count)
    (hlimits : extent = .every → ∀ pipeline, modification = .stages pipeline →
      LimitsAdmit pipeline count.matched) :
    List.Forall₂ (fun before after => after = before ∨ g.Passes .write after) c.documents
      (g.update filter modification extent c).2.documents := by
  obtain ⟨query, stages, found, tried, written, -, hstages, -, hrun, hpasses, halone, hmatched,
    hdocuments⟩ := update_eq_ok hsystem hok
  have hadmit : LimitsAdmit stages written.length := by
    cases extent with
    | first => exact limitsAdmit_of_first halone
    | every =>
      cases modification with
      | operators update => exact limitsAdmit_updateStages _ hstages
      | stages pipeline =>
        cases hstages
        exact hmatched ▸ hlimits rfl stages rfl
  have htake := take_runPipeline halone hrun hadmit
  rw [List.take_length] at htake
  -- what is written is among the first shapes that were tried out
  refine hdocuments.imp fun before after hafter => hafter.imp id fun hmem => ?_
  exact hpasses after (List.mem_of_mem_take (htake ▸ hmem))

/-- Two documents of the user are marked by stages that let just two documents through. -/
theorem update_marks_two :
    (ofOwner.update [] (.stages (markUpTo 2)) .every (todosWith "ann")).1.result = .ok ⟨2, 2⟩ ∧
      List.Forall₂ (fun before after => after = before ∨ ofOwner.Passes .write after)
        (todosWith "ann").documents
        (ofOwner.update [] (.stages (markUpTo 2)) .every (todosWith "ann")).2.documents := by
  have hok : (ofOwner.update [] (.stages (markUpTo 2)) .every (todosWith "ann")).1.result =
      .ok ⟨2, 2⟩ := rfl
  refine ⟨hok, update_writes_validated rfl hok fun _ pipeline hpipeline => ?_⟩
  cases hpipeline
  intro stage hstage count hcount
  rcases List.mem_cons.mp hstage with rfl | hstage
  · have hlimit : Transform.read [("$limit", .int32 2)] = .ok (.limit 2) := rfl
    rw [hlimit] at hcount
    cases hcount
    exact Nat.le_refl 2
  · cases List.mem_singleton.mp hstage
    cases hcount

/-- Without the condition on `$limit` unvalidated documents are written: here the shape of the
user's own document is tried out, and then the document of somebody else is written too. -/
theorem update_writes_unvalidated :
    ¬ ∀ (g : Guard) (c : Collection) (filter : Document) (modification : Modification)
      (extent : Extent) (count : UpdateCount), g.asSystem = false →
      (g.update filter modification extent c).1.result = .ok count →
      List.Forall₂ (fun before after => after = before ∨ g.Passes .write after) c.documents
        (g.update filter modification extent c).2.documents := by
  intro hall
  let stranger : Document := [("_id", .int32 2), ("owner", .str "bob"), ("done", .bool true)]
  have hcut := hall ofOwner (todosWith "bob") [] (.stages (markUpTo 1)) .every ⟨2, 2⟩ rfl rfl
  have hstored :
      (ofOwner.update [] (.stages (markUpTo 1)) .every (todosWith "bob")).2.documents =
        [[("_id", .int32 1), ("owner", .str "ann"), ("done", .bool true)], stranger] := rfl
  have hdenied : (ofOwner.validate stranger .write).result = .ok none := rfl
  rw [hstored] at hcut
  cases hcut with
  | cons _ hrest =>
    cases hrest with
    | cons hsecond _ =>
      rcases hsecond with hsame | ⟨seen, hseen, -⟩
      · exact absurd (congrArg List.length hsame) (by decide)
      · rw [hdenied] at hseen
        cases hseen

end Guard

end DocGuard
