import DocGuard.Proofs.Visibility

/-!
# What an update leaves that breaks off

An update puts the documents in their new forms one after another and publishes its changes at the
end. A fault on the way takes nothing back: the documents in front of it have their new forms, the
one that caused it and those behind it are as they were, and nothing is published. An update of one
document ends where it changes something, so that it leaves everything in place where it fails.
-/

namespace DocGuard
namespace Collection

variable {filter : Document} {stages : List Document} {extent : Extent}
  {documents front behind : List Document} {d after : Document} {e : Fault}

/-! ## One document -/

/-- Whether an update has a fault at a document: its filter cannot be decided there, or it matches
and the stages make no document of this one. -/
def FaultAt (filter : Document) (stages : List Document) (d : Document) (e : Fault) : Prop :=
  matchesFilter d filter = .error e ∨
    matchesFilter d filter = .ok true ∧ updated stages d = .error e

/-- Whether an update goes on behind a document: it passes it over, or it is for every document and
makes one of this one. -/
def GoesPast (filter : Document) (stages : List Document) (extent : Extent) (d : Document) : Prop :=
  matchesFilter d filter = .ok false ∨
    matchesFilter d filter = .ok true ∧ extent = .every ∧ ∃ after, updated stages d = .ok after

/-- A document in its form after an update that got past it. -/
def renewed (filter : Document) (stages : List Document) (d : Document) : Document :=
  match matchesFilter d filter, updated stages d with
  | .ok true, .ok after => kept d after
  | _, _ => d

theorem renewed_of_false (h : matchesFilter d filter = .ok false) : renewed filter stages d = d := by
  unfold renewed
  rw [h]

theorem renewed_of_true (h : matchesFilter d filter = .ok true)
    (hafter : updated stages d = .ok after) : renewed filter stages d = kept d after := by
  unfold renewed
  rw [h, hafter]

theorem renewed_of_goesPast_first (h : GoesPast filter stages .first d) :
    renewed filter stages d = d := by
  rcases h with hpassed | ⟨-, hextent, -⟩
  · exact renewed_of_false hpassed
  · cases hextent

/-! ## One step of a pass -/

theorem updatePass_of_faultAt (name : String) (extent : Extent) (h : FaultAt filter stages d e)
    (rest : List Document) :
    updatePass name filter stages extent (d :: rest) = ⟨d :: rest, .error e⟩ := by
  rw [updatePass]
  rcases h with hfilter | ⟨hmatch, hstages⟩
  · simp only [hfilter]
  · simp only [hmatch, hstages]

theorem documents_updatePass_of_goesPast (name : String) (h : GoesPast filter stages extent d)
    (rest : List Document) :
    (updatePass name filter stages extent (d :: rest)).documents =
      renewed filter stages d :: (updatePass name filter stages extent rest).documents := by
  rw [updatePass]
  rcases h with hpassed | ⟨hmatch, rfl, after, hafter⟩
  · simp only [hpassed, renewed_of_false hpassed]
  · simp only [hmatch, hafter, renewed_of_true hmatch hafter]

/-- Behind a document that it gets past, a pass fails exactly where the rest of it fails. -/
theorem updatePass_error_of_goesPast (name : String) (h : GoesPast filter stages extent d)
    (rest : List Document) :
    (updatePass name filter stages extent (d :: rest)).result = .error e ↔
      (updatePass name filter stages extent rest).result = .error e := by
  rw [updatePass]
  rcases h with hpassed | ⟨hmatch, rfl, after, hafter⟩
  · simp only [hpassed]
  · simp only [hmatch, hafter]
    cases (updatePass name filter stages .every rest).result <;> simp [Except.map]

theorem updatePass_first (name : String) (hmatch : matchesFilter d filter = .ok true)
    (hafter : updated stages d = .ok after) (rest : List Document) :
    let changes := changesOf name d after
    updatePass name filter stages .first (d :: rest) =
      ⟨kept d after :: rest, .ok (⟨1, changes.length⟩, changes)⟩ := by
  rw [updatePass]
  simp only [hmatch, hafter]

/-- At a document a pass has a fault, goes on, or ends. -/
theorem updatePass_cases (filter : Document) (stages : List Document) (extent : Extent)
    (d : Document) :
    (∃ e, FaultAt filter stages d e) ∨ GoesPast filter stages extent d ∨
      extent = .first ∧ matchesFilter d filter = .ok true ∧ ∃ after, updated stages d = .ok after := by
  unfold FaultAt GoesPast
  cases matchesFilter d filter with
  | error e => exact .inl ⟨e, .inl rfl⟩
  | ok here =>
    cases here with
    | false => exact .inr (.inl (.inl rfl))
    | true =>
      cases updated stages d with
      | error e => exact .inl ⟨e, .inr ⟨rfl, rfl⟩⟩
      | ok after => cases extent <;> simp

/-! ## A whole pass -/

/-- Whether an update breaks off at a document: it gets past all those in front of it and has a
fault there. -/
structure BreaksOff (filter : Document) (stages : List Document) (extent : Extent)
    (documents front : List Document) (d : Document) (behind : List Document) (e : Fault) :
    Prop where
  split : documents = front ++ d :: behind
  past : ∀ b ∈ front, GoesPast filter stages extent b
  fault : FaultAt filter stages d e

theorem updatePass_of_breaksOff (name : String)
    (h : BreaksOff filter stages extent documents front d behind e) :
    updatePass name filter stages extent documents =
      ⟨front.map (renewed filter stages) ++ d :: behind, .error e⟩ := by
  obtain ⟨rfl, hpast, hfault⟩ := h
  induction front with
  | nil => exact updatePass_of_faultAt name extent hfault behind
  | cons b front ih =>
    obtain ⟨hb, hfront⟩ := List.forall_mem_cons.mp hpast
    have hdocuments := documents_updatePass_of_goesPast name hb (front ++ d :: behind)
    have hresult := updatePass_error_of_goesPast (e := e) name hb (front ++ d :: behind)
    rw [ih hfront] at hdocuments hresult
    show updatePass name filter stages extent (b :: (front ++ d :: behind)) = ⟨_, _⟩
    cases hpass : updatePass name filter stages extent (b :: (front ++ d :: behind)) with
    | mk left result =>
      rw [hpass] at hdocuments hresult
      have hleft : left = _ := hdocuments
      have herror : result = .error e := hresult.mpr rfl
      rw [hleft, herror]
      rfl

theorem exists_breaksOff {name : String}
    (h : (updatePass name filter stages extent documents).result = .error e) :
    ∃ front d behind, BreaksOff filter stages extent documents front d behind e := by
  induction documents with
  | nil => cases h
  | cons d rest ih =>
    rcases updatePass_cases filter stages extent d with ⟨e', hd⟩ | hd | ⟨rfl, hmatch, after, hafter⟩
    · rw [updatePass_of_faultAt name extent hd] at h
      cases h
      exact ⟨[], d, rest, rfl, List.forall_mem_nil _, hd⟩
    · have htail := (updatePass_error_of_goesPast name hd rest).mp h
      obtain ⟨front, d', behind, rfl, hpast, hfault⟩ := ih htail
      exact ⟨d :: front, d', behind, rfl, List.forall_mem_cons.mpr ⟨hd, hpast⟩, hfault⟩
    · -- the first match ends the update, so that nothing behind it can make it fail
      rw [updatePass_first name hmatch hafter] at h
      cases h

/-! ## Updates that fail -/

variable {c : Collection} {modification : Modification}

theorem update_of_breaksOff (hstages : modification.toStages = .ok stages)
    (h : BreaksOff filter stages extent c.documents front d behind e) :
    update filter modification extent c =
      (.error e, c.holding (front.map (renewed filter stages) ++ d :: behind)) := by
  unfold update
  simp only [hstages, updatePass_of_breaksOff c.name h]
  rfl

theorem update_eq_error_iff :
    (update filter modification extent c).1 = .error e ↔
      modification.toStages = .error e ∨
        ∃ stages front d behind, modification.toStages = .ok stages ∧
          BreaksOff filter stages extent c.documents front d behind e := by
  cases hstages : modification.toStages with
  | error e' => simp [update, hstages]
  | ok stages =>
    constructor
    · intro h
      right
      unfold update at h
      simp only [hstages] at h
      cases hpass : (updatePass c.name filter stages extent c.documents).result with
      | ok done => simp only [hpass] at h; cases h
      | error e' =>
        simp only [hpass] at h
        cases h
        obtain ⟨front, d, behind, hbreak⟩ := exists_breaksOff hpass
        exact ⟨stages, front, d, behind, rfl, hbreak⟩
    · rintro (h | ⟨_, front, d, behind, hsame, hbreak⟩)
      · cases h
      · cases hsame
        rw [update_of_breaksOff hstages hbreak]

theorem update_of_toStages_error (h : modification.toStages = .error e) :
    update filter modification extent c = (.error e, c) := by
  unfold update
  rw [h]

/-- An update fails exactly where its stages cannot be made out, which leaves the collection as it
was, or where it breaks off at a document. It then has published nothing, and the documents in front
of that one stand in their new forms: the collection is as it was exactly if each of these forms is
the old one. An update of one document leaves the collection as it was wherever it fails. -/
theorem update_error_keeps_front (c : Collection) (filter : Document) (modification : Modification)
    (extent : Extent) :
    (∀ e, (update filter modification extent c).1 = .error e ↔
      modification.toStages = .error e ∨
        ∃ stages front d behind, modification.toStages = .ok stages ∧
          BreaksOff filter stages extent c.documents front d behind e) ∧
    (∀ e, modification.toStages = .error e → (update filter modification extent c).2 = c) ∧
    (∀ stages front d behind e, modification.toStages = .ok stages →
      BreaksOff filter stages extent c.documents front d behind e →
      (update filter modification extent c).2 =
          c.holding (front.map (renewed filter stages) ++ d :: behind) ∧
        ((update filter modification extent c).2 = c ↔
          ∀ b ∈ front, renewed filter stages b = b)) ∧
    (extent = .first → ∀ e, (update filter modification extent c).1 = .error e →
      (update filter modification extent c).2 = c) := by
  have hkept : ∀ stages front d behind e, modification.toStages = .ok stages →
      BreaksOff filter stages extent c.documents front d behind e →
      ((update filter modification extent c).2 = c ↔ ∀ b ∈ front, renewed filter stages b = b) := by
    intro stages front d behind e hstages hbreak
    rw [update_of_breaksOff hstages hbreak]
    have hmap : (∀ b ∈ front, renewed filter stages b = b) ↔
        front.map (renewed filter stages) = front := by
      conv_rhs => rhs; rw [← List.map_id front]
      exact List.map_inj_left.symm
    rw [hmap]
    constructor
    · intro hsame
      have hdocuments := congrArg Collection.documents hsame
      rw [hbreak.split] at hdocuments
      exact List.append_cancel_right hdocuments
    · intro hfront
      show c.holding _ = c
      rw [hfront, ← hbreak.split]
      rfl
  refine ⟨fun e => update_eq_error_iff, fun e h => by rw [update_of_toStages_error h], ?_, ?_⟩
  · intro stages front d behind e hstages hbreak
    exact ⟨by rw [update_of_breaksOff hstages hbreak], hkept stages front d behind e hstages hbreak⟩
  · rintro rfl e herror
    rcases update_eq_error_iff.mp herror with hstages | ⟨stages, front, d, behind, hstages, hbreak⟩
    · rw [update_of_toStages_error hstages]
    · refine (hkept stages front d behind e hstages hbreak).mpr fun b hb => ?_
      exact renewed_of_goesPast_first (hbreak.past b hb)

def numberAndText : Collection :=
  .ofDocuments "todos" [
    [("_id", .int32 1), ("n", .int32 1)],
    [("_id", .int32 2), ("n", .str "x")]]

def oneMore : Modification :=
  .operators [("$inc", .doc [("n", .int32 1)])]

/-- Adding one to both todos fails at the text, and has then added one to the number. -/
theorem update_keeps_first_sum :
    (update [] oneMore .every numberAndText).1 =
        .error (.store (.numberExpected (.str "x"))) ∧
      (update [] oneMore .every numberAndText).2 = numberAndText.holding [
        [("_id", .int32 1), ("n", .int32 2)],
        [("_id", .int32 2), ("n", .str "x")]] := by
  let sum : Document := [("$set", .doc [
    ("n", .doc [("$add", .array [orElse "n" (.int32 0), .int32 1])])])]
  let one : Document := [("_id", .int32 1), ("n", .int32 1)]
  let text : Document := [("_id", .int32 2), ("n", .str "x")]
  have hstages : oneMore.toStages = .ok [sum] := rfl
  have hbreak : BreaksOff [] [sum] .every numberAndText.documents [one] text []
      (.store (.numberExpected (.str "x"))) := by
    refine ⟨rfl, fun b hb => ?_, .inr ⟨rfl, rfl⟩⟩
    rw [List.mem_singleton.mp hb]
    exact .inr ⟨rfl, rfl, [("_id", .int32 1), ("n", .int32 2)], rfl⟩
  obtain ⟨hfails, -, hleft, -⟩ := update_error_keeps_front numberAndText [] oneMore .every
  constructor
  · exact (hfails _).mpr (.inr ⟨_, _, _, _, hstages, hbreak⟩)
  · exact (hleft _ _ _ _ _ hstages hbreak).1

/-- So a failed update does not leave the collection as it was. -/
theorem update_error_changes_store :
    ¬ ∀ (c : Collection) (filter : Document) (modification : Modification) (extent : Extent)
      (e : Fault), (update filter modification extent c).1 = .error e →
        (update filter modification extent c).2 = c := by
  intro hall
  have hintact := hall numberAndText [] oneMore .every (.store (.numberExpected (.str "x"))) rfl
  have hone := congrArg
    (fun c => c.documents.any fun d => Value.isJust (d.get? "n") (.int32 1)) hintact
  exact absurd hone (by decide)

end Collection
end DocGuard
