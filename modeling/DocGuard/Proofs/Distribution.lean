import DocGuard.Proofs.Pipeline

/-!
# Pipelines that distribute over documents

`$match`, `$set`, `$addFields`, `$unset` and `$project` do the same to a document whatever stands
beside it. A run of such stages over lists put together succeeds exactly if the runs over the
lists do, and gives their outcomes put together. So a run over some documents amounts to a run over
each of them, although it takes all documents through a stage before it reads the next one.
-/

namespace DocGuard

variable {stages documents xs ys out : List Document}

namespace Transform

variable {t : Transform}

theorem apply_nil (t : Transform) : t.apply [] = .ok [] := by
  cases t with
  | limit count => exact congrArg Except.ok List.take_nil
  | skip count => exact congrArg Except.ok List.drop_nil
  | _ => rfl

theorem apply_append (h : t.isPerDocument = true) (xs ys : List Document) :
    t.apply (xs ++ ys) = (do
      let here ← t.apply xs
      let others ← t.apply ys
      return here ++ others) := by
  induction xs with
  | nil =>
    rw [List.nil_append, apply_nil]
    exact (bind_pure (t.apply ys)).symm
  | cons d rest ih =>
    rw [List.cons_append, apply_cons h, ih, apply_cons h d rest]
    simp only [bind_assoc, pure_bind, List.append_assoc]

theorem apply_append_eq_ok (h : t.isPerDocument = true) :
    t.apply (xs ++ ys) = .ok out ↔
      ∃ here others, t.apply xs = .ok here ∧ t.apply ys = .ok others ∧ here ++ others = out := by
  rw [apply_append h]
  simp only [bind_eq_ok]
  constructor
  · rintro ⟨here, hhere, others, hothers, hout⟩
    exact ⟨here, others, hhere, hothers, Except.ok.inj hout⟩
  · rintro ⟨here, others, hhere, hothers, rfl⟩
    exact ⟨here, hhere, others, hothers, rfl⟩

end Transform

/-- Whether each stage that can be read looks at each document by itself. -/
def ArePerDocument (stages : List Document) : Prop :=
  ∀ stage ∈ stages, ∀ t, Transform.read stage = .ok t → t.isPerDocument = true

theorem runPipeline_append_eq_ok (h : ArePerDocument stages) :
    runPipeline stages (xs ++ ys) = .ok out ↔
      ∃ here others, runPipeline stages xs = .ok here ∧ runPipeline stages ys = .ok others ∧
        here ++ others = out := by
  -- a stage turns both lists into others, which the stages behind it take over
  induction stages generalizing xs ys with
  | nil => simp only [runPipeline, Except.ok.injEq, exists_eq_left', exists_and_left]
  | cons stage rest ih =>
    obtain ⟨hstage, hrest⟩ := List.forall_mem_cons.mp h
    constructor
    · intro hrun
      obtain ⟨t, mid, hread, happly, hlater⟩ := runPipeline_cons_eq_ok.mp hrun
      obtain ⟨here, others, hhere, hothers, rfl⟩ :=
        (Transform.apply_append_eq_ok (hstage t hread)).mp happly
      obtain ⟨first, second, hfirst, hsecond, hout⟩ := (ih hrest).mp hlater
      exact ⟨first, second, runPipeline_cons_eq_ok.mpr ⟨t, here, hread, hhere, hfirst⟩,
        runPipeline_cons_eq_ok.mpr ⟨t, others, hread, hothers, hsecond⟩, hout⟩
    · rintro ⟨first, second, hxs, hys, hout⟩
      obtain ⟨t, here, hread, hhere, hfirst⟩ := runPipeline_cons_eq_ok.mp hxs
      obtain ⟨t', others, hread', hothers, hsecond⟩ := runPipeline_cons_eq_ok.mp hys
      -- what the stage asks for does not depend on the documents
      cases hread.symm.trans hread'
      refine runPipeline_cons_eq_ok.mpr ⟨t, here ++ others, hread, ?_, ?_⟩
      · exact (Transform.apply_append_eq_ok (hstage t hread)).mpr
          ⟨here, others, hhere, hothers, rfl⟩
      · exact (ih hrest).mpr ⟨first, second, hfirst, hsecond, hout⟩

/-! ## Named stages -/

/-- The names of the stages that look at each document by itself. -/
def perDocumentNames : List String :=
  ["$match", "$set", "$addFields", "$unset", "$project"]

theorem isPerDocument_of_read {name : String} {spec : Value} {t : Transform}
    (hname : name ∈ perDocumentNames) (hread : Transform.read [(name, spec)] = .ok t) :
    t.isPerDocument = true := by
  simp only [perDocumentNames, List.mem_cons, List.not_mem_nil, or_false] at hname
  rcases hname with rfl | rfl | rfl | rfl | rfl <;>
    · obtain ⟨read, -, ht⟩ := bind_eq_ok.mp hread
      cases ht
      rfl

/-- A pipeline of such stages, well-formed or not, succeeds on some documents exactly if it succeeds
on each of them alone, and then it gives what it gives for them one after another. Without any
documents it can still fail, for each stage is read. -/
theorem runPipeline_eq_ok_iff_flatten
    (hstages : ∀ stage ∈ stages, ∃ name ∈ perDocumentNames, ∃ spec, stage = [(name, spec)])
    (hsome : documents ≠ []) :
    runPipeline stages documents = .ok out ↔
      ∃ outcomes, List.Forall₂ (fun d found => runPipeline stages [d] = .ok found) documents
        outcomes ∧ outcomes.flatten = out := by
  have hper : ArePerDocument stages := by
    intro stage hstage t hread
    obtain ⟨name, hname, spec, rfl⟩ := hstages stage hstage
    exact isPerDocument_of_read hname hread
  induction documents generalizing out with
  | nil => exact absurd rfl hsome
  | cons d rest ih =>
    cases rest with
    | nil =>
      constructor
      · intro hrun
        exact ⟨[out], .cons hrun .nil, List.flatten_singleton⟩
      · rintro ⟨outcomes, hall, rfl⟩
        cases hall with
        | cons hrun hnone =>
          cases hnone
          rwa [List.flatten_singleton]
    | cons e rest =>
      -- the run over the document in front is put before the run over the others
      rw [show d :: e :: rest = [d] ++ e :: rest from rfl, runPipeline_append_eq_ok hper]
      simp only [ih (List.cons_ne_nil e rest)]
      constructor
      · rintro ⟨here, -, hhere, ⟨outcomes, houtcomes, rfl⟩, rfl⟩
        exact ⟨here :: outcomes, .cons hhere houtcomes, List.flatten_cons⟩
      · rintro ⟨outcomes, hall, rfl⟩
        cases hall with
        | cons hhere houtcomes =>
          exact ⟨_, _, hhere, ⟨_, houtcomes, rfl⟩, List.flatten_cons.symm⟩

/-- Of two todos the open one is left, and marked. -/
theorem openTodos_marked :
    runPipeline [[("$match", .doc [("open", .bool true)])],
        [("$set", .doc [("seen", .str "$_id")])]]
      [[("_id", .int32 1), ("open", .bool false)], [("_id", .int32 2), ("open", .bool true)]] =
    .ok [[("_id", .int32 2), ("open", .bool true), ("seen", .int32 2)]] := by
  refine (runPipeline_eq_ok_iff_flatten ?_ (List.cons_ne_nil _ _)).mpr
    ⟨[[], [[("_id", .int32 2), ("open", .bool true), ("seen", .int32 2)]]],
      .cons rfl (.cons rfl .nil), rfl⟩
  simp only [List.forall_mem_cons]
  exact ⟨⟨"$match", by decide, _, rfl⟩, ⟨"$set", by decide, _, rfl⟩, List.forall_mem_nil _⟩

end DocGuard
