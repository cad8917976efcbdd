import DocGuard.Proofs.Computation
import DocGuard.Query.Update

/-!
# Runs of pipelines

A pipeline that is run on many documents at once and on each of them alone need not do the same:
a `$limit` counts the documents at hand. Apart from that, a run on documents each of which goes
through the pipeline alone gives their outcomes in order.
-/

namespace DocGuard

/-! ## Lists of results -/

/-- Two relations along lists, one after the other. -/
theorem forall₂_comp {α β γ : Type} {R : α → β → Prop} {S : β → γ → Prop} {xs : List α}
    {zs : List γ} :
    List.Forall₂ (fun x z => ∃ y, R x y ∧ S y z) xs zs ↔
      ∃ ys, List.Forall₂ R xs ys ∧ List.Forall₂ S ys zs := by
  constructor
  · intro h
    induction h with
    | nil => exact ⟨[], .nil, .nil⟩
    | cons hstep _ ih =>
      obtain ⟨y, hxy, hyz⟩ := hstep
      obtain ⟨ys, hxs, hzs⟩ := ih
      exact ⟨y :: ys, .cons hxy hxs, .cons hyz hzs⟩
  · rintro ⟨ys, hxs, hzs⟩
    induction hxs generalizing zs with
    | nil => cases hzs; exact .nil
    | cons hxy _ ih =>
      cases hzs with
      | cons hyz hrest => exact .cons ⟨_, hxy, hyz⟩ (ih hrest)

/-- A function that succeeds on each item succeeds on the list, with the same outcomes. -/
theorem mapM_eq_ok {α β : Type} {f : α → Except Fault β} {xs : List α} {ys : List β} :
    xs.mapM f = .ok ys ↔ List.Forall₂ (fun x y => f x = .ok y) xs ys := by
  induction xs generalizing ys with
  | nil =>
    rw [List.mapM_nil, List.forall₂_nil_left_iff]
    change Except.ok [] = Except.ok ys ↔ _
    rw [Except.ok.injEq, eq_comm]
  | cons x xs ih =>
    rw [List.mapM_cons, List.forall₂_cons_left_iff, bind_eq_ok]
    constructor
    · rintro ⟨y, hy, hrest⟩
      obtain ⟨rest, hrest, hys⟩ := bind_eq_ok.mp hrest
      exact ⟨y, rest, hy, ih.mp hrest, (Except.ok.inj hys).symm⟩
    · rintro ⟨y, rest, hy, hrest, rfl⟩
      exact ⟨y, hy, bind_eq_ok.mpr ⟨rest, ih.mpr hrest, rfl⟩⟩

/-! ## Selecting -/

theorem select_cons_eq_ok {filter d : Document} {rest found : List Document} :
    select filter (d :: rest) = .ok found ↔
      ∃ here others, matchesFilter d filter = .ok here ∧ select filter rest = .ok others ∧
        found = if here then d :: others else others := by
  rw [select]
  simp only [bind_eq_ok]
  constructor
  · rintro ⟨here, hhere, others, hothers, hfound⟩
    exact ⟨here, others, hhere, hothers, (Except.ok.inj hfound).symm⟩
  · rintro ⟨here, others, hhere, hothers, rfl⟩
    exact ⟨here, hhere, others, hothers, rfl⟩

theorem mem_select {filter d : Document} {documents found : List Document}
    (h : select filter documents = .ok found) :
    d ∈ found ↔ d ∈ documents ∧ matchesFilter d filter = .ok true := by
  induction documents generalizing found with
  | nil => cases h; simp only [List.not_mem_nil, false_and]
  | cons first rest ih =>
    obtain ⟨here, others, hhere, hothers, rfl⟩ := select_cons_eq_ok.mp h
    rw [List.mem_cons, or_and_right, ← ih hothers]
    cases here with
    | true =>
      have hfirst : d = first ∧ matchesFilter d filter = .ok true ↔ d = first :=
        and_iff_left_of_imp fun hd => hd ▸ hhere
      rw [if_pos rfl, List.mem_cons, hfirst]
    | false =>
      have hfirst : ¬ (d = first ∧ matchesFilter d filter = .ok true) := by
        rintro ⟨rfl, hmatch⟩
        rw [hhere] at hmatch
        cases hmatch
      rw [if_neg (by decide), or_iff_right hfirst]

/-- A selection that succeeds has decided for every document. -/
theorem exists_matchesFilter_of_select {filter d : Document} {documents found : List Document}
    (h : select filter documents = .ok found) (hd : d ∈ documents) :
    ∃ here, matchesFilter d filter = .ok here := by
  induction documents generalizing found with
  | nil => exact absurd hd List.not_mem_nil
  | cons first rest ih =>
    obtain ⟨here, others, hhere, hothers, -⟩ := select_cons_eq_ok.mp h
    rcases List.mem_cons.mp hd with rfl | hmem
    · exact ⟨here, hhere⟩
    · exact ih hothers hmem

theorem selectFirst_eq_some {filter d : Document} {documents : List Document}
    (h : selectFirst filter documents = .ok (some d)) :
    d ∈ documents ∧ matchesFilter d filter = .ok true := by
  induction documents with
  | nil => cases h
  | cons first rest ih =>
    obtain ⟨here, hhere, hrest⟩ := bind_eq_ok.mp h
    cases here with
    | true => cases hrest; exact ⟨List.mem_cons_self, hhere⟩
    | false => exact (ih hrest).imp_left (List.mem_cons_of_mem first)

/-- Whether a filter is found to match a document; a fault is no match. -/
def satisfies (filter d : Document) : Bool :=
  match matchesFilter d filter with
  | .ok here => here
  | .error _ => false

theorem satisfies_of_ok {filter d : Document} {here : Bool}
    (h : matchesFilter d filter = .ok here) : satisfies filter d = here := by
  unfold satisfies
  rw [h]

/-- A selection without a fault keeps the documents that match. -/
theorem select_eq_filter {filter : Document} {documents found : List Document}
    (h : select filter documents = .ok found) : found = documents.filter (satisfies filter) := by
  induction documents generalizing found with
  | nil => cases h; rfl
  | cons d rest ih =>
    obtain ⟨here, others, hhere, hothers, rfl⟩ := select_cons_eq_ok.mp h
    rw [List.filter_cons, satisfies_of_ok hhere, ih hothers]

/-- What is selected is a part of what there is, in its order. -/
theorem select_sublist {filter : Document} {documents found : List Document}
    (h : select filter documents = .ok found) : found.Sublist documents := by
  induction documents generalizing found with
  | nil => cases h; exact .slnil
  | cons d rest ih =>
    obtain ⟨here, others, _, hothers, rfl⟩ := select_cons_eq_ok.mp h
    cases here with
    | true => exact (ih hothers).cons_cons d
    | false => exact (ih hothers).cons d

/-! ## Stages -/

theorem requireNames_map_str (names : List String) : requireNames (names.map .str) = .ok names := by
  induction names with
  | nil => rfl
  | cons name rest ih => rw [List.map_cons, requireNames, ih]; rfl

namespace Transform

/-- The outcomes that a stage lets through: the first ones at a `$limit`, else all of them. -/
def cut (outcomes : List Document) : Transform → List Document
  | .limit count => outcomes.take count
  | _ => outcomes

/-- No stage makes documents. -/
theorem length_apply_le {t : Transform} {documents out : List Document}
    (h : t.apply documents = .ok out) : out.length ≤ documents.length := by
  cases t with
  | keep filter => exact (select_sublist h).length_le
  | limit count => cases h; rw [List.length_take]; omega
  | skip count => cases h; rw [List.length_drop]; omega
  | assign fields => exact Nat.le_of_eq (mapM_eq_ok.mp h).length_eq.symm
  | unset paths => cases h; exact Nat.le_of_eq (List.length_map _)
  | project projection => cases h; exact Nat.le_of_eq (List.length_map _)

/-- Whether a stage looks at each document by itself. -/
def isPerDocument : Transform → Bool
  | .limit _ => false
  | .skip _ => false
  | _ => true

/-- Such a stage gives what it makes of the first document and then what it makes of the others. -/
theorem apply_cons {t : Transform} (h : t.isPerDocument = true) (d : Document)
    (rest : List Document) :
    t.apply (d :: rest) = (do
      let here ← t.apply [d]
      let others ← t.apply rest
      return here ++ others) := by
  cases t with
  | limit count => cases h
  | skip count => cases h
  | keep filter =>
    change select filter (d :: rest) = (do
      let here ← select filter [d]
      let others ← select filter rest
      return here ++ others)
    simp only [select, bind_assoc]
    congr 1
    funext here
    cases here <;> rfl
  | assign fields =>
    change List.mapM _ (d :: rest) = (do
      let here ← List.mapM _ [d]
      let others ← List.mapM _ rest
      return here ++ others)
    simp only [List.mapM_cons, List.mapM_nil, bind_assoc, pure_bind]
    rfl
  | unset paths => rfl
  | project projection => rfl

/-- Whether a stage makes one document of each document. -/
def mapsEach : Transform → Bool
  | .assign _ => true
  | .unset _ => true
  | .project _ => true
  | _ => false

/-- Such a stage makes of each document of a list what it makes of it alone. -/
theorem forall₂_of_apply {t : Transform} {documents out : List Document}
    (h : t.mapsEach = true) (happly : t.apply documents = .ok out) :
    List.Forall₂ (fun d d' => t.apply [d] = .ok [d']) documents out := by
  cases t with
  | assign fields =>
    exact (mapM_eq_ok.mp happly).imp fun _ _ hd => mapM_eq_ok.mpr (.cons hd .nil)
  | unset paths =>
    cases happly
    exact List.forall₂_map_right_iff.mpr (List.forall₂_same.mpr fun _ _ => rfl)
  | project projection =>
    cases happly
    exact List.forall₂_map_right_iff.mpr (List.forall₂_same.mpr fun _ _ => rfl)
  | _ => cases h

theorem cut_of_isPerDocument {t : Transform} (h : t.isPerDocument = true)
    (outcomes : List Document) : t.cut outcomes = outcomes := by
  cases t with
  | limit count => cases h
  | _ => rfl

theorem apply_limit_single {count : Nat} {d d' : Document}
    (h : (limit count).apply [d] = .ok [d']) : d = d' := by
  have htake : [d].take count = [d'] := Except.ok.inj h
  have hmem : d' ∈ [d] := List.mem_of_mem_take (htake ▸ List.mem_singleton_self d')
  exact (List.mem_singleton.mp hmem).symm

theorem apply_skip_single {count : Nat} {d d' : Document}
    (h : (skip count).apply [d] = .ok [d']) : count = 0 ∧ d = d' := by
  have hdrop : [d].drop count = [d'] := Except.ok.inj h
  have hmem : d' ∈ [d] := List.mem_of_mem_drop (hdrop ▸ List.mem_singleton_self d')
  have hlength := congrArg List.length hdrop
  rw [List.length_drop, List.length_singleton, List.length_singleton] at hlength
  exact ⟨by omega, (List.mem_singleton.mp hmem).symm⟩

/-- Documents each of which a stage lets through alone go through it together, as far as it does
not cut them off. -/
theorem apply_of_forall₂ {t : Transform} {documents outcomes : List Document}
    (h : List.Forall₂ (fun d d' => t.apply [d] = .ok [d']) documents outcomes) :
    t.apply documents = .ok (t.cut outcomes) := by
  cases hper : t.isPerDocument with
  | true =>
    rw [cut_of_isPerDocument hper]
    induction h with
    | nil => cases t <;> first | rfl | cases hper
    | cons hd _ ih => rw [apply_cons hper, hd, ih]; rfl
  | false =>
    -- a stage that counts leaves the documents as they are
    cases t with
    | limit count =>
      have hsame : documents = outcomes := by
        rw [← List.forall₂_eq_eq_eq]
        exact h.imp fun _ _ hd => apply_limit_single hd
      rw [hsame]
      rfl
    | skip count =>
      have hsame : documents = outcomes := by
        rw [← List.forall₂_eq_eq_eq]
        exact h.imp fun _ _ hd => (apply_skip_single hd).2
      rw [hsame]
      cases h with
      | nil => exact congrArg Except.ok List.drop_nil
      | cons hd _ => rw [(apply_skip_single hd).1]; rfl
    | _ => cases hper

end Transform

/-! ## Runs -/

theorem runPipeline_cons_eq_ok {stage : Document} {rest documents out : List Document} :
    runPipeline (stage :: rest) documents = .ok out ↔
      ∃ t mid, Transform.read stage = .ok t ∧ t.apply documents = .ok mid ∧
        runPipeline rest mid = .ok out := by
  rw [runPipeline]
  simp only [bind_eq_ok]
  constructor
  · rintro ⟨t, hread, mid, happly, hrun⟩
    exact ⟨t, mid, hread, happly, hrun⟩
  · rintro ⟨t, mid, hread, happly, hrun⟩
    exact ⟨t, hread, mid, happly, hrun⟩

/-- A `$match` in front selects for the stages behind it. -/
theorem runPipeline_match (filter : Document) (rest documents : List Document) :
    runPipeline ([("$match", .doc filter)] :: rest) documents =
      select filter documents >>= runPipeline rest := rfl

theorem runPipeline_limit_one (rest documents : List Document) :
    runPipeline ([("$limit", .int32 1)] :: rest) documents =
      runPipeline rest (documents.take 1) := rfl

theorem runPipeline_set (fields d : Document) :
    runPipeline [[("$set", .doc fields)]] [d] = (do return [← Document.assign fields d]) := by
  change (do
    let out ← List.mapM (Document.assign fields) [d]
    runPipeline [] out) = _
  rw [List.mapM_cons, List.mapM_nil]
  simp only [bind_assoc, pure_bind]
  rfl

theorem runPipeline_unset (paths : List String) (d : Document) :
    runPipeline [[("$unset", .array (paths.map .str))]] [d] =
      .ok [paths.foldl Document.removePath d] := by
  change (do
    let t ← (do return Transform.unset (← requireNames (paths.map .str)))
    runPipeline [] (← t.apply [d])) = _
  rw [requireNames_map_str]
  rfl

theorem length_runPipeline_le {stages documents out : List Document}
    (h : runPipeline stages documents = .ok out) : out.length ≤ documents.length := by
  induction stages generalizing documents with
  | nil => cases h; exact Nat.le_refl _
  | cons stage rest ih =>
    obtain ⟨t, mid, _, happly, hrun⟩ := runPipeline_cons_eq_ok.mp h
    exact Nat.le_trans (ih hrun) (Transform.length_apply_le happly)

/-- A run of stages that make one document of each document gives the outcomes that the documents
have alone. -/
theorem forall₂_of_runPipeline {stages documents out : List Document}
    (hstages : ∀ stage ∈ stages, ∀ t, Transform.read stage = .ok t → t.mapsEach = true)
    (hrun : runPipeline stages documents = .ok out) :
    List.Forall₂ (fun d d' => runPipeline stages [d] = .ok [d']) documents out := by
  induction stages generalizing documents with
  | nil =>
    cases hrun
    exact List.forall₂_same.mpr fun _ _ => rfl
  | cons stage rest ih =>
    obtain ⟨t, mid, hread, happly, hrest⟩ := runPipeline_cons_eq_ok.mp hrun
    have hmaps : t.mapsEach = true := hstages stage List.mem_cons_self t hread
    have hlater := ih (fun s hs => hstages s (List.mem_cons_of_mem stage hs)) hrest
    have hboth := forall₂_comp.mpr ⟨mid, Transform.forall₂_of_apply hmaps happly, hlater⟩
    refine hboth.imp ?_
    rintro d d' ⟨between, hhere, hthere⟩
    exact runPipeline_cons_eq_ok.mpr ⟨t, [between], hread, hhere, hthere⟩

/-- Whether none of some stages is a `$limit` that lets less than a number of documents through. -/
def LimitsAdmit (stages : List Document) (number : Nat) : Prop :=
  ∀ stage ∈ stages, ∀ count, Transform.read stage = .ok (.limit count) → number ≤ count

/-- A run ends with no more documents than each `$limit` lets through. -/
theorem limitsAdmit_of_runPipeline {stages documents out : List Document}
    (h : runPipeline stages documents = .ok out) : LimitsAdmit stages out.length := by
  induction stages generalizing documents with
  | nil => intro stage hstage; exact absurd hstage List.not_mem_nil
  | cons first rest ih =>
    obtain ⟨t, mid, hread, happly, hrun⟩ := runPipeline_cons_eq_ok.mp h
    intro stage hstage count hcount
    rcases List.mem_cons.mp hstage with rfl | hmem
    · rw [hcount] at hread
      cases hread
      have hmid : mid.length ≤ count := by
        rw [← Except.ok.inj happly, List.length_take]
        omega
      exact Nat.le_trans (length_runPipeline_le hrun) hmid
    · exact ih hrun stage hmem count hcount

/-- A single document has at most one outcome. -/
theorem runPipeline_single {stages out : List Document} {d after : Document}
    (h : runPipeline stages [d] = .ok out) (hlast : out.getLast? = some after) : out = [after] := by
  have hlength := length_runPipeline_le h
  match out, hlength, hlast with
  | [_], _, hlast => rw [← Option.some.inj hlast]; rfl

/-- A document with an outcome goes through each stage on its way. -/
theorem runPipeline_cons_single {stage d d' : Document} {rest : List Document} {t : Transform}
    (hread : Transform.read stage = .ok t)
    (h : runPipeline (stage :: rest) [d] = .ok [d']) :
    ∃ mid, t.apply [d] = .ok [mid] ∧ runPipeline rest [mid] = .ok [d'] := by
  obtain ⟨t', mids, hread', happly, hrun⟩ := runPipeline_cons_eq_ok.mp h
  rw [hread] at hread'
  cases hread'
  -- no stage makes documents, so that exactly one is left in between
  have hle := Transform.length_apply_le happly
  have hge := length_runPipeline_le hrun
  match mids, hle, hge with
  | [mid], _, _ => exact ⟨mid, happly, hrun⟩

/-- A document goes through a pipeline stage by stage. -/
theorem runPipeline_cons_single_eq_ok {stage d d' : Document} {rest : List Document} :
    runPipeline (stage :: rest) [d] = .ok [d'] ↔
      ∃ mid, runPipeline [stage] [d] = .ok [mid] ∧ runPipeline rest [mid] = .ok [d'] := by
  constructor
  · intro h
    obtain ⟨t, -, hread, -, -⟩ := runPipeline_cons_eq_ok.mp h
    obtain ⟨mid, happly, hrest⟩ := runPipeline_cons_single hread h
    exact ⟨mid, runPipeline_cons_eq_ok.mpr ⟨t, [mid], hread, happly, rfl⟩, hrest⟩
  · rintro ⟨mid, hstage, hrest⟩
    obtain ⟨t, mids, hread, happly, hmids⟩ := runPipeline_cons_eq_ok.mp hstage
    cases hmids
    exact runPipeline_cons_eq_ok.mpr ⟨t, [mid], hread, happly, hrest⟩

theorem eq_of_forall₂_runPipeline_nil {documents outcomes : List Document}
    (halone : List.Forall₂ (fun d d' => runPipeline [] [d] = .ok [d']) documents outcomes) :
    documents = outcomes := by
  rw [← List.forall₂_eq_eq_eq]
  exact halone.imp fun _ _ hd => List.head_eq_of_cons_eq (Except.ok.inj hd)

/-- Documents each of which has an outcome alone go through the first stage together, and those that
it lets through still have their outcomes alone. -/
theorem exists_forall₂_runPipeline_cons {stage : Document} {rest documents outcomes : List Document}
    {t : Transform} (hread : Transform.read stage = .ok t)
    (halone : List.Forall₂ (fun d d' => runPipeline (stage :: rest) [d] = .ok [d'])
      documents outcomes) :
    ∃ mids, t.apply documents = .ok (t.cut mids) ∧
      List.Forall₂ (fun d d' => runPipeline rest [d] = .ok [d']) mids outcomes := by
  obtain ⟨mids, hmids, houtcomes⟩ :=
    forall₂_comp.mp (halone.imp fun _ _ hd => runPipeline_cons_single hread hd)
  exact ⟨mids, Transform.apply_of_forall₂ hmids, houtcomes⟩

/-- Documents each of which has an outcome alone have the same outcomes together, as many of them
as no `$limit` cuts off. -/
theorem take_runPipeline {stages documents outcomes out : List Document} {number : Nat}
    (halone : List.Forall₂ (fun d d' => runPipeline stages [d] = .ok [d']) documents outcomes)
    (hrun : runPipeline stages documents = .ok out) (hlimits : LimitsAdmit stages number) :
    out.take number = outcomes.take number := by
  -- a stage hands what it lets through to the stages behind it, so the documents vary
  induction stages generalizing documents outcomes with
  | nil => rw [← eq_of_forall₂_runPipeline_nil halone, ← Except.ok.inj hrun]
  | cons stage rest ih =>
    obtain ⟨t, mid, hread, happly, hrest⟩ := runPipeline_cons_eq_ok.mp hrun
    obtain ⟨mids, htogether, houtcomes⟩ := exists_forall₂_runPipeline_cons hread halone
    rw [htogether] at happly
    cases happly
    have hlater : LimitsAdmit rest number := fun s hs => hlimits s (List.mem_cons_of_mem stage hs)
    cases t with
    | limit count =>
      -- the first outcomes stay, but those behind the cut are not run on together
      have hcount : number ≤ count := hlimits stage List.mem_cons_self count hread
      have htake := ih (List.forall₂_take count houtcomes) hrest hlater
      rw [htake, List.take_take, Nat.min_eq_left hcount]
    | _ => exact ih houtcomes hrest hlater

/-! ## Stages of updates -/

namespace UpdateOperator

def name : UpdateOperator → String
  | set => "$set"
  | unset => "$unset"
  | inc => "$inc"
  | push => "$push"
  | addToSet => "$addToSet"
  | pull => "$pull"

theorem name_of_ofName? {name : String} {op : UpdateOperator} (h : ofName? name = some op) :
    name = op.name := by
  unfold ofName? at h
  split at h <;> cases h <;> rfl

end UpdateOperator

def stagesOf (parts : List (UpdateOperator × Document)) : List Document :=
  parts.map fun part => part.1.stage part.2

theorem exists_part_of_updateStage {name : String} {v : Value} {stage : Document}
    (h : updateStage name v = .ok stage) :
    ∃ (op : UpdateOperator) (fields : Document),
      name = op.name ∧ v = .doc fields ∧ stage = op.stage fields := by
  unfold updateStage at h
  split at h
  · cases h
  · cases v with
    | doc fields =>
      cases hop : UpdateOperator.ofName? name with
      | none => simp only [hop] at h; cases h
      | some op =>
        simp only [hop] at h
        cases h
        exact ⟨op, fields, UpdateOperator.name_of_ofName? hop, rfl, rfl⟩
    | _ => cases h

/-- An update with stages consists of operators with their fields, and these have the stages. -/
theorem exists_parts_of_entryStages {entries : Document} {stages : List Document}
    (h : entryStages entries = .ok stages) :
    ∃ parts : List (UpdateOperator × Document),
      entries = parts.map (fun part => (part.1.name, .doc part.2)) ∧ stages = stagesOf parts := by
  induction entries generalizing stages with
  | nil =>
    cases h
    exact ⟨[], rfl, rfl⟩
  | cons entry rest ih =>
    obtain ⟨stage, hstage, hrest⟩ := bind_eq_ok.mp h
    obtain ⟨later, hlater, hout⟩ := bind_eq_ok.mp hrest
    cases hout
    obtain ⟨op, fields, hname, hfields, rfl⟩ := exists_part_of_updateStage hstage
    obtain ⟨parts, rfl, rfl⟩ := ih hlater
    obtain ⟨name, v⟩ := entry
    cases hname
    cases hfields
    exact ⟨(op, fields) :: parts, rfl, rfl⟩

theorem exists_parts_of_updateStages {update : Document} {stages : List Document}
    (h : updateStages update = .ok stages) :
    ∃ parts : List (UpdateOperator × Document),
      update = parts.map (fun part => (part.1.name, .doc part.2)) ∧ stages = stagesOf parts := by
  unfold updateStages at h
  split at h
  · cases h
  · exact exists_parts_of_entryStages h

end DocGuard
