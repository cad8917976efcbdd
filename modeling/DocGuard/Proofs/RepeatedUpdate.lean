import DocGuard.Proofs.SetAddition

/-!
# Updates that are run again

An update that sets, removes, adds to sets and pulls, at paths apart from one another, does nothing
when it is run again on its outcome. Each operator finds at its place what it would assign: this
holds after its own stage, and the stages behind it change only places apart.
-/

namespace DocGuard

open DocGuard.Text

variable {d d' : Document}

/-! ## Keys -/

theorem Value.isKey_iff {v : Value} :
    v.IsKey ↔ (v.names.Nodup ∧ v.isNaN = false) ∧ ∀ w ∈ v.parts, w.IsKey := by
  constructor
  · intro h
    obtain ⟨hnames, hnamesWithin⟩ := throughout_iff.mp h.names
    obtain ⟨hnumber, hnumbersWithin⟩ := throughout_iff.mp h.numbers
    exact ⟨⟨hnames, hnumber⟩, fun w hw => ⟨hnamesWithin w hw, hnumbersWithin w hw⟩⟩
  · rintro ⟨⟨hnames, hnumber⟩, hparts⟩
    exact ⟨.intro hnames fun w hw => (hparts w hw).names,
      .intro hnumber fun w hw => (hparts w hw).numbers⟩

/-- The items that are added by a value that can be a key can be keys. -/
theorem isKey_of_mem_addedItems {x v : Value} (h : x.IsKey) (hv : v ∈ addedItems x) : v.IsKey := by
  unfold addedItems at hv
  split at hv
  · next modifier =>
    split at hv
    · next items hitems =>
      have hlist : Value.array items ∈ (Value.doc modifier).parts :=
        List.mem_map_of_mem (f := Prod.snd) (Document.mem_of_get? hitems)
      exact (Value.isKey_iff.mp ((Value.isKey_iff.mp h).2 _ hlist)).2 v hv
    · rwa [List.mem_singleton.mp hv]
  · rwa [List.mem_singleton.mp hv]

namespace UpdateOperator

variable {op : UpdateOperator} {fields : Document} {e : String × Value} {v : String × Option Value}

/-! ## New values of new values -/

/-- Whether an operator finds its new value to be the new value again. -/
def settles : UpdateOperator → Bool
  | inc => false
  | push => false
  | _ => true

/-- What such an operator makes of its own new value is that value. -/
theorem newValue_of_newValue {x w : Value} {found : Option Value} (hop : op.settles = true)
    (hx : x.IsKey) (h : op.newValue x found = .ok (some w)) :
    op.newValue x (some w) = .ok (some w) := by
  cases op with
  | set => exact h
  | unset => cases h
  | inc => cases hop
  | push => cases hop
  | addToSet =>
    cases hlist : presentOr (.array []) found with
    | array items =>
      rw [newValue, hlist] at h
      cases h
      -- the union holds all that is added already, and repeats nothing
      change Except.ok (some (Value.array
        (addDistinct (addDistinct [] (addDistinct (addDistinct [] items) _)) (addedItems x)))) = _
      rw [union_again fun v hv => isKey_of_mem_addedItems hx hv]
    | _ => rw [newValue, hlist] at h; cases h
  | pull =>
    cases hlist : presentOr (.array []) found with
    | array items =>
      rw [newValue, hlist] at h
      cases h
      change Except.ok (some (Value.array (List.filter _ (List.filter _ items)))) = _
      simp only [List.filter_filter, Bool.and_self]
    | _ => rw [newValue, hlist] at h; cases h

/-! ## Stages -/

/-- What an operator assigns for one of its fields: to the path of the field, the new value. -/
structure Assigns (op : UpdateOperator) (d : Document) (e : String × Value)
    (v : String × Option Value) : Prop where
  path : v.1 = e.1
  value : op.newValue e.2 (d.getPath e.1) = .ok v.2
  found : op.readsPath = true → beginsWith e.1 "$this" = false

theorem evaluate_expression?_eq_ok {expression : Value} {w : Option Value} (hop : op ≠ inc)
    (h : op.expression? e.1 e.2 = some expression) :
    evaluate d none expression = .ok w ↔ op.Assigns d e (e.1, w) := by
  -- a reference to such a path is taken for one to the element under test, and there is none
  by_cases hthis : op.readsPath = true ∧ beginsWith e.1 "$this" = true
  · rw [evaluate_expression?_this h hthis.1 hthis.2]
    refine ⟨fun herror => (nomatch herror), fun hassigns => ?_⟩
    exact absurd hthis.2 (Bool.eq_false_iff.mp (hassigns.found hthis.1))
  · have hfound : op.readsPath = true → beginsWith e.1 "$this" = false :=
      fun hreads => (Bool.not_eq_true _).mp fun hbegins => hthis ⟨hreads, hbegins⟩
    rw [evaluate_expression? h hfound, op.operandIn_eq_self (.inl hop)]
    exact ⟨fun hvalue => ⟨rfl, hvalue, hfound⟩, fun hassigns => hassigns.value⟩

theorem assignedValues_eq_ok (hop : op ≠ inc) (hunset : op ≠ unset)
    {values : List (String × Option Value)} :
    assignedValues d (fields.filterMap fun e => (op.expression? e.1 e.2).map fun x => (e.1, x)) =
        .ok values ↔
      List.Forall₂ (op.Assigns d) fields values := by
  induction fields generalizing values with
  | nil =>
    rw [List.filterMap_nil, assignedValues, List.forall₂_nil_left_iff, Except.ok.injEq, eq_comm]
  | cons e rest ih =>
    obtain ⟨x, hx⟩ : ∃ x, op.expression? e.1 e.2 = some x := by
      cases op with
      | unset => exact absurd rfl hunset
      | _ => exact ⟨_, rfl⟩
    rw [List.filterMap_cons, hx, Option.map_some]
    dsimp only
    rw [assignedValues, bind_eq_ok, List.forall₂_cons_left_iff]
    constructor
    · rintro ⟨w, hw, hrest⟩
      obtain ⟨others, hothers, hvalues⟩ := bind_eq_ok.mp hrest
      exact ⟨(e.1, w), others, (evaluate_expression?_eq_ok hop hx).mp hw, ih.mp hothers,
        (Except.ok.inj hvalues).symm⟩
    · rintro ⟨⟨path, w⟩, others, hassigns, hothers, rfl⟩
      obtain rfl : path = e.1 := hassigns.path
      exact ⟨w, (evaluate_expression?_eq_ok hop hx).mpr hassigns,
        bind_eq_ok.mpr ⟨others, ih.mpr hothers, rfl⟩⟩

theorem forall₂_assigns_unset {values : List (String × Option Value)} :
    List.Forall₂ (unset.Assigns d) fields values ↔ values = fields.map fun e => (e.1, none) := by
  induction fields generalizing values with
  | nil => rw [List.forall₂_nil_left_iff, List.map_nil]
  | cons e rest ih =>
    rw [List.forall₂_cons_left_iff, List.map_cons]
    constructor
    · rintro ⟨⟨path, w⟩, others, hassigns, hothers, rfl⟩
      obtain rfl : path = e.1 := hassigns.path
      cases hassigns.value
      rw [ih.mp hothers]
    · rintro rfl
      exact ⟨_, _, ⟨rfl, rfl, fun h => by cases h⟩, ih.mpr rfl, rfl⟩

theorem stage_of_ne_unset (hop : op ≠ unset) (fields : Document) :
    op.stage fields = [("$set", .doc
      (fields.filterMap fun e => (op.expression? e.1 e.2).map fun x => (e.1, x)))] := by
  cases op with
  | unset => exact absurd rfl hop
  | _ => rfl

/-- A stage assigns to the paths of its fields what the operator assigns for each, all of it read
before anything is assigned. -/
theorem runPipeline_stage_eq_ok (hop : op ≠ inc) :
    runPipeline [op.stage fields] [d] = .ok [d'] ↔
      ∃ values, List.Forall₂ (op.Assigns d) fields values ∧
        values.foldl (fun d v => d.assignPath v.1 v.2) d = d' := by
  by_cases hunset : op = unset
  · -- paths are removed by assigning nothing to them
    subst hunset
    rw [show unset.stage fields = [("$unset", .array (fields.keys.map .str))] from rfl,
      runPipeline_unset]
    simp only [forall₂_assigns_unset, exists_eq_left, List.foldl_map, Except.ok.injEq,
      List.cons.injEq, and_true, Document.keys]
    rfl
  · rw [stage_of_ne_unset hunset, runPipeline_set, Document.assign, bind_assoc, bind_eq_ok]
    refine exists_congr fun values => and_congr (assignedValues_eq_ok hop hunset) ?_
    change Except.ok [_] = Except.ok [d'] ↔ _
    rw [Except.ok.injEq, List.cons.injEq]
    exact and_iff_left rfl

/-! ## Settled fields -/

/-- Whether what an operator would assign for a field stands at the place of its path. -/
def Settled (op : UpdateOperator) (e : String × Value) (d : Document) : Prop :=
  ∃ w, op.Assigns d e (e.1, w) ∧ d.place? (segments e.1) = w

/-- Only `$unset` has no new value. -/
theorem eq_unset_of_newValue {x : Value} {found : Option Value}
    (h : op.newValue x found = .ok none) : op = unset := by
  cases op with
  | set => cases h
  | unset => rfl
  | inc =>
    obtain ⟨sum, -, hsum⟩ := bind_eq_ok.mp h
    cases hsum
  | _ =>
    cases hlist : presentOr (.array []) found <;> rw [newValue, hlist] at h <;> cases h

/-- A field is settled once its new value stands at its place: what is read then is that value, or
what the value was made of. -/
theorem settled_of_place {w : Option Value} (hop : op.settles = true) (hkey : e.2.IsKey)
    (h : op.Assigns d e (e.1, w)) (hplace : d'.place? (segments e.1) = w)
    (hname : '.' ∈ e.1.toList → d'.get? e.1 = d.get? e.1) : op.Settled e d' := by
  refine ⟨w, ⟨rfl, ?_, h.found⟩, hplace⟩
  cases w with
  | none =>
    cases eq_unset_of_newValue h.value
    rfl
  | some value =>
    rcases Document.getPath_eq_or hplace hname with hread | hread <;> rw [hread]
    · exact newValue_of_newValue hop hkey h.value
    · exact h.value

theorem map_fst_of_assigns {values : List (String × Option Value)}
    (h : List.Forall₂ (op.Assigns d) fields values) : values.map Prod.fst = fields.keys := by
  unfold Document.keys
  induction h with
  | nil => rfl
  | cons hassigns _ ih => rw [List.map_cons, List.map_cons, hassigns.path, ih]

theorem settled_of_assigns {values : List (String × Option Value)} (hop : op.settles = true)
    (hkeys : ∀ e ∈ fields, e.2.IsKey)
    (hapart : PathsApart fields.keys) (h : List.Forall₂ (op.Assigns d) fields values)
    (he : e ∈ fields) : op.Settled e (values.foldl (fun d v => d.assignPath v.1 v.2) d) := by
  have hpaths : PathsApart (values.map Prod.fst) := map_fst_of_assigns h ▸ hapart
  obtain ⟨⟨path, w⟩, hv, hassigns⟩ := exists_mem_of_forall₂ h he
  obtain rfl : path = e.1 := hassigns.path
  refine settled_of_place hop (hkeys e he) hassigns
    (Document.place?_of_mem_foldl_assignPath hpaths d hv) fun hpoint => ?_
  exact Document.get?_foldl
    (fun d v _ => Document.get?_assignPath (pathLeadsPast_of_point hpoint v.1) v.2) d

/-- Assignments apart from a settled field leave it settled. -/
theorem Settled.of_foldl {values : List (String × Option Value)} (h : op.Settled e d)
    (hop : op.settles = true) (hkey : e.2.IsKey)
    (hapart : ∀ path ∈ values.map Prod.fst, Apart (segments e.1) (segments path)) :
    op.Settled e (values.foldl (fun d v => d.assignPath v.1 v.2) d) := by
  obtain ⟨w, hassigns, hplace⟩ := h
  refine settled_of_place hop hkey hassigns
    ((Document.place?_foldl_assignPath hapart d).trans hplace) fun _ => ?_
  exact Document.get?_foldl (fun d v hv =>
    Document.get?_assignPath (hapart v.1 (List.mem_map_of_mem hv)).pathLeadsPast v.2) d

/-- A stage whose fields are all settled changes nothing. -/
theorem runPipeline_stage_of_settled (hop : op ≠ inc) (h : ∀ e ∈ fields, op.Settled e d) :
    runPipeline [op.stage fields] [d] = .ok [d] := by
  rw [runPipeline_stage_eq_ok hop]
  induction fields with
  | nil => exact ⟨[], .nil, rfl⟩
  | cons e rest ih =>
    obtain ⟨⟨w, hassigns, hplace⟩, hrest⟩ := List.forall_mem_cons.mp h
    obtain ⟨values, hvalues, hsame⟩ := ih hrest
    refine ⟨(e.1, w) :: values, .cons hassigns hvalues, ?_⟩
    rw [List.foldl_cons, Document.assignPath_of_place? hplace]
    exact hsame

theorem ne_inc_of_settles (hop : op.settles = true) : op ≠ inc := by
  rintro rfl
  cases hop

end UpdateOperator

/-! ## Runs -/

section

variable {parts : List (UpdateOperator × Document)}

/-- A field stays settled through stages with fields apart from it. -/
theorem UpdateOperator.Settled.of_runPipeline {op : UpdateOperator} {e : String × Value}
    (h : op.Settled e d) (hop : op.settles = true) (hkey : e.2.IsKey)
    (hops : ∀ part ∈ parts, part.1.settles = true)
    (hapart : ∀ path ∈ Document.keys (parts.flatMap Prod.snd),
      Apart (segments e.1) (segments path))
    (hrun : runPipeline (stagesOf parts) [d] = .ok [d']) : op.Settled e d' := by
  induction parts generalizing d with
  | nil =>
    cases hrun
    exact h
  | cons part rest ih =>
    obtain ⟨hpart, hrest⟩ := List.forall_mem_cons.mp hops
    rw [List.flatMap_cons, Document.keys, List.map_append, List.forall_mem_append] at hapart
    obtain ⟨mid, hstage, hlater⟩ := runPipeline_cons_single_eq_ok.mp hrun
    obtain ⟨values, hvalues, rfl⟩ :=
      (UpdateOperator.runPipeline_stage_eq_ok (ne_inc_of_settles hpart)).mp hstage
    have hhere : ∀ path ∈ values.map Prod.fst, Apart (segments e.1) (segments path) :=
      map_fst_of_assigns hvalues ▸ hapart.1
    exact ih (h.of_foldl hop hkey hhere) hrest hapart.2 hlater

theorem settled_of_runPipeline (hops : ∀ part ∈ parts, part.1.settles = true)
    (hkeys : ∀ e ∈ parts.flatMap Prod.snd, e.2.IsKey)
    (hapart : PathsApart (Document.keys (parts.flatMap Prod.snd)))
    (hrun : runPipeline (stagesOf parts) [d] = .ok [d']) :
    ∀ part ∈ parts, ∀ e ∈ part.2, part.1.Settled e d' := by
  -- each stage starts from the document that the one before it leaves
  induction parts generalizing d with
  | nil => exact List.forall_mem_nil _
  | cons part rest ih =>
    obtain ⟨hpart, hrest⟩ := List.forall_mem_cons.mp hops
    rw [List.flatMap_cons] at hkeys hapart
    rw [Document.keys, List.map_append] at hapart
    obtain ⟨hkey, hkeys⟩ := List.forall_mem_append.mp hkeys
    obtain ⟨hhere, hlater, hbetween⟩ := List.pairwise_append.mp hapart
    obtain ⟨mid, hstage, hrun⟩ := runPipeline_cons_single_eq_ok.mp hrun
    refine List.forall_mem_cons.mpr ⟨fun e he => ?_, ih hrest hkeys hlater hrun⟩
    -- the stage settles its own fields, and those of the stages behind it are apart from them
    obtain ⟨values, hvalues, rfl⟩ :=
      (UpdateOperator.runPipeline_stage_eq_ok (UpdateOperator.ne_inc_of_settles hpart)).mp hstage
    exact (UpdateOperator.settled_of_assigns hpart hkey hhere hvalues he).of_runPipeline hpart
      (hkey e he) hrest (hbetween e.1 (List.mem_map_of_mem he)) hrun

theorem runPipeline_of_settled (hops : ∀ part ∈ parts, part.1.settles = true)
    (h : ∀ part ∈ parts, ∀ e ∈ part.2, part.1.Settled e d) :
    runPipeline (stagesOf parts) [d] = .ok [d] := by
  induction parts with
  | nil => rfl
  | cons part rest ih =>
    obtain ⟨hpart, hrest⟩ := List.forall_mem_cons.mp hops
    obtain ⟨hhere, hlater⟩ := List.forall_mem_cons.mp h
    exact runPipeline_cons_single_eq_ok.mpr ⟨d, UpdateOperator.runPipeline_stage_of_settled
      (UpdateOperator.ne_inc_of_settles hpart) hhere, ih hrest hlater⟩

end

/-! ## Updates -/

/-- The fields that an update names, under all of its operators: paths with their operands. -/
def updateFields (update : Document) : List (String × Value) :=
  update.flatMap fun e =>
    match e.2 with
    | .doc fields => fields
    | _ => []

/-- The operators whose updates can be run again: those that replace what is there, or take from it
or add to it what is not there yet. -/
def repeatableNames : List String :=
  ["$set", "$unset", "$addToSet", "$pull"]

/-- An update by such operators, at paths none of which leads through another and with operands that
can be keys (every double in them is a number, and no name repeats, as in any document that was built
by setting names), changes nothing when it is run again on its outcome. -/
theorem update_again {update : Document} {stages : List Document}
    (hnames : ∀ name ∈ update.keys, name ∈ repeatableNames)
    (hapart : PathsApart (Document.keys (updateFields update)))
    (hkeys : ∀ e ∈ updateFields update, e.2.IsKey)
    (hstages : updateStages update = .ok stages) (hrun : runPipeline stages [d] = .ok [d']) :
    runPipeline stages [d'] = .ok [d'] := by
  obtain ⟨parts, rfl, rfl⟩ := exists_parts_of_updateStages hstages
  have hops : ∀ part ∈ parts, part.1.settles = true := by
    intro part hpart
    have hname : part.1.name ∈ repeatableNames :=
      hnames _ (List.mem_map_of_mem (List.mem_map_of_mem hpart))
    revert hname
    cases part.1 <;> decide
  unfold updateFields at hapart hkeys
  rw [List.flatMap_map] at hapart hkeys
  exact runPipeline_of_settled hops (settled_of_runPipeline hops hkeys hapart hrun)

/-- An update by each of these operators. -/
def tidyUpdate : Document :=
  [("$set", .doc [("author.name", .str "ann")]),
    ("$unset", .doc [("author.draft", .str "")]),
    ("$addToSet", .doc [("tags", .doc [("$each", .array [.str "b", .str "c"])])]),
    ("$pull", .doc [("marks", .str "x")])]

/-- It adds a tag twice in vain, and takes marks away that are gone then. -/
theorem tidyUpdate_again :
    (∀ name ∈ Document.keys tidyUpdate, name ∈ repeatableNames) ∧
    PathsApart (Document.keys (updateFields tidyUpdate)) ∧
    (∀ e ∈ updateFields tidyUpdate, e.2.IsKey) ∧
    ∃ stages, updateStages tidyUpdate = .ok stages ∧
      runPipeline stages [[("tags", .array [.str "a", .str "b"]),
          ("marks", .array [.str "x", .str "y", .str "x"])]] =
        .ok [[("tags", .array [.str "a", .str "b", .str "c"]), ("marks", .array [.str "y"]),
          ("author", .doc [("name", .str "ann")])]] ∧
      runPipeline stages [[("tags", .array [.str "a", .str "b", .str "c"]),
          ("marks", .array [.str "y"]), ("author", .doc [("name", .str "ann")])]] =
        .ok [[("tags", .array [.str "a", .str "b", .str "c"]), ("marks", .array [.str "y"]),
          ("author", .doc [("name", .str "ann")])]] := by
  have hnames : ∀ name ∈ Document.keys tidyUpdate, name ∈ repeatableNames := by decide
  have hapart : PathsApart (Document.keys (updateFields tidyUpdate)) := by decide
  have htext : ∀ s : String, (Value.str s).IsKey := fun s => .of_parts_nil rfl rfl rfl
  have hlist : (Value.array [.str "b", .str "c"]).IsKey := by
    refine Value.isKey_iff.mpr ⟨⟨.nil, rfl⟩, ?_⟩
    exact List.forall_mem_cons.mpr ⟨htext "b", List.forall_mem_singleton.mpr (htext "c")⟩
  have htags : (Value.doc [("$each", .array [.str "b", .str "c"])]).IsKey :=
    Value.isKey_iff.mpr ⟨⟨List.nodup_singleton "$each", rfl⟩, List.forall_mem_singleton.mpr hlist⟩
  have hkeys : ∀ e ∈ updateFields tidyUpdate, e.2.IsKey := by
    change ∀ e ∈ [("author.name", Value.str "ann"), ("author.draft", .str ""),
      ("tags", .doc [("$each", .array [.str "b", .str "c"])]), ("marks", .str "x")], e.2.IsKey
    simp only [List.forall_mem_cons]
    exact ⟨htext "ann", htext "", htags, htext "x", List.forall_mem_nil _⟩
  refine ⟨hnames, hapart, hkeys, _, rfl, ?_, ?_⟩
  · rfl
  · exact update_again hnames hapart hkeys (d := [("tags", .array [.str "a", .str "b"]),
      ("marks", .array [.str "x", .str "y", .str "x"])]) rfl rfl

end DocGuard
