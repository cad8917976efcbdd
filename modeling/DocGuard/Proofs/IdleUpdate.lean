import DocGuard.Proofs.GuardedInsertion
import DocGuard.Proofs.RepeatedUpdate

/-!
# Updates with nothing to do

An update that removes paths at which nothing is found, pulls from lists what they do not hold and
pushes no items to lists leaves a document as it is. But `$pull` takes a field that is missing for
an empty list and assigns what it makes of it, so that an empty list stands there afterwards.
-/

namespace DocGuard

open DocGuard.Text

variable {d : Document} {names : List String} {key name path : String} {op : UpdateOperator}
  {fields : Document} {e : String × Value}

/-! ## Empty lists behind a document -/

namespace Document

/-- A document with an empty list under each of some names behind its own fields. -/
def withEmpty (names : List String) (d : Document) : Document :=
  d ++ names.map fun name => (name, .array [])

theorem withEmpty_nil (d : Document) : d.withEmpty [] = d :=
  List.append_nil d

/-- Whether names hold no point and are not set in a document. -/
def AreNew (d : Document) (names : List String) : Prop :=
  ∀ name ∈ names, '.' ∉ name.toList ∧ d.get? name = none

theorem get?_append (d d' : Document) (key : String) :
    (d ++ d').get? key = (d.get? key).or (d'.get? key) := by
  induction d with
  | nil => rfl
  | cons e rest ih =>
    obtain ⟨k, v⟩ := e
    rw [List.cons_append, get?_cons, get?_cons, ih]
    by_cases hk : k = key <;> simp [hk]

theorem get?_withEmpty (names : List String) (d : Document) (key : String) :
    (d.withEmpty names).get? key =
      (d.get? key).or (if key ∈ names then some (.array []) else none) := by
  unfold withEmpty
  rw [get?_append]
  congr 1
  induction names with
  | nil => rfl
  | cons name rest ih =>
    rw [List.map_cons, get?_cons, ih]
    by_cases hname : name = key
    · simp [hname]
    · simp [hname, Ne.symm hname]

theorem get?_withEmpty_of_some {v : Value} (h : d.get? key = some v) (names : List String) :
    (d.withEmpty names).get? key = some v := by
  rw [get?_withEmpty, h]
  rfl

theorem get?_withEmpty_of_none (h : d.get? key = none) (names : List String) :
    (d.withEmpty names).get? key = if key ∈ names then some (.array []) else none := by
  rw [get?_withEmpty, h]
  rfl

/-- An empty list that is set under a name that the document has not comes behind the others, unless
it is among them. -/
theorem insert_withEmpty (h : d.get? name = none) (names : List String) :
    (d.withEmpty names).insert name (.array []) =
      d.withEmpty (if name ∈ names then names else names ++ [name]) := by
  have hget := get?_withEmpty_of_none h names
  by_cases hname : name ∈ names
  · rw [if_pos hname] at hget ⊢
    exact insert_of_get? hget
  · rw [if_neg hname] at hget ⊢
    rw [insert_of_not_has (by rw [has, hget]; rfl)]
    simp [withEmpty]

/-- A list under a name of the document itself is there already. -/
theorem assignPath_withEmpty {items : List Value} (hpoint : '.' ∉ name.toList)
    (hlist : d.get? name = some (.array items)) (names : List String) :
    (d.withEmpty names).assignPath name (some (.array items)) = d.withEmpty names := by
  refine assignPath_of_place? ?_
  rw [segments_of_not_mem hpoint]
  exact get?_withEmpty_of_some hlist names

/-- No path leads on through the lists behind. -/
theorem childAt_withEmpty (names : List String) (d : Document) (s : String) :
    (d.withEmpty names).childAt s = d.childAt s := by
  cases hs : d.get? s with
  | some v => exact childAt_congr ((get?_withEmpty_of_some hs names).trans hs.symm)
  | none =>
    unfold childAt
    rw [get?_withEmpty_of_none hs, hs]
    split_ifs <;> rfl

theorem nothing_of_getPath_eq_none (h : d.getPath path = none) :
    d.get? path = none ∧ d.place? (segments path) = none := by
  have hname : d.get? path = none :=
    Option.eq_none_iff_forall_ne_some.mpr fun v hv => nomatch h.symm.trans (getPath_of_get? hv)
  exact ⟨hname, Option.eq_none_iff_forall_ne_some.mpr fun v hv =>
    nomatch h.symm.trans (getPath_of_place? hname hv)⟩

/-- A path at which nothing is found in the document itself can only be one of the names behind. -/
theorem removePath_withEmpty (h : d.getPath path = none) (hnew : d.AreNew names) :
    (d.withEmpty names).removePath path = d.withEmpty (names.filter (· ≠ path)) := by
  obtain ⟨hname, hplace⟩ := nothing_of_getPath_eq_none h
  show (d.withEmpty names).removeWalk (segments path) = _
  by_cases hpoint : '.' ∈ path.toList
  · -- no name behind holds a point, so that none of the lists goes
    have hsame : names.filter (· ≠ path) = names :=
      List.filter_eq_self.mpr fun name hmem => decide_eq_true fun heq =>
        (hnew name hmem).1 (heq ▸ hpoint)
    obtain ⟨s, t, rest, hsegments⟩ := exists_segments_of_point hpoint
    rw [hsame]
    refine removeWalk_of_place?_eq_none ?_
    rw [hsegments, place?] at hplace ⊢
    rw [childAt_withEmpty, hplace]
  · rw [segments_of_not_mem hpoint]
    show ((d ++ _).filter fun e : String × Value => e.1 ≠ path) = d ++ _
    rw [List.filter_append, List.filter_map]
    congr 1
    exact erase_of_get?_eq_none hname

end Document

/-! ## Fields with nothing to do -/

/-- What makes a field of an operator one with nothing to do: a path to remove at which nothing is
found; a name without points to pull from, which is missing or holds a list without anything that is
the same as the operand; or one with a list, to which no items are pushed. -/
inductive NothingToDo (d : Document) : UpdateOperator → String × Value → Prop
  | unset {path : String} {x : Value} (hnone : d.getPath path = none) :
    NothingToDo d .unset (path, x)
  | pullMissing {name : String} {x : Value} (hpoint : '.' ∉ name.toList)
    (hnone : d.get? name = none) : NothingToDo d .pull (name, x)
  | pull {name : String} {items : List Value} {x : Value} (hpoint : '.' ∉ name.toList)
    (hlist : d.get? name = some (.array items))
    (hother : ∀ v ∈ items, sameValue (some v) (some x) = false) : NothingToDo d .pull (name, x)
  | push {name : String} {items : List Value} {modifier : Document} (hpoint : '.' ∉ name.toList)
    (hlist : d.get? name = some (.array items))
    (heach : modifier.get? "$each" = some (.array [])) : NothingToDo d .push (name, .doc modifier)

/-- What such a field assigns: nothing, or the list that is there, empty where none is. -/
def idleValue (d : Document) (name : String) : UpdateOperator → Option Value
  | .unset => none
  | _ => some ((d.get? name).getD (.array []))

/-- The names with empty lists behind a document after such a field, from those before it. -/
def emptiedBy (d : Document) (names : List String) (field : UpdateOperator × String) :
    List String :=
  match field.1 with
  | .unset => names.filter (· ≠ field.2)
  | .pull => if d.has field.2 ∨ field.2 ∈ names then names else names ++ [field.2]
  | _ => names

theorem emptiedBy_pull_of_some {v : Value} (h : d.get? name = some v) (names : List String) :
    emptiedBy d names (.pull, name) = names := by
  simp [emptiedBy, Document.has, h]

theorem emptiedBy_pull_of_none (h : d.get? name = none) (names : List String) :
    emptiedBy d names (.pull, name) = if name ∈ names then names else names ++ [name] := by
  simp [emptiedBy, Document.has, h]

theorem addedItems_of_each {modifier : Document} {items : List Value}
    (h : modifier.get? "$each" = some (.array items)) : addedItems (.doc modifier) = items := by
  simp only [addedItems, h]

namespace NothingToDo

theorem assigns (h : NothingToDo d op e) (names : List String)
    (hthis : op.readsPath = true → beginsWith e.1 "$this" = false) :
    op.Assigns (d.withEmpty names) e (e.1, idleValue d e.1 op) := by
  refine ⟨rfl, ?_, hthis⟩
  cases h with
  | unset => rfl
  | pullMissing hpoint hnone =>
    -- there is nothing to read, or an empty list from before
    rw [Document.getPath_of_not_mem hpoint, Document.get?_withEmpty_of_none hnone]
    simp only [idleValue, hnone]
    split_ifs <;> rfl
  | pull hpoint hlist hother =>
    have hkept := List.filter_eq_self.mpr fun v hv => congrArg (!·) (hother v hv)
    rw [Document.getPath_of_not_mem hpoint, Document.get?_withEmpty_of_some hlist]
    simp only [idleValue, hlist]
    exact congrArg (fun items => Except.ok (some (Value.array items))) hkept
  | push hpoint hlist heach =>
    rw [Document.getPath_of_not_mem hpoint, Document.get?_withEmpty_of_some hlist]
    simp only [idleValue, hlist]
    show Except.ok (some (Value.array (_ ++ addedItems _))) = _
    rw [addedItems_of_each heach, List.append_nil]
    rfl

theorem assignPath (h : NothingToDo d op e) (hnew : d.AreNew names) :
    (d.withEmpty names).assignPath e.1 (idleValue d e.1 op) =
      d.withEmpty (emptiedBy d names (op, e.1)) := by
  cases h with
  | unset hnone => exact Document.removePath_withEmpty hnone hnew
  | @pullMissing name x hpoint hnone =>
    rw [emptiedBy_pull_of_none hnone, ← Document.insert_withEmpty hnone]
    simp only [idleValue, hnone]
    show (d.withEmpty names).setWalk (segments name) (.array []) = _
    rw [segments_of_not_mem hpoint]
    rfl
  | @pull name items x hpoint hlist hother =>
    rw [emptiedBy_pull_of_some hlist]
    simp only [idleValue, hlist]
    exact Document.assignPath_withEmpty hpoint hlist names
  | push hpoint hlist heach =>
    simp only [idleValue, emptiedBy, hlist]
    exact Document.assignPath_withEmpty hpoint hlist names

theorem areNew (h : NothingToDo d op e) (hnew : d.AreNew names) :
    d.AreNew (emptiedBy d names (op, e.1)) := by
  cases h with
  | unset hnone => exact fun name hname => hnew name (List.mem_filter.mp hname).1
  | pullMissing hpoint hnone =>
    rw [emptiedBy_pull_of_none hnone]
    split_ifs
    · exact hnew
    · exact List.forall_mem_append.mpr ⟨hnew, List.forall_mem_singleton.mpr ⟨hpoint, hnone⟩⟩
  | pull hpoint hlist hother =>
    rw [emptiedBy_pull_of_some hlist]
    exact hnew
  | push hpoint hlist heach => exact hnew

end NothingToDo

/-! ## Runs -/

/-- The fields of operators, each with its operator. -/
def mentions (parts : List (UpdateOperator × Document)) : List (UpdateOperator × String) :=
  parts.flatMap fun part => part.2.keys.map (part.1, ·)

theorem foldl_assignPath_of_nothingToDo (h : ∀ e ∈ fields, NothingToDo d op e)
    (hnew : d.AreNew names) :
    d.AreNew ((fields.keys.map (op, ·)).foldl (emptiedBy d) names) ∧
      (fields.map fun e => (e.1, idleValue d e.1 op)).foldl (fun d v => d.assignPath v.1 v.2)
          (d.withEmpty names) =
        d.withEmpty ((fields.keys.map (op, ·)).foldl (emptiedBy d) names) := by
  induction fields generalizing names with
  | nil => exact ⟨hnew, rfl⟩
  | cons e rest ih =>
    obtain ⟨he, hrest⟩ := List.forall_mem_cons.mp h
    obtain ⟨hlater, hfold⟩ := ih hrest (he.areNew hnew)
    refine ⟨hlater, ?_⟩
    rw [List.map_cons, List.foldl_cons, he.assignPath hnew]
    exact hfold

theorem runPipeline_stage_of_nothingToDo (h : ∀ e ∈ fields, NothingToDo d op e)
    (hthis : op.readsPath = true → ∀ name ∈ fields.keys, beginsWith name "$this" = false)
    (hnew : d.AreNew names) :
    runPipeline [op.stage fields] [d.withEmpty names] =
      .ok [d.withEmpty ((fields.keys.map (op, ·)).foldl (emptiedBy d) names)] := by
  by_cases hop : op = .inc
  · -- a sum leaves nothing as it is, so that there can be no fields
    subst hop
    cases fields with
    | nil => rfl
    | cons e rest => exact nomatch h e List.mem_cons_self
  · rw [UpdateOperator.runPipeline_stage_eq_ok hop]
    refine ⟨fields.map fun e => (e.1, idleValue d e.1 op), ?_,
      (foldl_assignPath_of_nothingToDo h hnew).2⟩
    refine List.forall₂_map_right_iff.mpr (List.forall₂_same.mpr fun e he => ?_)
    exact (h e he).assigns names fun hreads => hthis hreads e.1 (List.mem_map_of_mem he)

theorem runPipeline_of_nothingToDo {parts : List (UpdateOperator × Document)}
    (h : ∀ part ∈ parts, ∀ e ∈ part.2, NothingToDo d part.1 e)
    (hthis : ∀ part ∈ parts, part.1.readsPath = true →
      ∀ name ∈ part.2.keys, beginsWith name "$this" = false) (hnew : d.AreNew names) :
    runPipeline (stagesOf parts) [d.withEmpty names] =
      .ok [d.withEmpty ((mentions parts).foldl (emptiedBy d) names)] := by
  induction parts generalizing names with
  | nil => rfl
  | cons part rest ih =>
    obtain ⟨hpart, hrest⟩ := List.forall_mem_cons.mp h
    obtain ⟨hreads, hlater⟩ := List.forall_mem_cons.mp hthis
    refine runPipeline_cons_single_eq_ok.mpr
      ⟨_, runPipeline_stage_of_nothingToDo hpart hreads hnew, ?_⟩
    rw [mentions, List.flatMap_cons, List.foldl_append]
    exact ih hrest hlater (foldl_assignPath_of_nothingToDo hpart hnew).1

/-! ## The names that come in -/

theorem mem_emptiedBy {field : UpdateOperator × String} :
    name ∈ emptiedBy d names field ↔
      field ≠ (.unset, name) ∧ (name ∈ names ∨ field = (.pull, name) ∧ d.get? name = none) := by
  obtain ⟨op, key⟩ := field
  cases op with
  | unset =>
    simp only [emptiedBy, List.mem_filter, decide_eq_true_eq, ne_eq, Prod.mk.injEq, true_and,
      reduceCtorEq, false_and, or_false]
    exact and_comm.trans (and_congr_left' (not_congr eq_comm))
  | pull =>
    simp only [ne_eq, Prod.mk.injEq, reduceCtorEq, false_and, not_false_eq_true, true_and]
    cases hget : d.get? key with
    | some v =>
      rw [emptiedBy_pull_of_some hget]
      refine ⟨.inl, fun hname => hname.resolve_right ?_⟩
      rintro ⟨rfl, hnone⟩
      cases hget.symm.trans hnone
    | none =>
      rw [emptiedBy_pull_of_none hget]
      split_ifs with hkey
      · -- a name that is there already is not named again
        exact ⟨.inl, fun hname => hname.elim id fun hsame => hsame.1 ▸ hkey⟩
      · rw [List.mem_append, List.mem_singleton]
        refine or_congr_right ⟨?_, fun hsame => hsame.1.symm⟩
        rintro rfl
        exact ⟨rfl, hget⟩
  | _ => simp [emptiedBy]

theorem of_mem_foldl_emptiedBy {fields : List (UpdateOperator × String)}
    (h : name ∈ fields.foldl (emptiedBy d) names) :
    name ∈ names ∨ (.pull, name) ∈ fields ∧ d.get? name = none := by
  induction fields generalizing names with
  | nil => exact .inl h
  | cons field rest ih =>
    rcases ih h with hname | ⟨hpull, hnone⟩
    · rcases (mem_emptiedBy.mp hname).2 with hold | ⟨rfl, hnone⟩
      · exact .inl hold
      · exact .inr ⟨List.mem_cons_self, hnone⟩
    · exact .inr ⟨List.mem_cons_of_mem field hpull, hnone⟩

theorem mem_foldl_emptiedBy {fields : List (UpdateOperator × String)}
    (hunset : (.unset, name) ∉ fields)
    (h : name ∈ names ∨ (.pull, name) ∈ fields ∧ d.get? name = none) :
    name ∈ fields.foldl (emptiedBy d) names := by
  induction fields generalizing names with
  | nil => exact h.resolve_right fun hpull => List.not_mem_nil hpull.1
  | cons field rest ih =>
    rw [List.mem_cons, not_or] at hunset
    refine ih hunset.2 ?_
    rw [mem_emptiedBy]
    have hfield : field ≠ (.unset, name) := Ne.symm hunset.1
    rcases h with hold | ⟨hpull, hnone⟩
    · exact .inl ⟨hfield, .inl hold⟩
    · rcases List.mem_cons.mp hpull with heq | hlater
      · exact .inl ⟨hfield, .inr ⟨heq.symm, hnone⟩⟩
      · exact .inr ⟨hlater, hnone⟩

/-! ## Updates -/

def updateOf (parts : List (UpdateOperator × Document)) : Document :=
  parts.map fun part => (part.1.name, .doc part.2)

theorem updateStages_updateOf {parts : List (UpdateOperator × Document)} (h : parts ≠ []) :
    updateStages (updateOf parts) = .ok (stagesOf parts) := by
  have hentries : entryStages (updateOf parts) = .ok (stagesOf parts) := by
    clear h
    induction parts with
    | nil => rfl
    | cons part rest ih =>
      obtain ⟨op, fields⟩ := part
      have hstage : updateStage op.name (.doc fields) = .ok (op.stage fields) := by
        cases op <;> rfl
      show entryStages ((op.name, .doc fields) :: updateOf rest) = _
      rw [entryStages, hstage, ih]
      rfl
  obtain ⟨part, rest, rfl⟩ := List.exists_cons_of_ne_nil h
  exact hentries

def updatedBy (parts : List (UpdateOperator × Document)) (d : Document) :
    Except Fault (List Document) := do
  runPipeline (← updateStages (updateOf parts)) [d]

/-- An update with nothing to do that names no variable leaves a document as it is, as long as no
field from which it pulls is missing. Behind the document come empty lists under the names that
are missing and pulled from, all of them but those that the update also removes. -/
theorem updatedBy_of_nothingToDo {parts : List (UpdateOperator × Document)} (hsome : parts ≠ [])
    (h : ∀ part ∈ parts, ∀ e ∈ part.2, NothingToDo d part.1 e)
    (hthis : ∀ part ∈ parts, part.1.readsPath = true →
      ∀ name ∈ part.2.keys, beginsWith name "$this" = false) :
    ((∀ name, (.pull, name) ∈ mentions parts → d.has name = true) → updatedBy parts d = .ok [d]) ∧
    ∃ names : List String,
      updatedBy parts d = .ok [d ++ names.map fun name => (name, .array [])] ∧
      (∀ name ∈ names, (.pull, name) ∈ mentions parts ∧ d.get? name = none) ∧
      ∀ name, (.pull, name) ∈ mentions parts → d.get? name = none →
        (.unset, name) ∉ mentions parts → name ∈ names := by
  let names := (mentions parts).foldl (emptiedBy d) []
  have hrun : updatedBy parts d = .ok [d.withEmpty names] := by
    unfold updatedBy
    rw [updateStages_updateOf hsome]
    have hidle := runPipeline_of_nothingToDo h hthis (List.forall_mem_nil _)
    rwa [Document.withEmpty_nil] at hidle
  have hmem : ∀ name ∈ names, (.pull, name) ∈ mentions parts ∧ d.get? name = none :=
    fun name hname => (of_mem_foldl_emptiedBy hname).resolve_left List.not_mem_nil
  refine ⟨fun hpresent => ?_, names, hrun, hmem, fun name hpull hnone hunset =>
    mem_foldl_emptiedBy hunset (.inr ⟨hpull, hnone⟩)⟩
  have hnil : names = [] := by
    refine List.eq_nil_iff_forall_not_mem.mpr fun name hname => ?_
    obtain ⟨hpull, hnone⟩ := hmem name hname
    have hhas := hpresent name hpull
    rw [Document.has, hnone] at hhas
    cases hhas
  rw [hrun, hnil, Document.withEmpty_nil]

/-- Nothing is pulled from the tags or pushed to them, and no draft is removed. Marks, of which there
are none to pull from, become an empty list. -/
theorem updatedBy_of_nothingToDo_tags :
    let d : Document := [("_id", .int32 1), ("tags", .array [.str "a"])]
    updatedBy [(.pull, [("tags", .str "b")]), (.push, [("tags", .doc [("$each", .array [])])]),
        (.unset, [("author.draft", .str "")])] d = .ok [d] ∧
      ∃ names : List String,
        updatedBy [(.pull, [("marks", .str "x"), ("tags", .str "b")])] d =
          .ok [d ++ names.map fun name => (name, .array [])] ∧
        "marks" ∈ names ∧ "tags" ∉ names := by
  intro d
  have hpull : NothingToDo d .pull ("tags", .str "b") :=
    .pull (by decide) rfl (List.forall_mem_singleton.mpr rfl)
  constructor
  · refine (updatedBy_of_nothingToDo (List.cons_ne_nil _ _) ?_ (by decide)).1 ?_
    · simp only [List.forall_mem_cons]
      exact ⟨⟨hpull, List.forall_mem_nil _⟩, ⟨.push (by decide) rfl rfl, List.forall_mem_nil _⟩,
        ⟨.unset rfl, List.forall_mem_nil _⟩, List.forall_mem_nil _⟩
    · intro name hname
      obtain rfl : name = "tags" := by simpa [mentions, Document.keys] using hname
      rfl
  · let parts : List (UpdateOperator × Document) :=
      [(.pull, [("marks", .str "x"), ("tags", .str "b")])]
    have hidle : ∀ part ∈ parts, ∀ e ∈ part.2, NothingToDo d part.1 e := by
      refine List.forall_mem_singleton.mpr (List.forall_mem_cons.mpr ⟨?_, ?_⟩)
      · exact .pullMissing (by decide) rfl
      · exact List.forall_mem_singleton.mpr hpull
    obtain ⟨-, names, hrun, hnew, hall⟩ :=
      updatedBy_of_nothingToDo (List.cons_ne_nil _ _) hidle (by decide)
    exact ⟨names, hrun, hall "marks" (by decide) rfl (by decide),
      fun htags => Option.some_ne_none _ (hnew "tags" htags).2⟩

/-- So an update with nothing to do can change a document. It can also fail, where a name to pull from
looks like a reference to the element under test. -/
theorem not_unchanged_of_nothingToDo :
    (¬ ∀ (parts : List (UpdateOperator × Document)) (d : Document), parts ≠ [] →
      (∀ part ∈ parts, ∀ e ∈ part.2, NothingToDo d part.1 e) → updatedBy parts d = .ok [d]) ∧
    ¬ ∀ (parts : List (UpdateOperator × Document)) (d : Document), parts ≠ [] →
      (∀ part ∈ parts, ∀ e ∈ part.2, NothingToDo d part.1 e) →
      (∀ name, (.pull, name) ∈ mentions parts → d.has name = true) →
      updatedBy parts d = .ok [d] := by
  constructor
  · intro hall
    have hpulled := hall [(.pull, [("tags", .str "x")])] [("_id", .int32 1)] (List.cons_ne_nil _ _)
      (List.forall_mem_singleton.mpr (List.forall_mem_singleton.mpr
        (.pullMissing (by decide) rfl)))
    have hadded : updatedBy [(.pull, [("tags", .str "x")])] [("_id", .int32 1)] =
        .ok [[("_id", .int32 1), ("tags", .array [])]] := rfl
    rw [hadded] at hpulled
    cases hpulled
  · intro hall
    have hpulled := hall [(.pull, [("$this", .str "x")])] [("$this", .array [.str "a"])]
      (List.cons_ne_nil _ _)
      (List.forall_mem_singleton.mpr (List.forall_mem_singleton.mpr
        (.pull (by decide) rfl (List.forall_mem_singleton.mpr rfl))))
      (fun name hname => by
        obtain rfl : name = "$this" := by simpa [mentions, Document.keys] using hname
        rfl)
    have hfault : updatedBy [(.pull, [("$this", .str "x")])] [("$this", .array [.str "a"])] =
        .error (.store .elementOutsideFilter) := rfl
    rw [hfault] at hpulled
    cases hpulled

end DocGuard
