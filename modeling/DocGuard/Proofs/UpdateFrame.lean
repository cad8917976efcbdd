import DocGuard.Proofs.GuardedUpdate
import DocGuard.Proofs.RepeatedUpdate

/-!
# The frame of an update by operators

Whatever an operator makes of its operand, it sets or removes something within the field under the
first segment of a path. So an update leaves all fields that are the first segment of none of its
paths: they keep their values and their order, and no other field comes in.
-/

namespace DocGuard

variable {d d' : Document} {names paths : List String} {key path : String}

namespace Document

/-- The fields of a document whose names are none of the given ones. -/
def beside (names : List String) (d : Document) : Document :=
  d.filter fun e => e.1 ∉ names

theorem beside_cons (e : String × Value) (d : Document) :
    beside names (e :: d) = if e.1 ∈ names then d.beside names else e :: d.beside names := by
  unfold beside
  by_cases he : e.1 ∈ names <;> simp [he]

theorem keys_beside (names : List String) (d : Document) :
    (d.beside names).keys = d.keys.filter (· ∉ names) := by
  unfold keys beside
  rw [List.filter_map]
  rfl

theorem get?_beside (h : key ∉ names) (d : Document) : (d.beside names).get? key = d.get? key := by
  let keep (name : String) : Bool := decide (name ∉ names)
  have hkeep : keep key = true := decide_eq_true h
  exact get?_filter hkeep d

theorem beside_insert (h : key ∈ names) (d : Document) (v : Value) :
    (d.insert key v).beside names = d.beside names := by
  induction d with
  | nil =>
    show beside names [(key, v)] = []
    rw [beside_cons, if_pos h]
    rfl
  | cons e rest ih =>
    obtain ⟨k, w⟩ := e
    by_cases hk : k = key
    · subst hk
      rw [insert, if_pos rfl, beside_cons, beside_cons, if_pos h, if_pos h]
    · rw [insert, if_neg hk, beside_cons, beside_cons, ih]

theorem beside_erase (h : key ∈ names) (d : Document) :
    (d.erase key).beside names = d.beside names := by
  unfold beside erase
  rw [List.filter_filter]
  refine List.filter_congr fun e _ => ?_
  by_cases he : e.1 = key
  · simp [he, h]
  · simp [he]

/-! ## Paths -/

theorem beside_setWalk {s : String} (h : s ∈ names) (d : Document) (rest : List String)
    (v : Value) : (d.setWalk (s :: rest) v).beside names = d.beside names := by
  cases rest with
  | nil => exact beside_insert h d v
  | cons t rest => exact beside_insert h d _

theorem beside_removeWalk {s : String} (h : s ∈ names) (d : Document) (rest : List String) :
    (d.removeWalk (s :: rest)).beside names = d.beside names := by
  cases rest with
  | nil => exact beside_erase h d
  | cons t rest =>
    rcases d.childAt_eq_or s with hchild | ⟨-, hnone⟩
    · rw [removeWalk_of_child hchild]
      exact beside_insert h d _
    · rw [removeWalk_of_no_child hnone]

end Document

def firstSegments (paths : List String) : List String :=
  paths.filterMap fun path => (segments path).head?

theorem exists_segments_of_mem (h : path ∈ paths) :
    ∃ s rest, segments path = s :: rest ∧ s ∈ firstSegments paths := by
  obtain ⟨s, rest, hsegments⟩ := exists_segments path
  exact ⟨s, rest, hsegments, List.mem_filterMap.mpr ⟨path, h, by rw [hsegments]; rfl⟩⟩

namespace Document

theorem beside_assignPath (h : path ∈ paths) (d : Document) (found : Option Value) :
    (d.assignPath path found).beside (firstSegments paths) = d.beside (firstSegments paths) := by
  obtain ⟨s, rest, hsegments, hs⟩ := exists_segments_of_mem h
  cases found with
  | some v =>
    show (d.setWalk (segments path) v).beside _ = _
    rw [hsegments, beside_setWalk hs]
  | none =>
    show (d.removeWalk (segments path)).beside _ = _
    rw [hsegments, beside_removeWalk hs]

theorem beside_foldl_assignPath {values : List (String × Option Value)}
    (h : ∀ v ∈ values, v.1 ∈ paths) (d : Document) :
    (values.foldl (fun d v => d.assignPath v.1 v.2) d).beside (firstSegments paths) =
      d.beside (firstSegments paths) := by
  let motive (d' : Document) : Prop :=
    d'.beside (firstSegments paths) = d.beside (firstSegments paths)
  exact List.foldlRecOn (motive := motive) values _ rfl fun d' hd' v hv =>
    (beside_assignPath (h v hv) d' v.2).trans hd'

end Document

/-! ## Updates -/

/-- A stage assigns something to paths of its fields, or nothing to remove them. -/
theorem UpdateOperator.exists_values_of_stage {op : UpdateOperator} {fields : Document}
    (hrun : runPipeline [op.stage fields] [d] = .ok [d']) :
    ∃ values : List (String × Option Value), (∀ v ∈ values, v.1 ∈ fields.keys) ∧
      values.foldl (fun d v => d.assignPath v.1 v.2) d = d' := by
  by_cases hop : op = unset
  · subst hop
    rw [show unset.stage fields = [("$unset", .array (fields.keys.map .str))] from rfl,
      runPipeline_unset] at hrun
    refine ⟨fields.keys.map fun path => (path, none), List.forall_mem_map.mpr fun _ h => h, ?_⟩
    rw [List.foldl_map]
    exact List.head_eq_of_cons_eq (Except.ok.inj hrun)
  · rw [stage_of_ne_unset hop, runPipeline_set] at hrun
    obtain ⟨after, hassign, hafter⟩ := bind_eq_ok.mp hrun
    obtain ⟨values, hvalues, hd'⟩ := bind_eq_ok.mp hassign
    cases hafter
    refine ⟨values, fun v hv => ?_, Except.ok.inj hd'⟩
    -- values go to the paths of the expressions, and these are paths of the fields
    have hpath : v.1 ∈ values.map Prod.fst := List.mem_map_of_mem hv
    rw [keys_assignedValues hvalues] at hpath
    obtain ⟨e, he, hsame⟩ := List.mem_map.mp hpath
    obtain ⟨field, hfield, hexpression⟩ := List.mem_filterMap.mp he
    obtain ⟨x, -, rfl⟩ := Option.map_eq_some_iff.mp hexpression
    have hkey : field.1 ∈ fields.keys := List.mem_map_of_mem hfield
    exact hsame ▸ hkey

theorem beside_of_runPipeline {parts : List (UpdateOperator × Document)}
    (h : Document.keys (parts.flatMap Prod.snd) ⊆ paths)
    (hrun : runPipeline (stagesOf parts) [d] = .ok [d']) :
    d'.beside (firstSegments paths) = d.beside (firstSegments paths) := by
  induction parts generalizing d with
  | nil =>
    cases hrun
    rfl
  | cons part rest ih =>
    rw [List.flatMap_cons, Document.keys, List.map_append] at h
    obtain ⟨hpart, hrest⟩ := List.append_subset.mp h
    obtain ⟨mid, hstage, hlater⟩ := runPipeline_cons_single_eq_ok.mp hrun
    obtain ⟨values, hvalues, rfl⟩ := UpdateOperator.exists_values_of_stage hstage
    have hpaths : ∀ v ∈ values, v.1 ∈ paths := fun v hv => hpart (hvalues v hv)
    exact (ih hrest hlater).trans (Document.beside_foldl_assignPath hpaths d)

/-- The names of the fields into which the paths of an update lead. -/
def namedFields (update : Document) : List String :=
  firstSegments (Document.keys (updateFields update))

/-- An update that runs through makes one document of a document. A field into which no path of the
update leads has the same value in both, or is in neither; a name that is set there was set before
or has a path leading into it; and the fields into which no path leads keep their order. -/
theorem update_keeps_frame {update : Document} {stages out : List Document}
    (hstages : updateStages update = .ok stages) (hrun : runPipeline stages [d] = .ok out) :
    ∃ d', out = [d'] ∧
      (∀ key, key ∉ namedFields update → d'.get? key = d.get? key) ∧
      (∀ key ∈ d'.keys, key ∈ d.keys ∨ key ∈ namedFields update) ∧
      d'.keys.filter (· ∉ namedFields update) = d.keys.filter (· ∉ namedFields update) := by
  obtain ⟨d', rest, hd', hnone, rfl⟩ :=
    List.forall₂_cons_left_iff.mp (forall₂_of_updateStages hstages hrun)
  cases hnone
  have hbeside : d'.beside (namedFields update) = d.beside (namedFields update) := by
    obtain ⟨parts, rfl, rfl⟩ := exists_parts_of_updateStages hstages
    unfold namedFields updateFields
    rw [List.flatMap_map]
    exact beside_of_runPipeline (List.Subset.refl _) hd'
  have hkeys : d'.keys.filter (· ∉ namedFields update) =
      d.keys.filter (· ∉ namedFields update) := by
    rw [← Document.keys_beside, ← Document.keys_beside, hbeside]
  refine ⟨d', rfl, fun key hkey => ?_, fun key hkey => ?_, hkeys⟩
  · rw [← Document.get?_beside hkey, ← Document.get?_beside hkey d, hbeside]
  · by_cases hnamed : key ∈ namedFields update
    · exact .inr hnamed
    · have hmem : key ∈ d'.keys.filter (· ∉ namedFields update) :=
        List.mem_filter.mpr ⟨hkey, decide_eq_true hnamed⟩
      rw [hkeys] at hmem
      exact .inl (List.mem_filter.mp hmem).1

/-- The author's name and the count are new, the draft is gone, and the two fields beside them are
as they were. -/
theorem update_keeps_title :
    let update : Document := [("$set", .doc [("author.name", .str "ann")]),
      ("$inc", .doc [("count", .int32 1)]), ("$unset", .doc [("draft", .str "")])]
    let d : Document := [("_id", .int32 1), ("author", .str "bob"), ("draft", .bool true),
      ("title", .str "a")]
    ∃ stages d', updateStages update = .ok stages ∧ runPipeline stages [d] = .ok [d'] ∧
      namedFields update = ["author", "count", "draft"] ∧
      Document.get? d' "title" = some (.str "a") ∧
      (Document.keys d').filter (· ∉ namedFields update) = ["_id", "title"] := by
  intro update d
  have hrun : ∃ stages out, updateStages update = .ok stages ∧ runPipeline stages [d] = .ok out :=
    ⟨_, _, rfl, rfl⟩
  obtain ⟨stages, out, hstages, hout⟩ := hrun
  have hnames : namedFields update = ["author", "count", "draft"] := rfl
  obtain ⟨d', rfl, hfields, -, horder⟩ := update_keeps_frame hstages hout
  exact ⟨stages, d', hstages, hout, hnames, hfields "title" (by rw [hnames]; decide), horder⟩

end DocGuard
