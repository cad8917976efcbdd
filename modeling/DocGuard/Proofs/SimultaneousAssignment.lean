import DocGuard.Proofs.Equality
import DocGuard.Proofs.Pipeline
import DocGuard.Proofs.Place

/-!
# Simultaneous assignment

A `$set` or `$addFields` stage evaluates all of its expressions before it assigns any of their
values. So each name that it assigns holds what its expression has for the document that came in,
whatever the other names are assigned, and the order in which they are listed shows only in the
order of the names.
-/

namespace DocGuard

variable {d : Document}

/-! ## Values -/

/-- The value of an expression for a document, as far as it has one without a fault. -/
def valueIn (d : Document) (expression : Value) : Option Value :=
  match evaluate d none expression with
  | .ok found => found
  | .error _ => none

theorem evaluate_eq_valueIn {expression : Value} {found : Option Value}
    (h : evaluate d none expression = .ok found) :
    evaluate d none expression = .ok (valueIn d expression) := by
  unfold valueIn
  rw [h]

theorem assignedValues_eq_map {fields : Document}
    (h : ∀ e ∈ fields, ∃ found, evaluate d none e.2 = .ok found) :
    assignedValues d fields = .ok (fields.map fun e => (e.1, valueIn d e.2)) := by
  induction fields with
  | nil => rfl
  | cons e rest ih =>
    obtain ⟨⟨found, hfound⟩, hrest⟩ := List.forall_mem_cons.mp h
    rw [assignedValues, evaluate_eq_valueIn hfound, ih hrest]
    rfl

namespace Document

variable {a b : Document} {name path : String}

/-! ## Documents with the same fields -/

theorem mem_iff_get? (h : d.keys.Nodup) {e : String × Value} :
    e ∈ d ↔ d.get? e.1 = some e.2 :=
  ⟨get?_of_mem h, mem_of_get?⟩

/-- Documents that hold the same under each name have the same fields, in one order or another. -/
theorem perm_of_get? (ha : a.keys.Nodup) (hb : b.keys.Nodup)
    (h : ∀ name, a.get? name = b.get? name) : a.Perm b := by
  refine (List.perm_ext_iff_of_nodup ha.of_map hb.of_map).mpr fun e => ?_
  rw [mem_iff_get? ha, mem_iff_get? hb, h]

/-- Documents with the same fields are equal, as far as one of them is equal to itself. -/
theorem equal_of_perm (h : a.Perm b) (hself : b.equal b = true) : a.equal b = true := by
  obtain ⟨-, hfields⟩ := equal_iff.mp hself
  exact equal_iff.mpr ⟨h.length_eq, fun e he => hfields e (h.subset he)⟩

/-! ## Names that are assigned -/

theorem keys_erase (d : Document) (key : String) : (d.erase key).keys = d.keys.filter (· ≠ key) := by
  unfold keys erase
  rw [List.filter_map]
  rfl

theorem nodup_keys_assignPath (h : d.keys.Nodup) (path : String) (found : Option Value) :
    (d.assignPath path found).keys.Nodup := by
  obtain ⟨s, rest, hsegments⟩ := exists_segments path
  cases found with
  | some v =>
    show (d.setWalk (segments path) v).keys.Nodup
    rw [hsegments]
    -- whatever is set further on, the first segment is the only name that can come in
    cases rest with
    | nil => exact nodup_keys_insert h s v
    | cons t rest => exact nodup_keys_insert h s _
  | none =>
    show (d.removeWalk (segments path)).keys.Nodup
    rw [hsegments]
    cases rest with
    | nil =>
      rw [removeWalk, keys_erase]
      exact h.filter _
    | cons t rest =>
      rcases d.childAt_eq_or s with hchild | ⟨-, hnone⟩
      · rw [removeWalk_of_child hchild]
        exact nodup_keys_insert h s _
      · rwa [removeWalk_of_no_child hnone]

theorem pathsApart_of_nodup {names : List String} (hplain : ∀ name ∈ names, '.' ∉ name.toList)
    (h : names.Nodup) : PathsApart names := by
  refine h.imp_of_mem fun {a b} ha hb hne => ?_
  rw [segments_of_not_mem (hplain a ha), segments_of_not_mem (hplain b hb)]
  have hsame : ∀ {s t : String}, [s] <+: [t] → s = t := fun h => (List.cons_prefix_cons.mp h).1
  exact ⟨fun h => hne (hsame h), fun h => hne (hsame h).symm⟩

/-- A document with the values that expressions have for it assigned to their paths. -/
def assigned (fields d : Document) : Document :=
  (fields.map fun e => (e.1, valueIn d e.2)).foldl (fun d e => d.assignPath e.1 e.2) d

theorem nodup_keys_assigned (h : d.keys.Nodup) (fields : Document) :
    (assigned fields d).keys.Nodup := by
  let motive (d' : Document) : Prop := d'.keys.Nodup
  exact List.foldlRecOn (motive := motive) (fields.map fun e => (e.1, valueIn d e.2)) _ h
    fun d' hd' e _ => nodup_keys_assignPath hd' e.1 e.2

/-- A name without points holds the value of its expression for the document that came in. -/
theorem get?_assigned_of_mem {fields : Document} (hfields : fields.keys.Nodup)
    (hplain : ∀ name ∈ fields.keys, '.' ∉ name.toList) {e : String × Value} (he : e ∈ fields) :
    (assigned fields d).get? e.1 = valueIn d e.2 := by
  have hpaths : (fields.map fun e => (e.1, valueIn d e.2)).map Prod.fst = fields.keys := List.map_map
  have hapart : PathsApart ((fields.map fun e => (e.1, valueIn d e.2)).map Prod.fst) :=
    hpaths ▸ pathsApart_of_nodup hplain hfields
  -- what stands at the place of a name without points is found under the name
  have hplace := place?_of_mem_foldl_assignPath hapart d (List.mem_map_of_mem he)
  rwa [segments_of_not_mem (hplain e.1 (List.mem_map_of_mem he))] at hplace

theorem get?_assigned_of_not_mem {fields : Document}
    (hplain : ∀ name ∈ fields.keys, '.' ∉ name.toList) (hname : name ∉ fields.keys) :
    (assigned fields d).get? name = d.get? name := by
  refine get?_foldl (fun d' v hv => get?_assignPath ?_ v.2) d
  obtain ⟨e, he, rfl⟩ := List.mem_map.mp hv
  have hmem : e.1 ∈ fields.keys := List.mem_map_of_mem he
  rw [pathLeadsPast_iff (segments_of_not_mem (hplain e.1 hmem))]
  exact fun hsame => hname (hsame ▸ hmem)

/-- The same assignments in another order give a document with the same fields. -/
theorem assigned_perm {fields reordered : Document} (hd : d.keys.Nodup)
    (hfields : fields.keys.Nodup) (hplain : ∀ name ∈ fields.keys, '.' ∉ name.toList)
    (h : reordered.Perm fields) : (assigned reordered d).Perm (assigned fields d) := by
  have hkeys : reordered.keys.Perm fields.keys := h.map Prod.fst
  have hplain' : ∀ name ∈ reordered.keys, '.' ∉ name.toList :=
    fun name hname => hplain name (hkeys.subset hname)
  refine perm_of_get? (nodup_keys_assigned hd reordered) (nodup_keys_assigned hd fields) fun name => ?_
  by_cases hname : name ∈ fields.keys
  · obtain ⟨e, he, rfl⟩ := List.mem_map.mp hname
    rw [get?_assigned_of_mem hfields hplain he,
      get?_assigned_of_mem (hkeys.nodup_iff.mpr hfields) hplain' (h.mem_iff.mpr he)]
  · rw [get?_assigned_of_not_mem hplain hname,
      get?_assigned_of_not_mem hplain' (hkeys.mem_iff.not.mpr hname)]

end Document

/-! ## Stages -/

theorem runPipeline_assign {name : String} (hname : name = "$set" ∨ name = "$addFields")
    {fields : Document} (h : ∀ e ∈ fields, ∃ found, evaluate d none e.2 = .ok found) :
    runPipeline [[(name, .doc fields)]] [d] = .ok [Document.assigned fields d] := by
  have hstage : runPipeline [[(name, .doc fields)]] [d] =
      (do return [← Document.assign fields d]) := by
    rcases hname with rfl | rfl <;> exact runPipeline_set fields d
  rw [hstage, Document.assign, assignedValues_eq_map h]
  rfl

/-- A `$set` or `$addFields` stage, with names that hold no point and expressions that evaluate
without a fault, gives each of its names the value that its expression has for the document that
comes in, and removes it where there is none. Every other name holds what it did. In another order,
the same assignments give a document with the same fields. Here, neither the document nor the stage
repeats a name, as none does that was built by setting names. -/
theorem assignment_is_simultaneous {name : String} (hname : name = "$set" ∨ name = "$addFields")
    {fields : Document} (hd : d.keys.Nodup) (hfields : fields.keys.Nodup)
    (hplain : ∀ key ∈ fields.keys, '.' ∉ key.toList)
    (hvalues : ∀ e ∈ fields, ∃ found, evaluate d none e.2 = .ok found) :
    ∃ after, runPipeline [[(name, .doc fields)]] [d] = .ok [after] ∧
      (∀ e ∈ fields, evaluate d none e.2 = .ok (after.get? e.1)) ∧
      (∀ key, key ∉ fields.keys → after.get? key = d.get? key) ∧
      ∀ reordered : Document, reordered.Perm fields →
        ∃ after', runPipeline [[(name, .doc reordered)]] [d] = .ok [after'] ∧ after'.Perm after ∧
          (after.equal after = true → after'.equal after = true) := by
  refine ⟨Document.assigned fields d, runPipeline_assign hname hvalues, fun e he => ?_,
    fun key hkey => Document.get?_assigned_of_not_mem hplain hkey, fun reordered horder => ?_⟩
  · obtain ⟨found, hfound⟩ := hvalues e he
    rw [Document.get?_assigned_of_mem hfields hplain he]
    exact evaluate_eq_valueIn hfound
  · have hperm := Document.assigned_perm hd hfields hplain horder
    exact ⟨Document.assigned reordered d,
      runPipeline_assign hname fun e he => hvalues e (horder.subset he), hperm,
      Document.equal_of_perm hperm⟩

/-- Two names exchange their values, and a third is removed, in either order. -/
theorem assignment_exchanges :
    let d : Document := [("first", .int32 1), ("second", .str "b"), ("third", .null)]
    let fields : Document :=
      [("first", .str "$second"), ("second", .str "$first"), ("third", .str "$fourth")]
    ∃ after, runPipeline [[("$set", .doc fields)]] [d] = .ok [after] ∧
      after.get? "first" = some (.str "b") ∧ after.get? "second" = some (.int32 1) ∧
      after.get? "third" = none ∧
      ∃ after', runPipeline [[("$set", .doc fields.reverse)]] [d] = .ok [after'] ∧
        after'.Perm after := by
  intro d fields
  have hvalues : ∀ e ∈ fields, ∃ found, evaluate d none e.2 = .ok found := by
    simp only [fields, List.forall_mem_cons]
    exact ⟨⟨_, rfl⟩, ⟨_, rfl⟩, ⟨_, rfl⟩, List.forall_mem_nil _⟩
  have hd : d.keys.Nodup := by decide
  obtain ⟨after, hrun, hnew, -, horder⟩ :=
    assignment_is_simultaneous (.inl rfl) hd (by decide) (by decide) hvalues
  obtain ⟨hfirst, hsecond, hthird, -⟩ := by
    simpa only [fields, List.forall_mem_cons] using hnew
  obtain ⟨after', hrun', hperm, -⟩ := horder fields.reverse fields.reverse_perm
  exact ⟨after, hrun, (Except.ok.inj hfirst).symm, (Except.ok.inj hsecond).symm,
    (Except.ok.inj hthird).symm, after', hrun', hperm⟩

end DocGuard
