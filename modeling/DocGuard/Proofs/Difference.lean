import DocGuard.Proofs.Projection
import DocGuard.Store.Change

/-!
# Differences as patches

The difference that an update tells of leads from the document before to one with the names of the
document after. It lists no more than it has to: a value that is equal to the one before stays what
it was, and so may differ from the one after in the order of nested names. A double that is not a
number is equal to nothing, so it is listed however often it is written.
-/

namespace DocGuard

namespace Document

variable {d entries : Document} {key : String}

/-- A document in which some entries are set, one after another. -/
def insertAll (d entries : Document) : Document :=
  entries.foldl (fun d e => d.insert e.1 e.2) d

theorem nodup_keys_insertAll (h : d.keys.Nodup) (entries : Document) :
    (d.insertAll entries).keys.Nodup := by
  let motive (d' : Document) : Prop := d'.keys.Nodup
  exact List.foldlRecOn (motive := motive) entries _ h fun d' hd' e _ =>
    nodup_keys_insert hd' e.1 e.2

theorem get?_insertAll (hnames : entries.keys.Nodup) (d : Document) (key : String) :
    (d.insertAll entries).get? key = (entries.get? key).or (d.get? key) := by
  induction entries generalizing d with
  | nil => rfl
  | cons e rest ih =>
    obtain ⟨k, v⟩ := e
    obtain ⟨hnew, hrest⟩ := List.nodup_cons.mp hnames
    show ((d.insert k v).insertAll rest).get? key = _
    rw [ih hrest, get?_cons]
    by_cases hk : k = key
    · -- the rest does not name the key again, so what is set here stays
      subst hk
      simp [get?_eq_none_iff.mpr hnew]
    · simp [hk, get?_insert_of_ne d v (Ne.symm hk)]

theorem get?_filter_entries {keep : String × Value → Bool} (hnames : d.keys.Nodup) (key : String) :
    get? (d.filter keep) key = (d.get? key).filter fun v => keep (key, v) := by
  induction d with
  | nil => rfl
  | cons e rest ih =>
    obtain ⟨k, v⟩ := e
    obtain ⟨hnew, hrest⟩ := List.nodup_cons.mp hnames
    have htail := ih hrest
    by_cases hk : k = key
    · subst hk
      rw [get?_eq_none_iff.mpr hnew] at htail
      by_cases hkeep : keep (k, v) = true <;> simp [hkeep, get?_cons, htail, Option.filter_some]
    · by_cases hkeep : keep (k, v) = true <;> simp [hkeep, get?_cons, hk, htail]

theorem mem_keys_iff : key ∈ d.keys ↔ (d.get? key).isSome = true := by
  rw [← not_iff_not, ← get?_eq_none_iff]
  simp

end Document

theorem Value.isJust_eq_false_iff {found : Option Value} {v : Value} :
    Value.isJust found v = false ↔ ∀ w, found = some w → w.equal v = false := by
  cases found <;> simp [Value.isJust]

namespace Difference

variable {before after : Document} {key : String} {v : Value}

/-- The document that a difference makes of another one: the removed names go, and the updated
entries are set. -/
def applyTo (x : Difference) (d : Document) : Document :=
  (x.removed.foldl Document.erase d).insertAll x.updated

theorem mem_removed_between :
    key ∈ (between before after).removed ↔ key ∈ before.keys ∧ key ∉ after.keys := by
  show key ∈ before.keys.filter (fun key => !after.has key) ↔ _
  rw [List.mem_filter, Document.has, Document.mem_keys_iff (d := after)]
  simp

theorem nodup_keys_updated (hafter : after.keys.Nodup) :
    (between before after).updated.keys.Nodup :=
  (List.filter_sublist.map Prod.fst).nodup hafter

theorem get?_updated (hafter : after.keys.Nodup) (key : String) :
    (between before after).updated.get? key =
      (after.get? key).filter fun v => !Value.isJust (before.get? key) v :=
  Document.get?_filter_entries hafter key

/-- Under a name of the document after stands what it has there, or what was equal to it before.
Under any other name stands nothing. -/
theorem get?_applyTo_between (hafter : after.keys.Nodup) (key : String) :
    ((between before after).applyTo before).get? key =
      (after.get? key).bind fun v =>
        if Value.isJust (before.get? key) v then before.get? key else some v := by
  rw [applyTo, Document.get?_insertAll (nodup_keys_updated hafter), get?_updated hafter,
    Document.foldl_erase]
  by_cases hremoved : key ∈ (between before after).removed
  · have hnone : after.get? key = none :=
      Document.get?_eq_none_iff.mpr (mem_removed_between.mp hremoved).2
    rw [Document.get?_beside_of_mem hremoved, hnone]
    rfl
  · rw [Document.get?_beside hremoved]
    cases hget : after.get? key with
    | none =>
      -- a name that is neither removed nor there afterwards was not there before
      have hkey : key ∉ after.keys := Document.get?_eq_none_iff.mp hget
      have hbefore : key ∉ before.keys := fun h => hremoved (mem_removed_between.mpr ⟨h, hkey⟩)
      rw [Document.get?_eq_none_iff.mpr hbefore]
      rfl
    | some v => cases hsame : Value.isJust (before.get? key) v <;> simp [hsame, Option.filter_some]

theorem keys_applyTo_between (hbefore : before.keys.Nodup) (hafter : after.keys.Nodup) :
    ((between before after).applyTo before).keys.Perm after.keys := by
  have hnodup : ((between before after).applyTo before).keys.Nodup := by
    rw [applyTo, Document.foldl_erase]
    refine Document.nodup_keys_insertAll ?_ _
    rw [Document.keys_beside]
    exact hbefore.filter _
  refine (List.perm_ext_iff_of_nodup hnodup hafter).mpr fun key => ?_
  rw [Document.mem_keys_iff, Document.mem_keys_iff, get?_applyTo_between hafter]
  cases after.get? key with
  | none => rfl
  | some v =>
    show (if Value.isJust (before.get? key) v then before.get? key else some v).isSome = true ↔ _
    cases before.get? key with
    | none => simp [Value.isJust]
    | some w => cases hsame : w.equal v <;> simp [Value.isJust, hsame]

end Difference

/-- The difference that an update tells of, applied to the document before, gives one with the names
of the document after, and under each of them what that document holds or what was equal to it
before. The updated entries are those of the document after whose values were missing or not equal,
and the removed names are those that it no longer has. Neither document repeats a name, as none does
that was built by setting names. -/
theorem Change.difference_patches (name : String) {before after : Document}
    (hbefore : before.keys.Nodup) (hafter : after.keys.Nodup) :
    ∃ x, (Change.ofUpdate name before after).difference = some x ∧
      (x.applyTo before).keys.Perm after.keys ∧
      (∀ key v, after.get? key = some v → ∃ w, (x.applyTo before).get? key = some w ∧
        (w = v ∨ before.get? key = some w ∧ w.equal v = true)) ∧
      (∀ key v, x.updated.get? key = some v ↔
        after.get? key = some v ∧ ∀ w, before.get? key = some w → w.equal v = false) ∧
      ∀ key, key ∈ x.removed ↔ key ∈ before.keys ∧ key ∉ after.keys := by
  refine ⟨.between before after, rfl, Difference.keys_applyTo_between hbefore hafter,
    fun key v hv => ?_, fun key v => ?_, fun key => Difference.mem_removed_between⟩
  · have hget : ((Difference.between before after).applyTo before).get? key = _ :=
      Difference.get?_applyTo_between hafter key
    rw [hv, Option.bind_some] at hget
    cases hfound : before.get? key with
    | none => exact ⟨v, by simp [hget, hfound, Value.isJust], .inl rfl⟩
    | some w =>
      -- a value that is equal to the one before is not listed, so that one stays
      cases hsame : w.equal v with
      | true => exact ⟨w, by simp [hget, hfound, Value.isJust, hsame], .inr ⟨rfl, hsame⟩⟩
      | false => exact ⟨v, by simp [hget, hfound, Value.isJust, hsame], .inl rfl⟩
  · rw [Difference.get?_updated hafter, Option.filter_eq_some_iff, Bool.not_eq_true',
      Value.isJust_eq_false_iff]

/-- A size that is written in another order stays as it was, a mark that is not a number is set
again, and a flag goes. -/
theorem Change.difference_patches_sizes :
    let before : Document := [("_id", .int32 1), ("flag", .bool true), ("mark", .double Float.nan),
      ("size", .doc [("width", .int32 2), ("height", .int32 3)])]
    let after : Document := [("_id", .int32 1), ("owner", .str "ann"), ("mark", .double Float.nan),
      ("size", .doc [("height", .int32 3), ("width", .int32 2)])]
    ∃ x, (Change.ofUpdate "todos" before after).difference = some x ∧
      (x.applyTo before).keys.Perm after.keys ∧
      x.updated.get? "mark" = some (.double Float.nan) ∧
      (∀ v, x.updated.get? "size" ≠ some v) ∧ "flag" ∈ x.removed := by
  intro before after
  have hbefore : before.keys.Nodup := by decide
  have hafter : after.keys.Nodup := by decide
  obtain ⟨x, hx, hkeys, -, hupdated, hremoved⟩ :=
    Change.difference_patches "todos" hbefore hafter
  refine ⟨x, hx, hkeys, (hupdated "mark" _).mpr ⟨rfl, ?_⟩, fun v hv => ?_,
    (hremoved "flag").mpr (by decide)⟩
  · rintro w ⟨⟩
    decide
  · obtain ⟨hsize, hdiffers⟩ := (hupdated "size" v).mp hv
    cases hsize
    -- the two sizes hold the same under the same names
    exact absurd (hdiffers _ rfl) (by decide)

end DocGuard
