import DocGuard.Proofs.ReadingBeside

/-!
# Reading a path that was set or removed

What was set at a path is read there, and what was removed is not, with two exceptions. Reading looks
first for a field whose name is the whole path, points and all, and no path leads into such a field.
And reading leads through lists, where removing stops. In both cases what was found before is found
again.
-/

namespace DocGuard

open DocGuard.Text

namespace Document

variable {d : Document} {p : List String} {path : String}

/-- Whether a document has a field whose name is a whole path with points. -/
def HasDotted (d : Document) (path : String) : Prop :=
  '.' ∈ path.toList ∧ d.has path = true

instance (d : Document) (path : String) : Decidable (d.HasDotted path) :=
  inferInstanceAs (Decidable (_ ∧ _))

/-- Whether a walk leads through a list: one stands where the segments in front of the last lead. -/
abbrev LeadsThroughList (d : Document) (p : List String) : Prop :=
  d.ListShared p.dropLast p

/-! ## Removed walks -/

theorem removeWalk_of_leadsThroughList (h : d.LeadsThroughList p) : d.removeWalk p = d := by
  induction p generalizing d with
  | nil => rfl
  | cons s rest ih =>
    cases rest with
    | nil =>
      -- nothing stands in front of a single segment
      obtain ⟨w, hw, -, hlist⟩ := h
      rw [List.prefix_nil.mp hw] at hlist
      cases hlist
    | cons t rest =>
      rcases d.childAt_eq_or s with hchild | ⟨-, hnone⟩
      · -- the list stands further on, under the name
        have hthere : (d.childAt s).LeadsThroughList (t :: rest) := by
          refine (listShared_cons_iff.mp h).resolve_left fun hhere => ?_
          rw [hchild] at hhere
          cases hhere
        rw [removeWalk_of_child hchild, ih hthere, insert_of_get? hchild]
      · exact removeWalk_of_no_child hnone

theorem walk_removeWalk_self (h : ¬ d.LeadsThroughList p) : (d.removeWalk p).walk p = none := by
  induction p generalizing d with
  | nil => rfl
  | cons s rest ih =>
    cases rest with
    | nil =>
      rw [removeWalk, walk, get?_erase_self]
      rfl
    | cons t rest =>
      obtain ⟨hhere, hthere⟩ := not_or.mp (listShared_cons_iff.not.mp h)
      rcases d.childAt_eq_or s with hchild | ⟨hempty, hnone⟩
      · rw [removeWalk_of_child hchild, walk_insert_child]
        exact ih hthere
      · rw [removeWalk_of_no_child hnone, walk_childAt hhere, hempty]
        rfl

/-! ## Paths -/

/-- A path with points is read in a field that has its whole name, whatever is assigned to it. -/
theorem getPath_assignPath_of_hasDotted (h : d.HasDotted path) (found : Option Value) :
    (d.assignPath path found).getPath path = d.getPath path := by
  obtain ⟨hpoint, hhas⟩ := h
  obtain ⟨v, hv⟩ := Option.isSome_iff_exists.mp hhas
  have hkept : (d.assignPath path found).get? path = some v :=
    (get?_assignPath (pathLeadsPast_of_point hpoint path) found).trans hv
  rw [getPath_of_get? hkept, getPath_of_get? hv]

/-- Without such a field, an assignment leaves none with the whole name of its path. -/
theorem get?_assignPath_of_not_hasDotted (hpoint : '.' ∈ path.toList) (h : ¬ d.HasDotted path)
    (found : Option Value) : (d.assignPath path found).get? path = none := by
  rw [get?_assignPath (pathLeadsPast_of_point hpoint path)]
  exact Option.not_isSome_iff_eq_none.mp fun hhas => h ⟨hpoint, hhas⟩

theorem getPath_setPath_self (h : ¬ d.HasDotted path) (v : Value) :
    (d.setPath path v).getPath path = some v := by
  have hplace : (d.setPath path v).place? (segments path) = some v :=
    place?_assignPath_self d path (some v)
  by_cases hpoint : '.' ∈ path.toList
  · exact getPath_of_place? (get?_assignPath_of_not_hasDotted hpoint h (some v)) hplace
  · rw [segments_of_not_mem hpoint] at hplace
    exact getPath_of_get? hplace

theorem getPath_removePath_self (h : ¬ d.HasDotted path)
    (hlist : ¬ d.LeadsThroughList (segments path)) : (d.removePath path).getPath path = none := by
  have hwalk : (d.removePath path).walk (segments path) = none := walk_removeWalk_self hlist
  have hname : (d.removePath path).get? path = none := by
    by_cases hpoint : '.' ∈ path.toList
    · exact get?_assignPath_of_not_hasDotted hpoint h none
    · rw [removePath, segments_of_not_mem hpoint]
      exact get?_erase_self d path
  rw [getPath_of_get?_eq_none hname, hwalk]

/-- A path that was set holds the new value, unless a field has its whole name, with points: there,
what was found before is found again. A path that was removed holds nothing, unless a field has its
whole name, with points, or it leads through a list: there too, what was found before is found. -/
theorem getPath_of_written (d : Document) (path : String) (v : Value) :
    (d.setPath path v).getPath path = (if d.HasDotted path then d.getPath path else some v) ∧
    (d.removePath path).getPath path =
      (if d.HasDotted path ∨ d.LeadsThroughList (segments path) then d.getPath path else none) := by
  by_cases hdotted : d.HasDotted path
  · rw [if_pos hdotted, if_pos (.inl hdotted)]
    exact ⟨getPath_assignPath_of_hasDotted hdotted (some v),
      getPath_assignPath_of_hasDotted hdotted none⟩
  · rw [if_neg hdotted]
    refine ⟨getPath_setPath_self hdotted v, ?_⟩
    by_cases hlist : d.LeadsThroughList (segments path)
    · rw [if_pos (.inr hlist)]
      exact congrArg (getPath · path) (removeWalk_of_leadsThroughList hlist)
    · rw [if_neg (not_or.mpr ⟨hdotted, hlist⟩)]
      exact getPath_removePath_self hdotted hlist

/-- So a path can hold something else than what was set there, and something after it was removed. -/
theorem writing_and_reading_differ :
    (¬ ∀ (d : Document) (path : String) (v : Value), (d.setPath path v).getPath path = some v) ∧
    ¬ ∀ (d : Document) (path : String), (d.removePath path).getPath path = none := by
  constructor
  · intro hall
    have hset : some (Value.int32 1) = some (Value.int32 2) :=
      hall [("size.width", .int32 1)] "size.width" (.int32 2)
    exact absurd (Value.int32.inj (Option.some.inj hset)) (by decide)
  · intro hall
    have hremoved : some (Value.str "red") = none := hall [("tags", .array [.str "red"])] "tags.0"
    cases hremoved

end Document

end DocGuard
