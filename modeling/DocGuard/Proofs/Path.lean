import DocGuard.Document.Path

/-!
# Paths

The first segment of a path is what stands in front of its first point.
-/

namespace DocGuard

open DocGuard.Text

theorem splitAt_append_sep {sep : Char} {head : List Char} (h : sep ∉ head) (tail : List Char) :
    splitAt sep (head ++ sep :: tail) = head :: splitAt sep tail := by
  induction head with
  | nil => rw [List.nil_append, splitAt, if_pos rfl]
  | cons c rest ih =>
    have hc : c ≠ sep := fun heq => h (heq ▸ List.mem_cons_self)
    rw [List.cons_append, splitAt, if_neg hc, ih fun hmem => h (List.mem_cons_of_mem c hmem)]

theorem splitAt_of_not_mem {sep : Char} {cs : List Char} (h : sep ∉ cs) : splitAt sep cs = [cs] := by
  induction cs with
  | nil => rfl
  | cons c rest ih =>
    have hc : c ≠ sep := fun heq => h (heq ▸ List.mem_cons_self)
    rw [splitAt, if_neg hc, ih fun hmem => h (List.mem_cons_of_mem c hmem)]

theorem cutAt_append_sep {sep : Char} {head : List Char} (h : sep ∉ head) (tail : List Char) :
    cutAt sep (head ++ sep :: tail) = some (head, tail) := by
  induction head with
  | nil => rw [List.nil_append, cutAt, if_pos rfl]
  | cons c rest ih =>
    have hc : c ≠ sep := fun heq => h (heq ▸ List.mem_cons_self)
    rw [List.cons_append, cutAt, if_neg hc, ih fun hmem => h (List.mem_cons_of_mem c hmem)]
    rfl

/-- The parts of a text that is cut at a character, which the first part does not hold. -/
theorem eq_append_of_cutAt {sep : Char} {cs head tail : List Char}
    (h : cutAt sep cs = some (head, tail)) : sep ∉ head ∧ cs = head ++ sep :: tail := by
  induction cs generalizing head with
  | nil => cases h
  | cons c rest ih =>
    rw [cutAt] at h
    by_cases hc : c = sep
    · rw [if_pos hc] at h
      cases h
      exact ⟨List.not_mem_nil, by rw [hc, List.nil_append]⟩
    · rw [if_neg hc] at h
      obtain ⟨⟨front, back⟩, hcut, heq⟩ := Option.map_eq_some_iff.mp h
      cases heq
      obtain ⟨hnot, rfl⟩ := ih hcut
      exact ⟨List.not_mem_cons_of_ne_of_not_mem (Ne.symm hc) hnot, rfl⟩

theorem toList_append_point (name path : String) :
    (name ++ "." ++ path).toList = name.toList ++ '.' :: path.toList := by
  rw [String.toList_append, String.toList_append, List.append_assoc]
  rfl

/-- A name and a point in front of a path are one more segment. -/
theorem segments_append_point {name : String} (hname : '.' ∉ name.toList) (path : String) :
    segments (name ++ "." ++ path) = name :: segments path := by
  unfold segments
  rw [toList_append_point, splitAt_append_sep hname, List.map_cons, String.ofList_toList]

theorem exists_segments (path : String) : ∃ s rest, segments path = s :: rest :=
  List.exists_cons_of_ne_nil (segments_ne_nil path)

/-- A path without points is its only segment. -/
theorem segments_of_not_mem {path : String} (h : '.' ∉ path.toList) : segments path = [path] := by
  unfold segments
  rw [splitAt_of_not_mem h, List.map_singleton, String.ofList_toList]

theorem splitAt_ne_singleton {sep : Char} {cs : List Char} (h : sep ∈ cs) (piece : List Char) :
    splitAt sep cs ≠ [piece] := by
  induction cs generalizing piece with
  | nil => exact absurd h List.not_mem_nil
  | cons c rest ih =>
    rw [splitAt]
    by_cases hc : c = sep
    · rw [if_pos hc]
      exact fun hsingle => splitAt_ne_nil sep rest (List.tail_eq_of_cons_eq hsingle)
    · rw [if_neg hc]
      have hrest : sep ∈ rest := (List.mem_cons.mp h).resolve_left (Ne.symm hc)
      cases hpieces : splitAt sep rest with
      | nil => exact absurd hpieces (splitAt_ne_nil sep rest)
      | cons first pieces =>
        intro hsingle
        rw [List.tail_eq_of_cons_eq hsingle] at hpieces
        exact ih hrest first hpieces

/-- A path with a point has more than one segment. -/
theorem exists_segments_of_point {path : String} (h : '.' ∈ path.toList) :
    ∃ s t rest, segments path = s :: t :: rest := by
  match hsegments : segments path with
  | [] => exact absurd hsegments (segments_ne_nil path)
  | [s] =>
    obtain ⟨piece, hpiece, -⟩ := List.map_eq_singleton_iff.mp hsegments
    exact absurd hpiece (splitAt_ne_singleton h piece)
  | s :: t :: rest => exact ⟨s, t, rest, rfl⟩

/-- A path that begins with a dollar has a first segment that does. -/
theorem exists_segment_dollar {path : String} (h : beginsWith path "$" = true) :
    ∃ s rest, segments path = s :: rest ∧ beginsWith s "$" = true := by
  obtain ⟨tail, htail⟩ := Option.isSome_iff_exists.mp h
  have hpath : path.toList = '$' :: tail := dropLead_eq_some_iff.mp htail
  unfold segments
  rw [hpath, splitAt, if_neg (by decide)]
  cases splitAt '.' tail with
  | nil => exact ⟨_, _, rfl, rfl⟩
  | cons piece pieces => exact ⟨_, _, rfl, by simp [beginsWith, dropLead]⟩

/-- A path that begins with a name and a point has that name as its first segment. -/
theorem segments_of_beginsWith {path name : String} (hname : '.' ∉ name.toList)
    (h : beginsWith path (name ++ ".") = true) : ∃ rest, segments path = name :: rest := by
  obtain ⟨tail, htail⟩ := Option.isSome_iff_exists.mp h
  have hpath : path.toList = name.toList ++ '.' :: tail := by
    have happend := dropLead_eq_some_iff.mp htail
    rw [String.toList_append, List.append_assoc] at happend
    exact happend
  unfold segments
  rw [hpath, splitAt_append_sep hname, List.map_cons, String.ofList_toList]
  exact ⟨_, rfl⟩

namespace Document

theorem getPath_of_get?_eq_none {d : Document} {path : String} (h : d.get? path = none) :
    d.getPath path = d.walk (segments path) := by
  rw [getPath, h]

theorem getPath_of_get? {d : Document} {path : String} {v : Value} (h : d.get? path = some v) :
    d.getPath path = some v := by
  rw [getPath, h]

/-- A path without points is read as a name. -/
theorem getPath_of_not_mem {path : String} (h : '.' ∉ path.toList) (d : Document) :
    d.getPath path = d.get? path := by
  cases hget : d.get? path with
  | some v => exact getPath_of_get? hget
  | none =>
    rw [getPath_of_get?_eq_none hget, segments_of_not_mem h, walk, hget]
    rfl

end Document

end DocGuard
