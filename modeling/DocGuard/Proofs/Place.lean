import DocGuard.Proofs.Identification
import DocGuard.Proofs.Path

/-!
# Places in documents

A place is what a path leads to through documents alone, which is where values are set and removed.
What was set at a place stands there, what was removed does not, and nothing changes at a place
apart from the changed one, that is, where neither path leads through the other. Setting what stands
at a place already, or removing what does not stand there, changes nothing at all.
-/

namespace DocGuard

open DocGuard.Text

/-! ## Segments -/

theorem not_mem_of_mem_splitAt {sep : Char} {cs piece : List Char} (h : piece ∈ splitAt sep cs) :
    sep ∉ piece := by
  induction cs generalizing piece with
  | nil =>
    rw [List.mem_singleton.mp h]
    exact List.not_mem_nil
  | cons c rest ih =>
    rw [splitAt] at h
    by_cases hc : c = sep
    · rw [if_pos hc] at h
      rcases List.mem_cons.mp h with rfl | hmem
      · exact List.not_mem_nil
      · exact ih hmem
    · rw [if_neg hc] at h
      cases hpieces : splitAt sep rest with
      | nil => exact absurd hpieces (splitAt_ne_nil sep rest)
      | cons first pieces =>
        rw [hpieces] at h ih
        have hfirst := ih List.mem_cons_self
        rcases List.mem_cons.mp h with rfl | hmem
        · exact fun hsep => (List.mem_cons.mp hsep).elim (fun heq => hc heq.symm) hfirst
        · exact ih (List.mem_cons_of_mem first hmem)

theorem point_not_mem_of_mem_segments {path s : String} (h : s ∈ segments path) :
    '.' ∉ s.toList := by
  obtain ⟨piece, hpiece, rfl⟩ := List.mem_map.mp h
  rw [String.toList_ofList]
  exact not_mem_of_mem_splitAt hpiece

/-- No path leads into a name that holds a point. -/
theorem pathLeadsPast_of_point {name : String} (h : '.' ∈ name.toList) (path : String) :
    pathLeadsPast name path = true := by
  obtain ⟨s, rest, hsegments⟩ := exists_segments path
  rw [pathLeadsPast_iff hsegments]
  rintro rfl
  exact point_not_mem_of_mem_segments (hsegments ▸ List.mem_cons_self) h

/-- Whether neither of two walks leads through the end of the other. -/
def Apart (p q : List String) : Prop :=
  ¬ p <+: q ∧ ¬ q <+: p

instance (p q : List String) : Decidable (Apart p q) :=
  inferInstanceAs (Decidable (¬ p <+: q ∧ ¬ q <+: p))

/-- Whether no path leads through the end of another. -/
abbrev PathsApart (paths : List String) : Prop :=
  paths.Pairwise fun p q => Apart (segments p) (segments q)

namespace Apart

variable {p q : List String} {s t : String}

theorem tails (h : Apart (s :: p) (s :: q)) : Apart p q :=
  ⟨fun hpq => h.1 (List.cons_prefix_cons.mpr ⟨rfl, hpq⟩),
    fun hqp => h.2 (List.cons_prefix_cons.mpr ⟨rfl, hqp⟩)⟩

theorem exists_cons (h : Apart p q) : ∃ s rest t others, p = s :: rest ∧ q = t :: others := by
  cases p with
  | nil => exact absurd List.nil_prefix h.1
  | cons s rest =>
    cases q with
    | nil => exact absurd List.nil_prefix h.2
    | cons t others => exact ⟨s, rest, t, others, rfl, rfl⟩

/-- A path leads past each name that is a path apart from it. -/
theorem pathLeadsPast {name path : String} (h : Apart (segments name) (segments path)) :
    pathLeadsPast name path = true := by
  by_cases hpoint : '.' ∈ name.toList
  · exact pathLeadsPast_of_point hpoint path
  · obtain ⟨s, rest, hsegments⟩ := exists_segments path
    rw [pathLeadsPast_iff hsegments]
    rintro rfl
    refine h.1 ?_
    rw [segments_of_not_mem hpoint, hsegments]
    exact List.cons_prefix_cons.mpr ⟨rfl, List.nil_prefix⟩

end Apart

namespace Document

variable {d : Document} {p q : List String}

/-! ## Names -/

theorem insert_of_get? {key : String} {v : Value} (h : d.get? key = some v) :
    d.insert key v = d := by
  induction d with
  | nil => cases h
  | cons e rest ih =>
    obtain ⟨k, w⟩ := e
    rw [get?_cons] at h
    by_cases hk : k = key
    · rw [if_pos hk] at h
      rw [insert, if_pos hk, Option.some.inj h, hk]
    · rw [if_neg hk] at h
      rw [insert, if_neg hk, ih h]

theorem erase_of_get?_eq_none {key : String} (h : d.get? key = none) : d.erase key = d := by
  refine List.filter_eq_self.mpr fun e he => decide_eq_true fun hkey => ?_
  exact get?_eq_none_iff.mp h (hkey ▸ List.mem_map_of_mem he)

theorem childAt_of_get? {s : String} {child : Document} (h : d.get? s = some (.doc child)) :
    d.childAt s = child := by
  rw [childAt, h]

theorem childAt_congr {d' : Document} {s : String} (h : d'.get? s = d.get? s) :
    d'.childAt s = d.childAt s := by
  rw [childAt, childAt, h]

theorem childAt_insert_self (s : String) (child : Document) :
    (d.insert s (.doc child)).childAt s = child :=
  childAt_of_get? (get?_insert_self d s (.doc child))

/-- A document under a name is there, or it is taken as empty. -/
theorem childAt_eq_or (d : Document) (s : String) :
    d.get? s = some (.doc (d.childAt s)) ∨
      d.childAt s = [] ∧ ∀ child, d.get? s ≠ some (.doc child) := by
  unfold childAt
  split
  · next child h => exact .inl h
  · next h => exact .inr ⟨rfl, h⟩

/-! ## Places -/

/-- The value at a place. -/
def place? : Document → List String → Option Value
  | _, [] => none
  | d, [s] => d.get? s
  | d, s :: t :: rest => (d.childAt s).place? (t :: rest)

theorem place?_nil (p : List String) : place? [] p = none := by
  induction p with
  | nil => rfl
  | cons s rest ih =>
    cases rest with
    | nil => rfl
    | cons t rest => exact ih

theorem place?_congr {d' : Document} {s : String} (h : d'.get? s = d.get? s) (rest : List String) :
    d'.place? (s :: rest) = d.place? (s :: rest) := by
  cases rest with
  | nil => exact h
  | cons t rest => rw [place?, place?, childAt_congr h]

/-- Reading along a walk finds what stands at its place. -/
theorem walk_of_place? {v : Value} (h : d.place? p = some v) : d.walk p = some v := by
  induction p generalizing d with
  | nil => cases h
  | cons s rest ih =>
    cases rest with
    | nil =>
      rw [walk, show d.get? s = some v from h]
      rfl
    | cons t rest =>
      rw [place?] at h
      rcases d.childAt_eq_or s with hchild | ⟨hempty, -⟩
      · rw [walk, hchild]
        exact ih h
      · rw [hempty, place?_nil] at h
        cases h

/-! ## Setting -/

theorem place?_setWalk_self (hp : p ≠ []) (d : Document) (v : Value) :
    (d.setWalk p v).place? p = some v := by
  induction p generalizing d with
  | nil => exact absurd rfl hp
  | cons s rest ih =>
    cases rest with
    | nil => exact get?_insert_self d s v
    | cons t rest =>
      rw [setWalk, place?, childAt_insert_self]
      exact ih (List.cons_ne_nil t rest) (d.childAt s)

theorem place?_setWalk_of_apart (h : Apart p q) (d : Document) (v : Value) :
    (d.setWalk q v).place? p = d.place? p := by
  induction p generalizing d q with
  | nil => exact absurd List.nil_prefix h.1
  | cons s rest ih =>
    obtain ⟨_, _, t, others, hsame, rfl⟩ := h.exists_cons
    cases hsame
    by_cases hs : s = t
    · subst hs
      obtain ⟨s', rest', t', others', rfl, rfl⟩ := h.tails.exists_cons
      rw [setWalk, place?, place?, childAt_insert_self]
      exact ih h.tails (d.childAt s)
    · exact place?_congr (get?_setWalk_of_ne hs others v) rest

theorem setWalk_of_place? {v : Value} (h : d.place? p = some v) : d.setWalk p v = d := by
  induction p generalizing d with
  | nil => cases h
  | cons s rest ih =>
    cases rest with
    | nil => exact insert_of_get? h
    | cons t rest =>
      rw [place?] at h
      rcases d.childAt_eq_or s with hchild | ⟨hempty, -⟩
      · rw [setWalk, ih h, insert_of_get? hchild]
      · rw [hempty, place?_nil] at h
        cases h

/-! ## Removing -/

theorem removeWalk_of_child {s t : String} {rest : List String} {child : Document}
    (h : d.get? s = some (.doc child)) :
    d.removeWalk (s :: t :: rest) = d.insert s (.doc (child.removeWalk (t :: rest))) := by
  rw [removeWalk, h]

theorem removeWalk_of_no_child {s t : String} {rest : List String}
    (h : ∀ child, d.get? s ≠ some (.doc child)) : d.removeWalk (s :: t :: rest) = d := by
  rw [removeWalk]
  split
  · next child hchild => exact absurd hchild (h child)
  · rfl

theorem place?_removeWalk_self (d : Document) (p : List String) :
    (d.removeWalk p).place? p = none := by
  induction p generalizing d with
  | nil => rfl
  | cons s rest ih =>
    cases rest with
    | nil => exact get?_erase_self d s
    | cons t rest =>
      rw [place?]
      rcases d.childAt_eq_or s with hchild | ⟨hempty, hnone⟩
      · rw [removeWalk_of_child hchild, childAt_insert_self]
        exact ih (d.childAt s)
      · rw [removeWalk_of_no_child hnone, hempty, place?_nil]

theorem place?_removeWalk_of_apart (h : Apart p q) (d : Document) :
    (d.removeWalk q).place? p = d.place? p := by
  induction p generalizing d q with
  | nil => exact absurd List.nil_prefix h.1
  | cons s rest ih =>
    obtain ⟨_, _, t, others, hsame, rfl⟩ := h.exists_cons
    cases hsame
    by_cases hs : s = t
    · subst hs
      obtain ⟨s', rest', t', others', rfl, rfl⟩ := h.tails.exists_cons
      rcases d.childAt_eq_or s with hchild | ⟨-, hnone⟩
      · rw [removeWalk_of_child hchild, place?, place?, childAt_insert_self]
        exact ih h.tails (d.childAt s)
      · rw [removeWalk_of_no_child hnone]
    · exact place?_congr (get?_removeWalk_of_ne hs others) rest

theorem removeWalk_of_place?_eq_none (h : d.place? p = none) : d.removeWalk p = d := by
  induction p generalizing d with
  | nil => rfl
  | cons s rest ih =>
    cases rest with
    | nil => exact erase_of_get?_eq_none h
    | cons t rest =>
      rw [place?] at h
      rcases d.childAt_eq_or s with hchild | ⟨-, hnone⟩
      · rw [removeWalk_of_child hchild, ih h, insert_of_get? hchild]
      · exact removeWalk_of_no_child hnone

/-! ## Assigning -/

/-- What is assigned to a path stands at its place. -/
theorem place?_assignPath_self (d : Document) (path : String) (found : Option Value) :
    (d.assignPath path found).place? (segments path) = found := by
  cases found with
  | some v => exact place?_setWalk_self (segments_ne_nil path) d v
  | none => exact place?_removeWalk_self d (segments path)

/-- An assignment leaves what stands at a place apart. -/
theorem place?_assignPath_of_apart {path : String} (h : Apart p (segments path)) (d : Document)
    (found : Option Value) : (d.assignPath path found).place? p = d.place? p := by
  cases found with
  | some v => exact place?_setWalk_of_apart h d v
  | none => exact place?_removeWalk_of_apart h d

/-- Assigning what stands at the place of a path already changes nothing. -/
theorem assignPath_of_place? {path : String} {found : Option Value}
    (h : d.place? (segments path) = found) : d.assignPath path found = d := by
  cases found with
  | some v => exact setWalk_of_place? h
  | none => exact removeWalk_of_place?_eq_none h

/-- A path whose whole name is not set is read at its place, if something stands there. -/
theorem getPath_of_place? {path : String} {v : Value} (hname : d.get? path = none)
    (h : d.place? (segments path) = some v) : d.getPath path = some v := by
  rw [getPath_of_get?_eq_none hname, walk_of_place? h]

/-- What stands at the place of a path is read there, or its whole name holds a point and is set;
then the path is read as in any document with the same under that name. -/
theorem getPath_eq_or {d d' : Document} {path : String} {v : Value}
    (hplace : d'.place? (segments path) = some v)
    (hname : '.' ∈ path.toList → d'.get? path = d.get? path) :
    d'.getPath path = some v ∨ d'.getPath path = d.getPath path := by
  by_cases hpoint : '.' ∈ path.toList
  · -- the whole name is looked up first, and no assignment to a place can set it
    cases hget : d.get? path with
    | none => exact .inl (getPath_of_place? ((hname hpoint).trans hget) hplace)
    | some w => exact .inr (by
        rw [getPath_of_get? hget, getPath_of_get? ((hname hpoint).trans hget)])
  · rw [segments_of_not_mem hpoint] at hplace
    exact .inl (getPath_of_get? hplace)

/-- Assignments leave what stands at a place apart from all of them. -/
theorem place?_foldl_assignPath {values : List (String × Option Value)}
    (h : ∀ path ∈ values.map Prod.fst, Apart p (segments path)) (d : Document) :
    (values.foldl (fun d e => d.assignPath e.1 e.2) d).place? p = d.place? p := by
  let motive (d' : Document) : Prop := d'.place? p = d.place? p
  exact List.foldlRecOn (motive := motive) values _ rfl fun d' hd' e he =>
    (place?_assignPath_of_apart (h e.1 (List.mem_map_of_mem he)) d' e.2).trans hd'

/-- After assignments apart from one another, each value stands at its place. -/
theorem place?_of_mem_foldl_assignPath {values : List (String × Option Value)}
    (h : PathsApart (values.map Prod.fst)) (d : Document) {e : String × Option Value}
    (he : e ∈ values) :
    (values.foldl (fun d e => d.assignPath e.1 e.2) d).place? (segments e.1) = e.2 := by
  induction values generalizing d with
  | nil => exact absurd he List.not_mem_nil
  | cons first rest ih =>
    obtain ⟨hfirst, hrest⟩ := List.pairwise_cons.mp h
    rw [List.foldl_cons]
    rcases List.mem_cons.mp he with rfl | hmem
    · -- the assignments behind it do not reach its place
      rw [place?_foldl_assignPath hfirst]
      exact place?_assignPath_self d e.1 e.2
    · exact ih hrest _ hmem

end Document

end DocGuard
