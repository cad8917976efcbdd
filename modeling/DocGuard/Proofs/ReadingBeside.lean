import DocGuard.Proofs.Place

/-!
# Reading beside a path that is set

Reading also leads through lists, by position, and setting does not: it puts a document in the place
of whatever is no document on its way. So a path that is set leaves what is found at a path apart
from it, unless a list stands where both paths lead. With the list its items go, and nothing is
found there any more.
-/

namespace DocGuard

open DocGuard.Text

def Value.isList : Value → Bool
  | .array _ => true
  | _ => false

namespace Document

variable {d : Document} {p q : List String} {s t : String}

/-- Whether a list stands at a place to which two walks both lead. -/
def ListShared (d : Document) (p q : List String) : Prop :=
  ∃ w, w <+: p ∧ w <+: q ∧ (d.place? w).any Value.isList = true

instance (d : Document) (p q : List String) : Decidable (d.ListShared p q) :=
  decidable_of_iff (∃ w ∈ p.inits, w <+: q ∧ (d.place? w).any Value.isList = true)
    (by simp only [List.mem_inits, ListShared])

theorem not_listShared_nil (p q : List String) : ¬ ListShared [] p q := by
  rintro ⟨w, -, -, hlist⟩
  rw [place?_nil] at hlist
  cases hlist

theorem not_listShared_of_ne (h : s ≠ t) : ¬ d.ListShared (s :: p) (t :: q) := by
  rintro ⟨w, hp, hq, hlist⟩
  cases w with
  | nil => cases hlist
  | cons u w => exact h ((List.cons_prefix_cons.mp hp).1.symm.trans (List.cons_prefix_cons.mp hq).1)

/-- A list where two walks lead stands under their first name or further on under it. -/
theorem listShared_cons_iff :
    d.ListShared (s :: p) (s :: q) ↔
      (d.get? s).any Value.isList = true ∨ (d.childAt s).ListShared p q := by
  constructor
  · rintro ⟨w, hp, hq, hlist⟩
    match w with
    | [] => cases hlist
    | [u] =>
      obtain rfl := (List.cons_prefix_cons.mp hp).1
      exact .inl hlist
    | u :: u' :: w =>
      obtain ⟨rfl, hp'⟩ := List.cons_prefix_cons.mp hp
      exact .inr ⟨u' :: w, hp', (List.cons_prefix_cons.mp hq).2, hlist⟩
  · rintro (hlist | ⟨w, hp, hq, hlist⟩)
    · exact ⟨[s], List.cons_prefix_cons.mpr ⟨rfl, List.nil_prefix⟩,
        List.cons_prefix_cons.mpr ⟨rfl, List.nil_prefix⟩, hlist⟩
    · cases w with
      | nil => cases hlist
      | cons u w =>
        exact ⟨s :: u :: w, List.cons_prefix_cons.mpr ⟨rfl, hp⟩,
          List.cons_prefix_cons.mpr ⟨rfl, hq⟩, hlist⟩

/-! ## Walks -/

theorem walk_congr {d' : Document} (h : d'.get? s = d.get? s) (rest : List String) :
    d'.walk (s :: rest) = d.walk (s :: rest) := by
  rw [walk, walk, h]

/-- Where no list stands, reading goes on in the document under a name. -/
theorem walk_childAt (h : ¬ (d.get? s).any Value.isList = true) (t : String)
    (rest : List String) : d.walk (s :: t :: rest) = (d.childAt s).walk (t :: rest) := by
  rw [walk, childAt]
  cases hget : d.get? s with
  | none => rfl
  | some v =>
    cases v with
    | array items => rw [hget] at h; exact absurd rfl h
    | _ => rfl

theorem walk_insert_child (s : String) (child : Document) (t : String) (rest : List String) :
    (d.insert s (.doc child)).walk (s :: t :: rest) = child.walk (t :: rest) := by
  rw [walk, get?_insert_self]
  rfl

theorem walk_setWalk_of_not_listShared (h : Apart q p) (hlist : ¬ d.ListShared p q) (v : Value) :
    (d.setWalk p v).walk q = d.walk q := by
  induction q generalizing d p with
  | nil => exact absurd List.nil_prefix h.1
  | cons s rest ih =>
    obtain ⟨_, _, t, others, hsame, rfl⟩ := h.exists_cons
    cases hsame
    by_cases hs : s = t
    · -- both lead into the document under the name, or into an empty one that is made there
      subst hs
      obtain ⟨s', rest', t', others', rfl, rfl⟩ := h.tails.exists_cons
      rw [listShared_cons_iff, not_or] at hlist
      rw [setWalk, walk_insert_child, walk_childAt hlist.1]
      exact ih h.tails hlist.2
    · exact walk_congr (get?_setWalk_of_ne hs others v) rest

theorem walk_setWalk_of_listShared (h : Apart q p) (hlist : d.ListShared p q) (v : Value) :
    (d.setWalk p v).walk q = none := by
  induction q generalizing d p with
  | nil => exact absurd List.nil_prefix h.1
  | cons s rest ih =>
    obtain ⟨_, _, t, others, hsame, rfl⟩ := h.exists_cons
    cases hsame
    by_cases hs : s = t
    · subst hs
      obtain ⟨s', rest', t', others', rfl, rfl⟩ := h.tails.exists_cons
      rw [setWalk, walk_insert_child]
      rcases listShared_cons_iff.mp hlist with hhere | hthere
      · -- an empty document takes the place of the list, and is read apart from what is set in it
        have hempty : d.childAt s = [] := by
          rcases d.childAt_eq_or s with hchild | ⟨hempty, -⟩
          · rw [hchild] at hhere
            cases hhere
          · exact hempty
        rw [hempty, walk_setWalk_of_not_listShared h.tails (not_listShared_nil _ _)]
        rfl
      · exact ih h.tails hthere
    · exact absurd hlist (not_listShared_of_ne (Ne.symm hs))

/-! ## Paths -/

/-- After a path was set, what was found at a path apart from it is found there, unless that path is
no name of the document and a list stands where both paths lead. Then nothing is found there. -/
theorem getPath_setPath_of_apart {path other : String}
    (h : Apart (segments other) (segments path)) (d : Document) (v : Value) :
    (¬ (d.get? other = none ∧ d.ListShared (segments path) (segments other)) →
      (d.setPath path v).getPath other = d.getPath other) ∧
    (d.get? other = none ∧ d.ListShared (segments path) (segments other) →
      (d.setPath path v).getPath other = none) := by
  -- no path apart from it leads into the whole name, which is looked up first
  have hname : (d.setPath path v).get? other = d.get? other :=
    get?_assignPath h.pathLeadsPast (some v)
  cases hget : d.get? other with
  | some found =>
    refine ⟨fun _ => ?_, fun hnone => nomatch hnone.1⟩
    rw [getPath_of_get? hget, getPath_of_get? (hname.trans hget)]
  | none =>
    rw [getPath_of_get?_eq_none hget, getPath_of_get?_eq_none (hname.trans hget)]
    exact ⟨fun hlist => walk_setWalk_of_not_listShared h (fun hshared => hlist ⟨rfl, hshared⟩) v,
      fun hlist => walk_setWalk_of_listShared h hlist.2 v⟩

/-- The year stands beside the name that is set. Beside an item that is set, the first is lost. -/
theorem getPath_setPath_author :
    let d : Document := [("author", .doc [("name", .str "ann"), ("years", .array [.int32 1990])]),
      ("tags", .array [.str "a", .str "b"])]
    (d.setPath "author.name" (.str "bob")).getPath "author.years.0" = some (.int32 1990) ∧
      (d.setPath "tags.1" (.str "c")).getPath "tags.0" = none := by
  intro d
  have hyears : d.getPath "author.years.0" = some (.int32 1990) := rfl
  constructor
  · rw [← hyears]
    exact (getPath_setPath_of_apart (by decide) d (.str "bob")).1 (by decide)
  · exact (getPath_setPath_of_apart (by decide) d (.str "c")).2 (by decide)

/-- So an item can get lost that a path apart from the one that is set leads to. -/
theorem setPath_loses_item :
    ¬ ∀ (d : Document) (path other : String) (v : Value),
      Apart (segments other) (segments path) →
        (d.setPath path v).getPath other = d.getPath other := by
  intro hall
  have hsame := hall [("tags", .array [.int32 5])] "tags.x" "tags.0" (.int32 1) (by decide)
  have hbefore : getPath [("tags", .array [.int32 5])] "tags.0" = some (.int32 5) := rfl
  rw [hbefore] at hsame
  cases hsame

end Document

end DocGuard
