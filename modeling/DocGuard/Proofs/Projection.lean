import DocGuard.Proofs.UpdateFrame

/-!
# Projections

A projection that wants names keeps these and the id. But the id alone counts as no name that is
wanted, and then everything is kept. A projection that wants none removes its names, each as a whole:
`$unset` follows the points in a name, and a projection does not. So the two stages agree exactly if
no field has a name with points that is to be removed, and no path with points leads to something,
unless the field into which it leads is removed as a whole.
-/

namespace DocGuard

variable {d projection : Document} {key path : String} {p q names : List String}

namespace Document

/-! ## Names that are wanted -/

/-- Whether all values of a projection are true. -/
def WantsAll (projection : Document) : Prop :=
  ∀ e ∈ projection, truthy (some e.2) = true

/-- Whether no value of a projection is true. -/
def WantsNone (projection : Document) : Prop :=
  ∀ e ∈ projection, truthy (some e.2) = false

instance (projection : Document) : Decidable projection.WantsAll :=
  inferInstanceAs (Decidable (∀ e ∈ projection, truthy (some e.2) = true))

instance (projection : Document) : Decidable projection.WantsNone :=
  inferInstanceAs (Decidable (∀ e ∈ projection, truthy (some e.2) = false))

theorem isInclusion_iff :
    isInclusion projection = true ↔ ∃ e ∈ projection, e.1 ≠ "_id" ∧ truthy (some e.2) = true := by
  simp only [isInclusion, List.any_eq_true, Bool.and_eq_true, decide_eq_true_eq]

theorem WantsAll.keeps_id (h : projection.WantsAll) : keepsId projection = true := by
  unfold keepsId
  split
  · next v hv => exact h _ (mem_of_get? hv)
  · rfl

theorem WantsAll.truthy_get? (h : projection.WantsAll) (key : String) :
    truthy (projection.get? key) = decide (key ∈ projection.keys) := by
  cases hget : projection.get? key with
  | none => exact (decide_eq_false (get?_eq_none_iff.mp hget)).symm
  | some v =>
    have hmem : (key, v) ∈ projection := mem_of_get? hget
    have hkey : key ∈ projection.keys := List.mem_map_of_mem hmem
    rw [h _ hmem, decide_eq_true hkey]

theorem WantsAll.keepsName_eq (h : projection.WantsAll) (key : String) :
    keepsName projection key = decide (key = "_id" ∨ key ∈ projection.keys) := by
  unfold keepsName
  split
  · next hid => rw [h.keeps_id, decide_eq_true (.inl hid)]
  · next hid =>
    rw [h.truthy_get?]
    exact decide_eq_decide.mpr (or_iff_right hid).symm

/-- A projection that wants all of its names, and some name other than the id, keeps these and the
id. -/
theorem WantsAll.project_eq_filter (h : projection.WantsAll)
    (hname : ∃ key ∈ projection.keys, key ≠ "_id") (d : Document) :
    project projection d = d.filter fun e => e.1 = "_id" ∨ e.1 ∈ projection.keys := by
  have hinclusion : isInclusion projection = true := by
    obtain ⟨key, hkey, hne⟩ := hname
    obtain ⟨e, he, rfl⟩ := List.mem_map.mp hkey
    exact isInclusion_iff.mpr ⟨e, he, hne, h e he⟩
  rw [project, if_pos hinclusion]
  exact List.filter_congr fun e _ => h.keepsName_eq e.1

/-- But one that wants the id alone keeps everything. -/
theorem WantsAll.project_eq_self (h : projection.WantsAll)
    (hid : ∀ key ∈ projection.keys, key = "_id") (d : Document) : project projection d = d := by
  have hexclusion : ¬ isInclusion projection = true := by
    rw [isInclusion_iff]
    rintro ⟨e, he, hne, -⟩
    exact hne (hid e.1 (List.mem_map_of_mem he))
  have hnone : projection.keys.filter (fun key => key ≠ "_id" || !keepsId projection) = [] := by
    refine List.filter_eq_nil_iff.mpr fun key hkey => ?_
    simp [hid key hkey, h.keeps_id]
  rw [project, if_neg hexclusion, hnone]
  rfl

/-! ## Names that are removed -/

theorem foldl_erase (names : List String) (d : Document) :
    names.foldl erase d = d.beside names := by
  induction names generalizing d with
  | nil => exact (List.filter_eq_self.mpr fun e _ => rfl).symm
  | cons key rest ih =>
    rw [List.foldl_cons, ih]
    unfold beside erase
    rw [List.filter_filter]
    refine List.filter_congr fun e _ => ?_
    simp [Bool.and_comm]

/-- A projection that wants none of its names removes the fields with these names. -/
theorem WantsNone.project_eq_beside (h : projection.WantsNone) (d : Document) :
    project projection d = d.beside projection.keys := by
  have hexclusion : ¬ isInclusion projection = true := by
    rw [isInclusion_iff]
    rintro ⟨e, he, -, hwanted⟩
    cases (h e he).symm.trans hwanted
  have hall : projection.keys.filter (fun key => key ≠ "_id" || !keepsId projection) =
      projection.keys := by
    refine List.filter_eq_self.mpr fun key hkey => ?_
    by_cases hid : key = "_id"
    · -- the id is named, and what stands there is not true
      subst hid
      obtain ⟨v, hv⟩ : ∃ v, projection.get? "_id" = some v :=
        Option.ne_none_iff_exists'.mp fun hnone => get?_eq_none_iff.mp hnone hkey
      have hkeeps : keepsId projection = false := by
        rw [keepsId, hv]
        exact h _ (mem_of_get? hv)
      rw [hkeeps]
      rfl
    · rw [decide_eq_true hid, Bool.true_or]
  rw [project, if_neg hexclusion, hall, foldl_erase]

theorem get?_beside_of_mem (h : key ∈ names) (d : Document) : (d.beside names).get? key = none := by
  rw [get?_eq_none_iff, keys_beside]
  exact fun hkey => of_decide_eq_true (List.mem_filter.mp hkey).2 h

theorem beside_eq_self (h : ∀ key ∈ names, d.get? key = none) : d.beside names = d := by
  refine List.filter_eq_self.mpr fun e he => decide_eq_true fun hname => ?_
  exact get?_eq_none_iff.mp (h e.1 hname) (List.mem_map_of_mem he)

/-! ## Paths that are removed -/

/-- Where a walk leads to nothing, it leads on to nothing. -/
theorem place?_append_eq_none (hp : p ≠ []) (h : d.place? p = none) (more : List String) :
    d.place? (p ++ more) = none := by
  induction p generalizing d with
  | nil => exact absurd rfl hp
  | cons s rest ih =>
    match rest, more with
    | [], [] => exact h
    | [], t :: others =>
      have hnone : d.get? s = none := h
      rw [List.cons_append, List.nil_append, place?, childAt, hnone, place?_nil]
    | t :: rest, more =>
      show (d.childAt s).place? (t :: rest ++ more) = none
      exact ih (List.cons_ne_nil t rest) h

/-- Where nothing stands, nothing stands after a removal. -/
theorem place?_removeWalk_eq_none (h : d.place? p = none) (q : List String) :
    (d.removeWalk q).place? p = none := by
  by_cases hp : p = []
  · subst hp
    rfl
  by_cases hq : q = []
  · subst hq
    exact h
  by_cases hqp : q <+: p
  · obtain ⟨more, rfl⟩ := hqp
    exact place?_append_eq_none hq (place?_removeWalk_self d q) more
  by_cases hpq : p <+: q
  · -- the removed walk leads through the end of the other, and so to nothing
    obtain ⟨more, rfl⟩ := hpq
    rw [removeWalk_of_place?_eq_none (place?_append_eq_none hp h more)]
    exact h
  · exact (place?_removeWalk_of_apart ⟨hpq, hqp⟩ d).trans h

theorem place?_foldl_removePath_eq_none (h : d.place? p = none) (paths : List String) :
    (paths.foldl removePath d).place? p = none := by
  let motive (d' : Document) : Prop := d'.place? p = none
  exact List.foldlRecOn (motive := motive) paths _ h fun d' hd' path _ =>
    place?_removeWalk_eq_none hd' (segments path)

theorem place?_foldl_removePath_of_mem {paths : List String} (h : path ∈ paths) (d : Document) :
    (paths.foldl removePath d).place? (segments path) = none := by
  induction paths generalizing d with
  | nil => exact absurd h List.not_mem_nil
  | cons first rest ih =>
    rw [List.foldl_cons]
    rcases List.mem_cons.mp h with rfl | hmem
    · -- what is gone stays gone through the removals behind it
      exact place?_foldl_removePath_eq_none (place?_removeWalk_self d (segments path)) rest
    · exact ih hmem (d.removePath first)

/-! ## Where the two agree -/

/-- Whether removing a path with points comes apart from removing its whole name among the given
names: some field has the whole name, or something stands at the path, and the field into which it
leads is not removed either. -/
def SplitsAt (names : List String) (d : Document) (path : String) : Prop :=
  '.' ∈ path.toList ∧
    (d.has path = true ∨
      (d.place? (segments path)).isSome = true ∧ ∀ name ∈ names, pathLeadsPast name path = true)

instance (names : List String) (d : Document) (path : String) : Decidable (d.SplitsAt names path) :=
  inferInstanceAs (Decidable (_ ∧ (_ ∨ _ ∧ _)))

theorem beside_removePath (hpath : path ∈ names) (hsplits : ¬ d.SplitsAt names path)
    {d' : Document} (h : d'.beside names = d.beside names) :
    (d'.removePath path).beside names = d.beside names := by
  obtain ⟨s, rest, hsegments⟩ := exists_segments path
  rw [removePath, hsegments]
  by_cases hs : s ∈ names
  · exact (beside_removeWalk hs d' rest).trans h
  · -- the path leads into a field beside the names, and nothing stands there
    have hpoint : '.' ∈ path.toList := by
      by_contra hplain
      rw [segments_of_not_mem hplain] at hsegments
      exact hs ((List.cons.inj hsegments).1 ▸ hpath)
    have hpast : ∀ name ∈ names, pathLeadsPast name path = true := fun name hname =>
      (pathLeadsPast_iff hsegments).mpr fun hsame => hs (hsame ▸ hname)
    have hplace : d.place? (s :: rest) = none := by
      rw [← hsegments]
      exact Option.not_isSome_iff_eq_none.mp fun hsome => hsplits ⟨hpoint, .inr ⟨hsome, hpast⟩⟩
    have hget : d'.get? s = d.get? s := by
      rw [← get?_beside hs, h, get?_beside hs]
    rw [removeWalk_of_place?_eq_none ((place?_congr hget rest).trans hplace)]
    exact h

/-- Removing names as paths removes the fields with these names, and nothing else, exactly if none
of them splits. -/
theorem foldl_removePath_eq_beside_iff :
    names.foldl removePath d = d.beside names ↔ ∀ path ∈ names, ¬ d.SplitsAt names path := by
  constructor
  · rintro hsame path hpath ⟨hpoint, hhas | ⟨hplace, hpast⟩⟩
    · -- no path leads into a name with points
      have hkept : (names.foldl removePath d).get? path = d.get? path :=
        get?_foldl (fun d other _ => get?_assignPath (pathLeadsPast_of_point hpoint other) none) d
      rw [hsame, get?_beside_of_mem hpath] at hkept
      rw [has, ← hkept] at hhas
      cases hhas
    · -- what stands at the path is gone on one side, and is kept with its field on the other
      obtain ⟨s, rest, hsegments⟩ := exists_segments path
      have hs : s ∉ names := fun hs => (pathLeadsPast_iff hsegments).mp (hpast s hs) rfl
      have hgone := place?_foldl_removePath_of_mem hpath d
      rw [hsame, hsegments, place?_congr (get?_beside hs d) rest, ← hsegments] at hgone
      rw [hgone] at hplace
      cases hplace
  · intro hsplits
    let motive (d' : Document) : Prop := d'.beside names = d.beside names
    have hbeside : (names.foldl removePath d).beside names = d.beside names :=
      List.foldlRecOn (motive := motive) names _ rfl fun d' hd' path hpath =>
        beside_removePath hpath (hsplits path hpath) hd'
    rw [← hbeside]
    -- it is left that no field with one of the names is there any more
    refine (beside_eq_self fun path hpath => ?_).symm
    by_cases hpoint : '.' ∈ path.toList
    · have hnone : d.place? [path] = none :=
        Option.not_isSome_iff_eq_none.mp fun hhas => hsplits path hpath ⟨hpoint, .inl hhas⟩
      exact place?_foldl_removePath_eq_none hnone names
    · have hgone := place?_foldl_removePath_of_mem hpath d
      rwa [segments_of_not_mem hpoint] at hgone

end Document

/-! ## Stages -/

/-- A projection that wants all of its names keeps these and the id, if it names anything else than
the id; and everything, if it does not. A projection that wants none of its names does what `$unset`
does with them exactly if none of them splits. -/
theorem project_hides (projection d : Document) :
    ∃ shown, runPipeline [[("$project", .doc projection)]] [d] = .ok [shown] ∧
      (projection.WantsAll →
        ((∃ key ∈ projection.keys, key ≠ "_id") →
          shown = d.filter fun e => e.1 = "_id" ∨ e.1 ∈ projection.keys) ∧
        ((∀ key ∈ projection.keys, key = "_id") → shown = d)) ∧
      (projection.WantsNone →
        (runPipeline [[("$unset", .array (projection.keys.map .str))]] [d] = .ok [shown] ↔
          ∀ path ∈ projection.keys, ¬ d.SplitsAt projection.keys path)) := by
  refine ⟨Document.project projection d, rfl, fun hall => ?_, fun hnone => ?_⟩
  · exact ⟨fun hname => hall.project_eq_filter hname d, fun hid => hall.project_eq_self hid d⟩
  · rw [runPipeline_unset, hnone.project_eq_beside, ← Document.foldl_removePath_eq_beside_iff,
      Except.ok.injEq, List.cons.injEq]
    exact and_iff_left rfl

/-- The owner is shown, with the id; and the author is hidden, with all that is in it. -/
theorem project_owner :
    let d : Document := [("_id", .int32 1), ("owner", .str "ann"),
      ("author", .doc [("name", .str "bob"), ("mail", .str "b@c")])]
    runPipeline [[("$project", .doc [("owner", .bool true)])]] [d] =
      .ok [[("_id", .int32 1), ("owner", .str "ann")]] ∧
    runPipeline [[("$project", .doc
        [("author.mail", .bool false), ("author", .bool false), ("draft.text", .bool false)])]] [d] =
      runPipeline [[("$unset", .array [.str "author.mail", .str "author", .str "draft.text"])]] [d] := by
  intro d
  constructor
  · obtain ⟨shown, hrun, hall, -⟩ := project_hides [("owner", .bool true)] d
    rw [hrun, (hall (by decide)).1 ⟨"owner", by decide, by decide⟩]
    rfl
  · obtain ⟨shown, hrun, -, hnone⟩ := project_hides
      [("author.mail", .bool false), ("author", .bool false), ("draft.text", .bool false)] d
    exact hrun.trans ((hnone (by decide)).mpr (by decide)).symm

/-- So a projection can show more than it names, and keep what it is to remove. -/
theorem projection_shows_more :
    (¬ ∀ projection d shown : Document, projection ≠ [] → projection.WantsAll →
      runPipeline [[("$project", .doc projection)]] [d] = .ok [shown] →
      ∀ key ∈ shown.keys, key = "_id" ∨ key ∈ projection.keys) ∧
    ¬ ∀ projection d : Document, projection ≠ [] → projection.WantsNone →
      runPipeline [[("$project", .doc projection)]] [d] =
        runPipeline [[("$unset", .array (projection.keys.map .str))]] [d] := by
  constructor
  · intro hall
    have howner := hall [("_id", .bool true)] [("_id", .int32 1), ("owner", .str "ann")] _
      (List.cons_ne_nil _ _) (by decide) rfl "owner" (by decide)
    exact absurd howner (by decide)
  · intro hall
    have hmail := hall [("author.mail", .bool false)] [("author", .doc [("mail", .str "b@c")])]
      (List.cons_ne_nil _ _) (by decide)
    have hkept : Except.ok [[("author", Value.doc [("mail", Value.str "b@c")])]] =
        (Except.ok [[("author", Value.doc [])]] : Except Fault (List Document)) := hmail
    cases hkept

end DocGuard
