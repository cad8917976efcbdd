import DocGuard.Proofs.Operand
import DocGuard.Proofs.SameValue

/-!
# Additions to sets

`$addToSet` unites the list that is there with the items to add. The items to add come in once, and
only if the list does not hold them. But the union takes the list in item by item as well, so that
an item of the list that is the same as one before it is dropped: a list stays as it is only if it
holds nothing twice, numbers of all widths being compared as numbers.
-/

namespace DocGuard

open DocGuard.Text

variable {d : Document} {present items : List Value} {v : Value}

/-! ## New items -/

/-- Whether a list holds something that is the same as a value. -/
def holdsSame (present : List Value) (v : Value) : Bool :=
  present.any fun u => sameValue (some u) (some v)

/-- The items that are the same neither as one of a list nor as one taken before them. -/
def newItems (present : List Value) : List Value → List Value
  | [] => []
  | v :: rest =>
    if holdsSame present v then newItems present rest else v :: newItems (present ++ [v]) rest

/-- Whether no item of a list is the same as one before it. -/
abbrev NoneRepeats (items : List Value) : Prop :=
  items.Pairwise fun v w => sameValue (some v) (some w) = false

theorem addDistinct_eq_append (present items : List Value) :
    addDistinct present items = present ++ newItems present items := by
  induction items generalizing present with
  | nil => exact (List.append_nil present).symm
  | cons v rest ih =>
    rw [addDistinct, newItems]
    change (if holdsSame present v = true then _ else _) = _
    split
    · exact ih present
    · rw [ih, List.append_assoc, List.singleton_append]

theorem holdsSame_append (present others : List Value) (v : Value) :
    holdsSame (present ++ others) v = (holdsSame present v || holdsSame others v) :=
  List.any_append

theorem holdsSame_singleton (u v : Value) : holdsSame [u] v = sameValue (some u) (some v) := by
  unfold holdsSame
  rw [List.any_cons, List.any_nil, Bool.or_false]

theorem newItems_congr {others : List Value} (h : holdsSame present = holdsSame others)
    (items : List Value) : newItems present items = newItems others items := by
  induction items generalizing present others with
  | nil => rfl
  | cons v rest ih =>
    have hmore : holdsSame (present ++ [v]) = holdsSame (others ++ [v]) := by
      funext w
      rw [holdsSame_append, holdsSame_append, h]
    rw [newItems, newItems, h, ih h, ih hmore]

/-- What is the same as an item that a list holds is held too. -/
theorem holdsSame_of_sameValue {w : Value} (h : holdsSame present v = true)
    (hsame : sameValue (some v) (some w) = true) : holdsSame present w = true := by
  obtain ⟨u, hu, huv⟩ := List.any_eq_true.mp h
  exact List.any_eq_true.mpr ⟨u, hu, sameValue_trans huv hsame⟩

/-- The items that are left out are the same as one that is taken. -/
theorem holdsSame_append_newItems (present items : List Value) :
    holdsSame (present ++ newItems present items) = holdsSame (present ++ items) := by
  induction items generalizing present with
  | nil => rfl
  | cons v rest ih =>
    rw [newItems]
    split
    · -- what is the same as the item left out is the same as the one held for it
      next hheld =>
      rw [ih]
      funext w
      rw [holdsSame_append, holdsSame_append, ← List.singleton_append, holdsSame_append,
        holdsSame_singleton]
      cases hsame : sameValue (some v) (some w) with
      | false => rw [Bool.false_or]
      | true => rw [holdsSame_of_sameValue hheld hsame, Bool.true_or, Bool.true_or]
    · rw [← List.singleton_append, ← List.append_assoc, ih, List.append_assoc,
        List.singleton_append]

/-- New items are the same neither as one of the list nor as one another. -/
theorem noneRepeats_newItems (present items : List Value) :
    (∀ v ∈ newItems present items, holdsSame present v = false) ∧
      NoneRepeats (newItems present items) := by
  induction items generalizing present with
  | nil => exact ⟨List.forall_mem_nil _, .nil⟩
  | cons v rest ih =>
    rw [newItems]
    split
    · exact ih present
    · next hnew =>
      obtain ⟨hapart, hrest⟩ := ih (present ++ [v])
      have hlater : ∀ w ∈ newItems (present ++ [v]) rest,
          holdsSame present w = false ∧ sameValue (some v) (some w) = false := by
        intro w hw
        have hboth := hapart w hw
        rw [holdsSame_append, holdsSame_singleton] at hboth
        exact Bool.or_eq_false_iff.mp hboth
      refine ⟨List.forall_mem_cons.mpr ⟨Bool.not_eq_true _ ▸ hnew, fun w hw => (hlater w hw).1⟩, ?_⟩
      exact List.pairwise_cons.mpr ⟨fun w hw => (hlater w hw).2, hrest⟩

/-- All items are new just if none is the same as one of the list or as one before it. -/
theorem newItems_eq_self_iff :
    newItems present items = items ↔
      (∀ v ∈ items, holdsSame present v = false) ∧ NoneRepeats items := by
  constructor
  · intro h
    have hnew := noneRepeats_newItems present items
    rwa [h] at hnew
  · rintro ⟨hapart, hrepeats⟩
    induction items generalizing present with
    | nil => rfl
    | cons v rest ih =>
      obtain ⟨hv, hrest⟩ := List.forall_mem_cons.mp hapart
      obtain ⟨hfirst, hlater⟩ := List.pairwise_cons.mp hrepeats
      rw [newItems, hv, if_neg (by decide), ih (fun w hw => ?_) hlater]
      rw [holdsSame_append, holdsSame_singleton, hrest w hw, hfirst w hw]
      rfl

theorem newItems_eq_nil (h : ∀ v ∈ items, holdsSame present v = true) :
    newItems present items = [] := by
  induction items with
  | nil => rfl
  | cons v rest ih =>
    obtain ⟨hv, hrest⟩ := List.forall_mem_cons.mp h
    rw [newItems, hv, if_pos rfl, ih hrest]

/-! ## Unions -/

/-- A union with a list begins with what is new in the list itself. -/
theorem union_eq_append (items added : List Value) :
    addDistinct (addDistinct [] items) added = newItems [] items ++ newItems items added := by
  have hheld := holdsSame_append_newItems [] items
  rw [List.nil_append, List.nil_append] at hheld
  rw [addDistinct_eq_append [] items, List.nil_append, addDistinct_eq_append,
    newItems_congr hheld added]

theorem addDistinct_append (present items added : List Value) :
    addDistinct present (items ++ added) = addDistinct (addDistinct present items) added := by
  induction items generalizing present with
  | nil => rfl
  | cons v rest ih =>
    rw [List.cons_append, addDistinct, addDistinct]
    split
    · exact ih present
    · exact ih (present ++ [v])

/-- Items that were united with a list once add nothing to it, as each of them is held. -/
theorem union_again {added : List Value} (h : ∀ v ∈ added, v.IsKey) (items : List Value) :
    addDistinct (addDistinct [] (addDistinct (addDistinct [] items) added)) added =
      addDistinct (addDistinct [] items) added := by
  have hunion : addDistinct (addDistinct [] items) added = newItems [] (items ++ added) := by
    rw [← addDistinct_append, addDistinct_eq_append, List.nil_append]
  have hheld : holdsSame (newItems [] (items ++ added)) = holdsSame (items ++ added) :=
    holdsSame_append_newItems [] (items ++ added)
  have hself : newItems [] (newItems [] (items ++ added)) = newItems [] (items ++ added) :=
    newItems_eq_self_iff.mpr ⟨fun v _ => rfl, (noneRepeats_newItems [] (items ++ added)).2⟩
  have hnil : newItems (newItems [] (items ++ added)) added = [] := by
    refine newItems_eq_nil fun v hv => ?_
    rw [hheld, holdsSame_append]
    exact Bool.or_eq_true_iff.mpr (.inr (List.any_eq_true.mpr ⟨v, hv, sameValue_self (h v hv)⟩))
  rw [hunion, union_eq_append, hself, hnil, List.append_nil]

namespace UpdateOperator

variable {path : String}

/-- Adding to a list under a name keeps the first of the items that are the same in it, puts the
new ones behind them, and leaves all other names. The list itself is kept as it is exactly if
no item in it repeats. -/
theorem addToSet_under_name (hpoint : '.' ∉ path.toList) (hdollar : beginsWith path "$" = false)
    (hlist : d.get? path = some (.array items)) (x : Value) :
    (∃ after, addToSet.applied path x d = .ok [after] ∧
      after.get? path = some (.array (newItems [] items ++ newItems items (addedItems x))) ∧
      (∀ key, key ≠ path → after.get? key = d.get? key) ∧ after.keys = d.keys) ∧
    (newItems [] items = items ↔ NoneRepeats items) := by
  have hthis : beginsWith path "$this" = false := beginsWith_append_eq_false hdollar "this"
  let united := newItems [] items ++ newItems items (addedItems x)
  constructor
  · refine ⟨d.insert path (.array united), ?_, Document.get?_insert_self d path _,
      fun key hkey => Document.get?_insert_of_ne d _ hkey, ?_⟩
    · rw [applied_eq (fun _ => hthis), Document.getPath_of_get? hlist]
      change Except.ok [d.setPath path (.array (addDistinct (addDistinct [] items) (addedItems x)))]
        = _
      rw [union_eq_append, Document.setPath, segments_of_not_mem hpoint]
      rfl
    · have hkey : path ∈ d.keys := List.mem_map_of_mem (Document.mem_of_get? hlist)
      rw [Document.keys_insert, if_pos hkey]
  · rw [newItems_eq_self_iff]
    exact and_iff_right fun v _ => rfl

/-- A tag that is there is not added again, and one that comes twice is added once. -/
theorem addToSet_of_tags :
    '.' ∉ "tags".toList ∧ beginsWith "tags" "$" = false ∧
    Document.get? [("tags", .array [.str "a", .str "b"]), ("m", .null)] "tags" =
      some (.array [.str "a", .str "b"]) ∧
    ∃ after, addToSet.applied "tags"
        (.doc [("$each", .array [.str "b", .str "c", .str "c"])])
        [("tags", .array [.str "a", .str "b"]), ("m", .null)] = .ok [after] ∧
      after.get? "tags" = some (.array [.str "a", .str "b", .str "c"]) ∧
      after.get? "m" = some .null := by
  have hpoint : '.' ∉ "tags".toList := by decide
  obtain ⟨⟨after, happlied, htags, hothers, -⟩, -⟩ := addToSet_under_name hpoint rfl
    (d := [("tags", .array [.str "a", .str "b"]), ("m", .null)]) rfl
    (.doc [("$each", .array [.str "b", .str "c", .str "c"])])
  exact ⟨hpoint, rfl, rfl, after, happlied, htags, hothers "m" (by decide)⟩

/-- But a list that holds an item twice does not stay as it is. -/
theorem addToSet_drops_repeated :
    addToSet.applied "tags" (.str "c") [("tags", .array [.str "a", .str "b", .str "a"])] =
      .ok [[("tags", .array [.str "a", .str "b", .str "c"])]] ∧
    ¬ ∀ (path : String) (items : List Value) (x : Value) (d : Document),
      '.' ∉ path.toList → beginsWith path "$" = false → d.get? path = some (.array items) →
      ∃ after, addToSet.applied path x d = .ok [after] ∧
        after.get? path = some (.array (items ++ newItems items (addedItems x))) := by
  refine ⟨rfl, fun hall => ?_⟩
  obtain ⟨after, happlied, hlist⟩ := hall "tags" [.str "a", .str "b", .str "a"] (.str "c")
    [("tags", .array [.str "a", .str "b", .str "a"])] (by decide) rfl rfl
  cases happlied
  have hlength := congrArg List.length (Value.array.inj (Option.some.inj hlist))
  exact absurd hlength (by decide)

end UpdateOperator

end DocGuard
