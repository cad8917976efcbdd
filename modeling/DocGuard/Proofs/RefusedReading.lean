import DocGuard.Proofs.GuardedReading

/-!
# Reading with and without refused documents

A search cuts its window out of what it finds before each document is validated, so that a document
that the user may not read takes a place in it. Such a document looks like a missing one where no
cut tells it from one: no refused document stands in front of the cut, or only refused ones stand
behind it.
-/

namespace DocGuard

/-! ## Cuts -/

section Cuts

variable {hidden : Document → Bool} {n : Nat} {documents : List Document}

/-- Whether a cut behind the first `n` documents does not count hidden ones: none stands in front of
it, or nothing else stands behind it. -/
def CutsClean (hidden : Document → Bool) (n : Nat) (documents : List Document) : Prop :=
  (∀ d ∈ documents.take n, hidden d = false) ∨ ∀ d ∈ documents.drop n, hidden d = true

theorem visible_split (hidden : Document → Bool) (n : Nat) (documents : List Document) :
    visible hidden documents =
      visible hidden (documents.take n) ++ visible hidden (documents.drop n) := by
  unfold visible
  rw [← List.filter_append, List.take_append_drop]

theorem visible_eq_self (h : ∀ d ∈ documents, hidden d = false) :
    visible hidden documents = documents := by
  refine List.filter_eq_self.mpr fun d hd => ?_
  rw [h d hd]
  rfl

theorem visible_eq_nil (h : ∀ d ∈ documents, hidden d = true) : visible hidden documents = [] := by
  refine List.filter_eq_nil_iff.mpr fun d hd => ?_
  rw [h d hd]
  decide

theorem length_visible_take_le (hidden : Document → Bool) (n : Nat) (documents : List Document) :
    (visible hidden (documents.take n)).length ≤ n := by
  have hfilter : (visible hidden (documents.take n)).length ≤ (documents.take n).length :=
    List.length_filter_le _ _
  rw [List.length_take] at hfilter
  omega

theorem length_visible_take_or (h : CutsClean hidden n documents) :
    (visible hidden (documents.take n)).length = n ∨ visible hidden (documents.drop n) = [] := by
  rcases h with hfront | hback
  · rw [visible_eq_self hfront, List.length_take]
    by_cases hlength : n ≤ documents.length
    · left
      omega
    · -- the cut is behind all documents
      right
      rw [List.drop_of_length_le (by omega)]
      rfl
  · exact .inr (visible_eq_nil hback)

theorem take_visible (h : CutsClean hidden n documents) :
    (visible hidden documents).take n = visible hidden (documents.take n) := by
  have hle := length_visible_take_le hidden n documents
  rw [visible_split hidden n]
  rcases length_visible_take_or h with hlength | hback
  · exact List.take_left' hlength
  · rw [hback, List.append_nil, List.take_of_length_le hle]

theorem drop_visible (h : CutsClean hidden n documents) :
    (visible hidden documents).drop n = visible hidden (documents.drop n) := by
  have hle := length_visible_take_le hidden n documents
  rw [visible_split hidden n]
  rcases length_visible_take_or h with hlength | hback
  · exact List.drop_left' hlength
  · rw [hback, List.append_nil, List.drop_of_length_le hle]

/-- Whether a cut is clean shows in the numbers of visible documents on its two sides. -/
theorem cutsClean_of_length
    (h : (visible hidden (documents.take n)).length = n ∨
      (visible hidden (documents.drop n)).length = 0) : CutsClean hidden n documents := by
  rcases h with hfront | hback
  · left
    intro d hd
    have hfilter : (visible hidden (documents.take n)).length = (documents.take n).length := by
      have hle : (visible hidden (documents.take n)).length ≤ (documents.take n).length :=
        List.length_filter_le _ _
      rw [List.length_take] at hle ⊢
      omega
    have hall := List.length_filter_eq_length_iff.mp hfilter d hd
    rwa [Bool.not_eq_true'] at hall
  · right
    intro d hd
    have hnone := List.filter_eq_nil_iff.mp (List.eq_nil_of_length_eq_zero hback) d hd
    rwa [Bool.not_eq_true', Bool.not_eq_false] at hnone

namespace Window

/-- Whether both ends of a window are clean cuts. -/
def CutsClean (hidden : Document → Bool) (w : Window) (found : List Document) : Prop :=
  DocGuard.CutsClean hidden (w.skip.getD 0) found ∧
    ∀ n, w.limit = some n → DocGuard.CutsClean hidden n (found.drop (w.skip.getD 0))

theorem cut_visible {w : Window} {found : List Document} (h : w.CutsClean hidden found) :
    w.cut (visible hidden found) = visible hidden (w.cut found) := by
  obtain ⟨hskip, hlimit⟩ := h
  unfold cut
  rw [drop_visible hskip]
  cases hn : w.limit with
  | none => rfl
  | some n => exact take_visible (hlimit n hn)

theorem mem_of_mem_cut_visible {w : Window} {found : List Document} {d : Document}
    (h : d ∈ w.cut (visible hidden found)) : hidden d = false := by
  have hvisible := (List.mem_filter.mp (w.mem_of_mem_cut h)).2
  rwa [Bool.not_eq_true'] at hvisible

theorem cutsClean_of_length_eq {w : Window} {found : List Document}
    (hends : w.skip = none ∨ w.limit = none)
    (h : (w.cut (visible hidden found)).length = (visible hidden (w.cut found)).length) :
    w.CutsClean hidden found := by
  -- the visible documents in front of a cut and those behind it make up all of them
  obtain ⟨skip, limit⟩ := w
  have hfront : DocGuard.CutsClean hidden 0 found := .inl fun d hd => by cases hd
  have hsplit := fun n => congrArg List.length (visible_split hidden n found)
  simp only [List.length_append] at hsplit
  rcases hends with rfl | rfl
  · refine ⟨hfront, ?_⟩
    rintro n rfl
    have hn := hsplit n
    have hle := length_visible_take_le hidden n found
    change ((visible hidden found).take n).length = (visible hidden (found.take n)).length at h
    rw [List.length_take] at h
    refine cutsClean_of_length ?_
    change (visible hidden (found.take n)).length = n ∨
      (visible hidden (found.drop n)).length = 0
    omega
  · refine ⟨?_, fun n hn => by cases hn⟩
    have hn := hsplit (skip.getD 0)
    have hle := length_visible_take_le hidden (skip.getD 0) found
    change ((visible hidden found).drop (skip.getD 0)).length =
      (visible hidden (found.drop (skip.getD 0))).length at h
    rw [List.length_drop] at h
    refine cutsClean_of_length ?_
    change (visible hidden (found.take (skip.getD 0))).length = skip.getD 0 ∨
      (visible hidden (found.drop (skip.getD 0))).length = 0
    omega

end Window

end Cuts

namespace Guard

variable {g : Guard} {c : Collection} {filter : Document}

/-- Whether the user may not read a document: validating it denies it. -/
def refuses (g : Guard) (d : Document) : Bool :=
  match (g.validate d .read).result with
  | .ok none => true
  | _ => false

/-- What the user sees of a document; of a refused one it is nothing. -/
def view (g : Guard) (d : Document) : Document :=
  match (g.validate d .read).result with
  | .ok (some seen) => seen
  | _ => []

/-- The stored documents in the user's reach that satisfy a filter. -/
def reached (g : Guard) (c : Collection) (filter : Document) : List Document :=
  c.documents.filter fun d => g.reaches d && satisfies filter d

/-- A collection without the documents that the user may not read. -/
def withoutRefused (g : Guard) (c : Collection) : Collection :=
  c.holding (visible g.refuses c.documents)

theorem reached_withoutRefused (g : Guard) (c : Collection) (filter : Document) :
    g.reached (g.withoutRefused c) filter = visible g.refuses (g.reached c filter) :=
  List.filter_comm _ _ _

theorem refuses_eq_of_validate {d : Document} {seen : Option Document}
    (h : (g.validate d .read).result = .ok seen) : g.refuses d = seen.isNone := by
  unfold refuses
  rw [h]
  cases seen <;> rfl

theorem view_eq_of_validate {d : Document} {seen : Option Document}
    (h : (g.validate d .read).result = .ok seen) : g.view d = seen.getD [] := by
  unfold view
  rw [h]
  cases seen <;> rfl

theorem view_of_refuses {d : Document} (h : g.refuses d = true) : g.view d = [] := by
  unfold refuses at h
  unfold view
  split at h
  next hvalid => rw [hvalid]
  next => cases h

theorem roles_isEmpty_of_refuses {d : Document} (h : g.refuses d = true) :
    g.roles.isEmpty = false := by
  cases hroles : g.roles with
  | cons role rest => rfl
  | nil =>
    -- without roles every document passes
    have hpasses : (g.validate d .read).result = .ok (some d) := by
      refine validate_of_no_role ?_
      rw [hroles]
      rfl
    rw [refuses_eq_of_validate hpasses] at h
    cases h

/-! ## Answers -/

theorem filterMap_eq_map_view {documents : List Document} {seen : List (Option Document)}
    (h : List.Forall₂ (fun d s => (g.validate d .read).result = .ok s) documents seen) :
    seen.filterMap id = (visible g.refuses documents).map g.view := by
  induction h with
  | nil => rfl
  | @cons d part rest parts hvalid _ ih =>
    cases part with
    | none =>
      rw [visible_cons_hidden (refuses_eq_of_validate hvalid), ← ih]
      rfl
    | some shown =>
      rw [visible_cons_visible (refuses_eq_of_validate hvalid), List.map_cons, ← ih,
        view_eq_of_validate hvalid]
      rfl

theorem find_eq_map_view {w : Window} {answer : List Document} (hsystem : g.asSystem = false)
    (h : (g.find c filter w).result = .ok answer) :
    answer = (visible g.refuses (w.cut (g.reached c filter))).map g.view := by
  obtain ⟨query, found, seen, hquery, hfound, hseen, hanswer⟩ := find_eq_ok hsystem h
  have hreached : found = g.reached c filter := by
    rw [select_eq_filter hfound]
    exact List.filter_congr fun d _ => satisfies_of_narrow hquery d
  rw [hanswer, filterMap_eq_map_view hseen, hreached]

theorem selectFirst_eq_head? {query : Document} {documents : List Document}
    {found : Option Document} (h : selectFirst query documents = .ok found) :
    found = (documents.filter (satisfies query)).head? := by
  induction documents with
  | nil => cases h; rfl
  | cons d rest ih =>
    obtain ⟨here, hhere, hrest⟩ := bind_eq_ok.mp h
    have hsatisfies : satisfies query d = here := satisfies_of_ok hhere
    cases here with
    | true =>
      rw [List.filter_cons_of_pos hsatisfies]
      exact (Except.ok.inj hrest).symm
    | false =>
      rw [List.filter_cons_of_neg (by rw [hsatisfies]; decide)]
      exact ih hrest

theorem findOne_eq_view {answer : Option Document} (hsystem : g.asSystem = false)
    (h : (g.findOne c filter).result = .ok answer) :
    answer = match (g.reached c filter).head? with
      | some d => some (g.view d)
      | none => if g.roles.isEmpty then none else some [] := by
  unfold findOne at h
  rw [hsystem, if_neg (by decide)] at h
  simp only [Traced.result_bind] at h
  obtain ⟨query, hquery, h⟩ := bind_eq_ok.mp h
  obtain ⟨found, hfound, h⟩ := bind_eq_ok.mp h
  have hreached : g.reached c filter = c.documents.filter (satisfies query) :=
    List.filter_congr fun d _ => (satisfies_of_narrow hquery d).symm
  rw [hreached, ← selectFirst_eq_head? hfound]
  cases found with
  | none => exact (Except.ok.inj h).symm
  | some d =>
    -- the first match is the answer, whether it is refused or not
    simp only [Traced.result_bind] at h
    obtain ⟨seen, hseen, h⟩ := bind_eq_ok.mp h
    change answer = some (g.view d)
    rw [view_eq_of_validate hseen]
    exact (Except.ok.inj h).symm

/-- A refused document looks like a missing one wherever no cut counts it. A search is answered as
if the refused documents were not there if its window cuts clean, and with a single end only then;
a search for one document is, if the first match is not refused or all matches are. -/
theorem refused_looks_missing (hsystem : g.asSystem = false) :
    (∀ w answer without, (g.find c filter w).result = .ok answer →
      (g.find (g.withoutRefused c) filter w).result = .ok without →
        (w.CutsClean g.refuses (g.reached c filter) → without = answer) ∧
        (w.skip = none ∨ w.limit = none → without = answer →
          w.CutsClean g.refuses (g.reached c filter))) ∧
      ∀ answer without, (g.findOne c filter).result = .ok answer →
        (g.findOne (g.withoutRefused c) filter).result = .ok without →
          CutsClean g.refuses 1 (g.reached c filter) → without = answer := by
  constructor
  · intro w answer without hanswer hwithout
    -- of the reduced collection nothing in the window is refused
    have hvisible : visible g.refuses (w.cut (visible g.refuses (g.reached c filter))) =
        w.cut (visible g.refuses (g.reached c filter)) :=
      visible_eq_self fun _ => Window.mem_of_mem_cut_visible
    rw [find_eq_map_view hsystem hanswer, find_eq_map_view hsystem hwithout,
      reached_withoutRefused, hvisible]
    refine ⟨fun hclean => by rw [Window.cut_visible hclean], fun hends hsame => ?_⟩
    have hlength := congrArg List.length hsame
    rw [List.length_map, List.length_map] at hlength
    exact Window.cutsClean_of_length_eq hends hlength
  · intro answer without hanswer hwithout hclean
    rw [findOne_eq_view hsystem hanswer, findOne_eq_view hsystem hwithout, reached_withoutRefused]
    cases hreached : g.reached c filter with
    | nil => rfl
    | cons d rest =>
      rw [hreached] at hclean
      cases hd : g.refuses d with
      | false => rw [visible_cons_visible hd]; rfl
      | true =>
        -- nothing but refused documents is behind the first match
        have hrest : ∀ other ∈ rest, g.refuses other = true := by
          rcases hclean with hfront | hback
          · have hshown := hfront d (List.mem_singleton_self d)
            rw [hd] at hshown
            cases hshown
          · exact hback
        rw [visible_cons_hidden hd, visible_eq_nil hrest]
        change (if g.roles.isEmpty then none else some []) = some (g.view d)
        rw [roles_isEmpty_of_refuses hd, view_of_refuses hd]
        rfl

def ofReader : Guard :=
  underRole { Role.bare "owner" with
    read := some (.condition [("%%root.owner", .str "%%user.id")]) }

def ownInBetween : Collection :=
  .ofDocuments "todos" [
    [("_id", .int32 1), ("owner", .str "bob")],
    [("_id", .int32 2), ("owner", .str "ann")],
    [("_id", .int32 3), ("owner", .str "bob")]]

/-- Only a refused document stands behind the limit, so that it makes no difference whether the
refused ones are there. -/
theorem refused_at_the_end :
    (ofReader.find (ofReader.withoutRefused ownInBetween) [] ⟨none, some 2⟩).result =
        (ofReader.find ownInBetween [] ⟨none, some 2⟩).result ∧
      (ofReader.findOne (ofReader.withoutRefused ownInBetween) [("owner", .str "ann")]).result =
        (ofReader.findOne ownInBetween [("owner", .str "ann")]).result := by
  have hfind : (ofReader.find ownInBetween [] ⟨none, some 2⟩).result =
      .ok [[("_id", .int32 2), ("owner", .str "ann")]] := rfl
  have hfindWithout :
      (ofReader.find (ofReader.withoutRefused ownInBetween) [] ⟨none, some 2⟩).result =
        .ok [[("_id", .int32 2), ("owner", .str "ann")]] := rfl
  have hfirst : (ofReader.findOne ownInBetween [("owner", .str "ann")]).result =
      .ok (some [("_id", .int32 2), ("owner", .str "ann")]) := rfl
  have hfirstWithout :
      (ofReader.findOne (ofReader.withoutRefused ownInBetween) [("owner", .str "ann")]).result =
        .ok (some [("_id", .int32 2), ("owner", .str "ann")]) := rfl
  have hwindow : Window.CutsClean ofReader.refuses ⟨none, some 2⟩
      (ofReader.reached ownInBetween []) := by
    refine ⟨.inl fun d hd => (by cases hd), fun n hn => ?_⟩
    cases hn
    exact .inr (by decide)
  have hown :
      CutsClean ofReader.refuses 1 (ofReader.reached ownInBetween [("owner", .str "ann")]) :=
    .inl (by decide)
  have hsame := ((refused_looks_missing rfl).1 _ _ _ hfind hfindWithout).1 hwindow
  have hsameFirst := (refused_looks_missing rfl).2 _ _ hfirst hfirstWithout hown
  rw [hfind, hfindWithout, hfirst, hfirstWithout, hsame, hsameFirst]
  exact ⟨rfl, rfl⟩

/-- A refused document takes a place where it is counted: the document behind it is cut off by a
limit, shown in spite of a skip, and not found as the first match. -/
theorem refused_takes_place :
    ofReader.asSystem = false ∧ ofReader.roles ≠ [] ∧
      ((ofReader.find ownInBetween [] ⟨none, some 1⟩).result = .ok [] ∧
        (ofReader.find (ofReader.withoutRefused ownInBetween) [] ⟨none, some 1⟩).result =
          .ok [[("_id", .int32 2), ("owner", .str "ann")]]) ∧
      ((ofReader.find ownInBetween [] ⟨some 1, none⟩).result =
          .ok [[("_id", .int32 2), ("owner", .str "ann")]] ∧
        (ofReader.find (ofReader.withoutRefused ownInBetween) [] ⟨some 1, none⟩).result = .ok []) ∧
      (ofReader.findOne ownInBetween []).result = .ok (some []) ∧
        (ofReader.findOne (ofReader.withoutRefused ownInBetween) []).result =
          .ok (some [("_id", .int32 2), ("owner", .str "ann")]) :=
  ⟨rfl, by decide, ⟨rfl, rfl⟩, ⟨rfl, rfl⟩, rfl, rfl⟩

end Guard

end DocGuard
