import DocGuard.Guard.Reading
import DocGuard.Guard.Writing
import DocGuard.Proofs.GuardedDeletion
import DocGuard.Proofs.Visibility

/-!
# Documents hidden by row filters

The row filter that applies to a user hides the documents that its query does not match. The query
stands in front of what the user asks for, so that a hidden document is passed over before the
user's filter is looked at. Whatever a guarded request answers and whatever it does to the other
documents is then the same whether hidden documents are there or not.
-/

namespace DocGuard

/-! ## Narrowed queries -/

theorem BlindTo.conjoin {hidden : Document → Bool} {p : Document} (h : BlindTo hidden p)
    (q : Document) : BlindTo hidden (conjoin [p, q]) := by
  intro d hd
  rw [matchesFilter_conjoin, h d hd]
  rfl

namespace Guard

/-- The query by which the first row filter that applies to the user narrows what the user can
reach. -/
def rowQuery? (g : Guard) : Option Document :=
  match g.filters.findM? fun f => applies f.applyWhen g.user [] with
  | .ok (some ⟨_, _, some query⟩) => some (query.expand (ruleContext g.user))
  | _ => none

/-- Where it can be decided for each filter whether it applies, the first that applies is the head
of those that do. -/
theorem findM?_applies {user d : Document} {filters found : List RowFilter}
    (h : applicableFilters user d filters = .ok found) :
    filters.findM? (fun f => applies f.applyWhen user d) = .ok found.head? := by
  induction filters generalizing found with
  | nil => cases h; rfl
  | cons f rest ih =>
    obtain ⟨here, hhere, hrest⟩ := bind_eq_ok.mp h
    obtain ⟨others, hothers, hfound⟩ := bind_eq_ok.mp hrest
    cases hfound
    rw [List.findM?, hhere]
    cases here with
    | true => rfl
    | false => exact ih hothers

/-- Whether a document is out of the user's reach: the row filter decides that it does not match. -/
def hides (g : Guard) (d : Document) : Bool :=
  match g.rowQuery? with
  | some query =>
    match matchesFilter d query with
    | .ok matched => !matched
    | .error _ => false
  | none => false

theorem blindTo_rowQuery {g : Guard} {query : Document} (h : g.rowQuery? = some query) :
    BlindTo g.hides query := by
  intro d hd
  unfold hides at hd
  rw [h] at hd
  simp only at hd
  cases hmatch : matchesFilter d query with
  | error e => rw [hmatch] at hd; cases hd
  | ok matched =>
    rw [hmatch] at hd
    cases matched with
    | false => rfl
    | true => cases hd

/-- The parts of a query are that of the row filter, if there is one, and the one asked, unless it
cannot be decided which row filters apply. -/
theorem queryParts_eq_or (g : Guard) :
    (∃ e, ∀ filter, queryParts g.filters filter g.user = .error e) ∨
      ∀ filter, queryParts g.filters filter g.user = .ok (g.rowQuery?.toList ++ [filter]) := by
  unfold queryParts rowQuery?
  cases happlicable : applicableFilters g.user [] g.filters with
  | error e => exact .inl ⟨e, fun _ => rfl⟩
  | ok found =>
    right
    intro filter
    rw [findM?_applies happlicable]
    match found with
    | [] => rfl
    | ⟨_, _, none⟩ :: _ => rfl
    | ⟨_, _, some _⟩ :: _ => rfl

/-- A narrowed query is the one asked behind that of the row filter, if there is one. -/
theorem narrow_eq_ok {g : Guard} {filter query : Document} (h : g.narrow filter = .ok query) :
    query = conjoin (g.rowQuery?.toList ++ [filter]) := by
  unfold narrow at h
  rcases g.queryParts_eq_or with ⟨e, hparts⟩ | hparts
  · rw [hparts] at h
    cases h
  · rw [hparts] at h
    exact (Except.ok.inj h).symm

/-- A narrowed query does not see the documents that the row filter hides. -/
theorem blindTo_narrow {g : Guard} {filter query : Document} (h : g.narrow filter = .ok query) :
    BlindTo g.hides query := by
  rw [narrow_eq_ok h]
  cases hrows : g.rowQuery? with
  | some rows => exact (blindTo_rowQuery hrows).conjoin filter
  | none =>
    intro d hd
    unfold hides at hd
    rw [hrows] at hd
    cases hd

/-! ## Deciding without the hidden documents -/

section Deciding

variable {g : Guard} {c : Collection} {kept : List Document}

theorem findOne_holding (hsystem : g.asSystem = false)
    (hsame : visible g.hides kept = visible g.hides c.documents) (filter : Document) :
    g.findOne (c.holding kept) filter = g.findOne c filter := by
  unfold findOne
  rw [hsystem]
  refine Traced.lift_bind_congr fun query hquery => ?_
  have hfound : (c.holding kept).findOne query = c.findOne query :=
    selectFirst_of_visible_eq (blindTo_narrow hquery) hsame
  rw [hfound]

theorem find_holding (hsystem : g.asSystem = false)
    (hsame : visible g.hides kept = visible g.hides c.documents) (filter : Document) (w : Window) :
    g.find (c.holding kept) filter w = g.find c filter w := by
  unfold find
  rw [hsystem]
  refine Traced.lift_bind_congr fun query hquery => ?_
  have hfound : (c.holding kept).find query w = c.find query w := by
    have hselect := select_of_visible_eq (blindTo_narrow hquery) hsame
    unfold Collection.find
    rw [Collection.holding, hselect]
  rw [hfound]

theorem decideUpdate_holding (hsame : visible g.hides kept = visible g.hides c.documents)
    (filter : Document) (modification : Modification) (extent : Extent) :
    g.decideUpdate (c.holding kept) filter modification extent =
      g.decideUpdate c filter modification extent := by
  refine Traced.lift_bind_congr fun query hquery => ?_
  refine Traced.lift_bind_congr fun stages _ => ?_
  have houtcome : (c.holding kept).aggregate (selectionStages query extent ++ stages) =
      c.aggregate (selectionStages query extent ++ stages) := by
    have hselect := select_of_visible_eq (blindTo_narrow hquery) hsame
    unfold Collection.aggregate
    rw [runPipeline_selectionStages, runPipeline_selectionStages, Collection.holding, hselect]
  rw [houtcome]

theorem find_all_holding {query : Document} (hblind : BlindTo g.hides query)
    (hsame : visible g.hides kept = visible g.hides c.documents) :
    (c.holding kept).find query .all = c.find query .all := by
  unfold Collection.find
  rw [Collection.holding, select_of_visible_eq hblind hsame]

theorem decideDeleteOne_holding (hsame : visible g.hides kept = visible g.hides c.documents)
    (filter : Document) :
    g.decideDeleteOne (c.holding kept) filter = g.decideDeleteOne c filter := by
  refine Traced.lift_bind_congr fun query hquery => ?_
  unfold deletableIds
  rw [find_all_holding (blindTo_narrow hquery) hsame]

theorem decideDeleteMany_holding (hsame : visible g.hides kept = visible g.hides c.documents)
    (filter : Document) :
    g.decideDeleteMany (c.holding kept) filter = g.decideDeleteMany c filter := by
  refine Traced.lift_bind_congr fun query hquery => ?_
  rw [find_all_holding (blindTo_narrow hquery) hsame]

end Deciding

/-! ## Writing -/

section Writing

variable {g : Guard} {c : Collection} {kept : List Document}

/-- A write that waits for a decision overlooks hidden documents if both the decision and the write
that it lets through do. -/
theorem overlooks_thenWrite {α β : Type} {hidden : Document → Bool}
    {decision : Collection → Traced α} {write : α → Write β}
    (hsame : visible hidden kept = visible hidden c.documents)
    (hdecision : decision (c.holding kept) = decision c)
    (hwrite : ∀ a, (decision c).result = .ok a → Overlooks hidden (write a) c kept) :
    Overlooks hidden (fun c => (decision c).thenWrite write c) c kept := by
  cases hresult : (decision c).result with
  -- a refused write only reads
  | error e =>
    let refused : Collection → Traced β := fun _ => ⟨(decision c).calls, .error e⟩
    have hrefused : Overlooks hidden (fun c => (refused c, c)) c kept :=
      overlooks_of_reading hsame rfl
    refine hrefused.congr (Traced.thenWrite_of_error hresult) ?_
    rw [hdecision]
    exact Traced.thenWrite_of_error hresult
  | ok a =>
    have hwritten := (hwrite a hresult).map (Traced.mk (decision c).calls)
    refine hwritten.congr (Traced.thenWrite_of_ok hresult) ?_
    rw [hdecision]
    exact Traced.thenWrite_of_ok hresult

theorem overlooks_update (hsystem : g.asSystem = false)
    (hsame : visible g.hides kept = visible g.hides c.documents) (filter : Document)
    (modification : Modification) (extent : Extent) :
    Overlooks g.hides (g.update filter modification extent) c kept := by
  unfold update
  rw [hsystem]
  refine overlooks_thenWrite hsame (decideUpdate_holding hsame filter modification extent) ?_
  intro query hdecided
  obtain ⟨stages, tried, hquery, -⟩ := decideUpdate_eq_ok hdecided
  exact Collection.overlooks_update (blindTo_narrow hquery) hsame modification extent

theorem overlooks_deleteSelected {query : Document} {found : List Document}
    (hblind : BlindTo g.hides query)
    (hsame : visible g.hides kept = visible g.hides c.documents)
    (hfound : select query c.documents = .ok found) (ids : List Value) (extent : Extent) :
    Overlooks g.hides (deleteSelected extent (some (narrowToIds query ids))) c kept :=
  Collection.overlooks_delete (hblind.conjoin _) hsame
    (exists_matchesFilter_narrowToIds hfound ids)

theorem overlooks_delete (hsystem : g.asSystem = false)
    (hsame : visible g.hides kept = visible g.hides c.documents) (filter : Document)
    (extent : Extent) : Overlooks g.hides (g.delete filter extent) c kept := by
  unfold delete
  rw [hsystem]
  cases extent with
  | first =>
    refine overlooks_thenWrite hsame (decideDeleteOne_holding hsame filter) ?_
    intro selected hdecided
    obtain ⟨query, found, ids, hquery, hfound, -, rfl⟩ := decideDeleteOne_eq_ok hdecided
    split
    · exact overlooks_of_reading hsame rfl
    · exact overlooks_deleteSelected (blindTo_narrow hquery) hsame hfound ids .first
  | every =>
    refine overlooks_thenWrite hsame (decideDeleteMany_holding hsame filter) ?_
    intro selected hdecided
    obtain ⟨query, found, hquery, hfound, -, rfl⟩ := decideDeleteMany_eq_ok hdecided
    split
    · exact overlooks_of_reading hsame rfl
    · exact overlooks_deleteSelected (blindTo_narrow hquery) hsame hfound _ .every

end Writing

/-! ## Requests -/

inductive Request where
  | findOne (filter : Document)
  | find (filter : Document) (w : Window)
  | update (filter : Document) (modification : Modification) (extent : Extent)
  | delete (filter : Document) (extent : Extent)

inductive Answer where
  | document (seen : Option Document)
  | documents (seen : List Document)
  | updated (count : UpdateCount)
  | deleted (count : Nat)

def perform (g : Guard) (r : Request) (c : Collection) : Traced Answer × Collection :=
  match r with
  | .findOne filter => (.document <$> g.findOne c filter, c)
  | .find filter w => (.documents <$> g.find c filter w, c)
  | .update filter modification extent =>
    let outcome := g.update filter modification extent c
    (.updated <$> outcome.1, outcome.2)
  | .delete filter extent =>
    let outcome := g.delete filter extent c
    (.deleted <$> outcome.1, outcome.2)

/-- Whether something is what the user sees of a stored document that is not hidden. -/
def Shows (g : Guard) (documents : List Document) (seen : Document) : Prop :=
  ∃ d ∈ documents, g.hides d = false ∧ (g.validate d .read).result = .ok (some seen)

/-- Whether each document of an answer is what the user sees of a stored one that is not hidden. In
place of a single document that is missing or refused the answer has an empty one. -/
def ShowsOnlyVisible (g : Guard) (documents : List Document) : Answer → Prop
  | .document (some seen) => seen = [] ∨ g.Shows documents seen
  | .documents seen => ∀ d ∈ seen, g.Shows documents d
  | _ => True

theorem not_hides_of_matches {g : Guard} {filter query d : Document}
    (hquery : g.narrow filter = .ok query) (hmatch : matchesFilter d query = .ok true) :
    g.hides d = false := by
  cases hhides : g.hides d with
  | false => rfl
  | true =>
    rw [blindTo_narrow hquery d hhides] at hmatch
    cases hmatch

theorem shows_of_findOne {g : Guard} {c : Collection} {filter seen : Document}
    (hsystem : g.asSystem = false) (h : (g.findOne c filter).result = .ok (some seen)) :
    seen = [] ∨ g.Shows c.documents seen := by
  unfold findOne at h
  rw [hsystem, if_neg (by decide)] at h
  simp only [Traced.result_bind] at h
  obtain ⟨query, hquery, h⟩ := bind_eq_ok.mp h
  obtain ⟨found, hfound, h⟩ := bind_eq_ok.mp h
  cases found with
  -- with roles in place a miss looks like a refusal
  | none =>
    left
    cases hroles : g.roles.isEmpty with
    | true => simp only [hroles] at h; cases h
    | false => simp only [hroles] at h; cases h; rfl
  | some d =>
    obtain ⟨hd, hmatch⟩ := selectFirst_eq_some hfound
    simp only [Traced.result_bind] at h
    obtain ⟨part, hpart, h⟩ := bind_eq_ok.mp h
    cases h
    cases part with
    | none => exact .inl rfl
    | some seen => exact .inr ⟨d, hd, not_hides_of_matches hquery hmatch, hpart⟩

/-- An answer holds what the user sees of the documents that the narrowed query finds in the
window. -/
theorem find_eq_ok {g : Guard} {c : Collection} {filter : Document} {w : Window}
    {answer : List Document} (hsystem : g.asSystem = false)
    (h : (g.find c filter w).result = .ok answer) :
    ∃ query found seen, g.narrow filter = .ok query ∧ select query c.documents = .ok found ∧
      List.Forall₂ (fun d s => (g.validate d .read).result = .ok s) (w.cut found) seen ∧
      answer = seen.filterMap id := by
  unfold find at h
  rw [hsystem, if_neg (by decide)] at h
  simp only [Traced.result_bind] at h
  obtain ⟨query, hquery, h⟩ := bind_eq_ok.mp h
  obtain ⟨part, hpart, h⟩ := bind_eq_ok.mp h
  obtain ⟨found, hfound, hcut⟩ := bind_eq_ok.mp hpart
  cases hcut
  obtain ⟨seen, hseen, h⟩ := bind_eq_ok.mp h
  cases h
  exact ⟨query, found, seen, hquery, hfound, Traced.forall₂_of_gather hseen, rfl⟩

theorem shows_of_find {g : Guard} {c : Collection} {filter : Document} {w : Window}
    {seen : List Document} (hsystem : g.asSystem = false)
    (h : (g.find c filter w).result = .ok seen) : ∀ d ∈ seen, g.Shows c.documents d := by
  obtain ⟨query, found, parts, hquery, hfound, hparts, rfl⟩ := find_eq_ok hsystem h
  intro v hv
  obtain ⟨part, hv, rfl⟩ := List.mem_filterMap.mp hv
  obtain ⟨d, hd, hvalid⟩ := exists_mem_of_forall₂ hparts.flip hv
  obtain ⟨hstored, hmatch⟩ := (mem_select hfound).mp (w.mem_of_mem_cut hd)
  exact ⟨d, hstored, not_hides_of_matches hquery hmatch, hvalid⟩

theorem showsOnlyVisible_of_perform {g : Guard} {c : Collection} {r : Request} {answer : Answer}
    (hsystem : g.asSystem = false) (h : (g.perform r c).1.result = .ok answer) :
    g.ShowsOnlyVisible c.documents answer := by
  cases r with
  | findOne filter =>
    obtain ⟨seen, hseen, rfl⟩ := Traced.map_eq_ok.mp h
    cases seen with
    | none => trivial
    | some seen => exact shows_of_findOne hsystem hseen
  | find filter w =>
    obtain ⟨seen, hseen, rfl⟩ := Traced.map_eq_ok.mp h
    exact shows_of_find hsystem hseen
  | update filter modification extent =>
    obtain ⟨_, _, rfl⟩ := Traced.map_eq_ok.mp h
    trivial
  | delete filter extent =>
    obtain ⟨_, _, rfl⟩ := Traced.map_eq_ok.mp h
    trivial

def ofOwnRows : Guard where
  rules := [("todos", ⟨[], [⟨"own", [], some [("owner", .str "%%user.id")]⟩]⟩)]
  collection := "todos"
  user := [("id", .str "ann")]
  asSystem := false
  caller := fun name _ _ => .error (.functionNotFound name)

/-- A filter with a malformed pattern, which is not looked at for documents of that user. -/
def ownOrMalformed : Document :=
  [("$or", .array [
    .doc [("owner", .str "ann")],
    .doc [("owner", .doc [("$regex", .str "[")])]])]

/-- Hidden documents have no influence on a request of a user, and it has none on them: no document
of the answer is a hidden one, the hidden ones stay as they are, and with any other documents that
differ from the stored ones only in the hidden ones the request is answered in the same way and the
same becomes of the visible ones. -/
theorem perform_overlooks_hidden {g : Guard} {c : Collection} {kept : List Document}
    (hsystem : g.asSystem = false)
    (hsame : visible g.hides kept = visible g.hides c.documents) (r : Request) :
    (∀ answer, (g.perform r c).1.result = .ok answer → g.ShowsOnlyVisible c.documents answer) ∧
      (c.documents.filter g.hides).Sublist (g.perform r c).2.documents ∧
      Overlooks g.hides (g.perform r) c kept := by
  have hoverlooks : Overlooks g.hides (g.perform r) c kept := by
    cases r with
    | findOne filter =>
      exact (overlooks_of_reading hsame (findOne_holding hsystem hsame filter)).map _
    | find filter w =>
      exact (overlooks_of_reading hsame (find_holding hsystem hsame filter w)).map _
    | update filter modification extent =>
      exact (overlooks_update hsystem hsame filter modification extent).map _
    | delete filter extent => exact (overlooks_delete hsystem hsame filter extent).map _
  refine ⟨fun answer => showsOnlyVisible_of_perform hsystem, ?_, hoverlooks⟩
  obtain ⟨fates, -, hdocuments, -⟩ := hoverlooks
  rw [hdocuments]
  exact filter_hidden_sublist_settle c.documents fates

/-- The document of somebody else is hidden, so that the malformed pattern does not show and it
makes no difference whether that document is there. -/
theorem perform_marks_own :
    (ofOwnRows.perform (.update ownOrMalformed (.stages (markUpTo 2)) .every)
        (todosWith "bob")).1.result = .ok (.updated ⟨1, 1⟩) ∧
      visible ofOwnRows.hides [[("_id", .int32 1), ("owner", .str "ann")]] =
        visible ofOwnRows.hides (todosWith "bob").documents ∧
      Overlooks ofOwnRows.hides
        (ofOwnRows.perform (.update ownOrMalformed (.stages (markUpTo 2)) .every))
        (todosWith "bob") [[("_id", .int32 1), ("owner", .str "ann")]] := by
  have hsame : visible ofOwnRows.hides [[("_id", .int32 1), ("owner", .str "ann")]] =
      visible ofOwnRows.hides (todosWith "bob").documents := rfl
  exact ⟨rfl, hsame, (perform_overlooks_hidden rfl hsame _).2.2⟩

end Guard

end DocGuard
