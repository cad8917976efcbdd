import DocGuard.Proofs.Collection

/-!
# Passes that do not see some documents

Some documents are hidden, and a filter is blind to them: it does not match them, and it decides so
without a fault. What a pass with such a filter finds, and what it does to the other documents, then
depends on the other documents alone, and the hidden ones stay where they are.
-/

namespace DocGuard

variable {hidden : Document → Bool} {filter : Document}

/-- Whether a filter matches none of the hidden documents and decides so without a fault. -/
def BlindTo (hidden : Document → Bool) (filter : Document) : Prop :=
  ∀ d, hidden d = true → matchesFilter d filter = .ok false

def visible (hidden : Document → Bool) (documents : List Document) : List Document :=
  documents.filter fun d => !hidden d

theorem visible_cons_hidden {d : Document} (h : hidden d = true) (rest : List Document) :
    visible hidden (d :: rest) = visible hidden rest :=
  List.filter_cons_of_neg (by rw [h]; decide)

theorem visible_cons_visible {d : Document} (h : hidden d = false) (rest : List Document) :
    visible hidden (d :: rest) = d :: visible hidden rest :=
  List.filter_cons_of_pos (by rw [h]; decide)

/-! ## Finding -/

theorem select_visible (hblind : BlindTo hidden filter) (documents : List Document) :
    select filter (visible hidden documents) = select filter documents := by
  induction documents with
  | nil => rfl
  | cons d rest ih =>
    cases hd : hidden d with
    | true =>
      rw [visible_cons_hidden hd, ih, select, hblind d hd]
      cases select filter rest <;> rfl
    | false => rw [visible_cons_visible hd, select, select, ih]

theorem selectFirst_visible (hblind : BlindTo hidden filter) (documents : List Document) :
    selectFirst filter (visible hidden documents) = selectFirst filter documents := by
  induction documents with
  | nil => rfl
  | cons d rest ih =>
    cases hd : hidden d with
    | true =>
      rw [visible_cons_hidden hd, ih, selectFirst, hblind d hd]
      rfl
    | false => rw [visible_cons_visible hd, selectFirst, selectFirst, ih]

/-- A filter finds the same in documents that differ only in the hidden ones. -/
theorem select_of_visible_eq (hblind : BlindTo hidden filter) {documents kept : List Document}
    (hsame : visible hidden kept = visible hidden documents) :
    select filter kept = select filter documents := by
  rw [← select_visible hblind kept, hsame, select_visible hblind]

theorem selectFirst_of_visible_eq (hblind : BlindTo hidden filter)
    {documents kept : List Document}
    (hsame : visible hidden kept = visible hidden documents) :
    selectFirst filter kept = selectFirst filter documents := by
  rw [← selectFirst_visible hblind kept, hsame, selectFirst_visible hblind]

/-! ## What becomes of documents -/

/-- Documents after each visible one met its fate, in order: another document in its place or, at
`none`, removal. The hidden ones stay. -/
def settle (hidden : Document → Bool) : List Document → List (Option Document) → List Document
  | [], _ => []
  | d :: rest, fates =>
    if hidden d then d :: settle hidden rest fates
    else (fates.headD (some d)).toList ++ settle hidden rest fates.tail

theorem settle_cons_hidden {d : Document} (h : hidden d = true) (rest : List Document)
    (fates : List (Option Document)) :
    settle hidden (d :: rest) fates = d :: settle hidden rest fates := by
  rw [settle, if_pos h]

theorem settle_cons_visible {d : Document} (h : hidden d = false) (rest : List Document)
    (fates : List (Option Document)) :
    settle hidden (d :: rest) fates =
      (fates.headD (some d)).toList ++ settle hidden rest fates.tail := by
  rw [settle, if_neg (by rw [h]; decide)]

/-- Hidden documents are neither changed nor removed. -/
theorem filter_hidden_sublist_settle (documents : List Document) (fates : List (Option Document)) :
    (documents.filter hidden).Sublist (settle hidden documents fates) := by
  induction documents generalizing fates with
  | nil => exact .slnil
  | cons d rest ih =>
    cases hd : hidden d with
    | true =>
      rw [settle_cons_hidden hd, List.filter_cons_of_pos hd]
      exact (ih fates).cons_cons d
    | false =>
      rw [settle_cons_visible hd, List.filter_cons_of_neg (by rw [hd]; decide)]
      exact (ih fates.tail).trans (List.sublist_append_right _ _)

/-- Documents whose fate is to stay as they are. -/
theorem settle_stay (documents : List Document) :
    settle hidden documents ((visible hidden documents).map some) = documents := by
  induction documents with
  | nil => rfl
  | cons d rest ih =>
    cases hd : hidden d with
    | true => rw [settle_cons_hidden hd, visible_cons_hidden hd, ih]
    | false =>
      rw [visible_cons_visible hd, List.map_cons, settle_cons_visible hd, List.tail_cons, ih]
      rfl

namespace Collection

/-! ## Updating -/

theorem length_updatePass (name : String) (filter : Document) (stages : List Document)
    (extent : Extent) (documents : List Document) :
    (updatePass name filter stages extent documents).documents.length = documents.length := by
  induction documents with
  | nil => rfl
  | cons d rest ih =>
    rw [updatePass]
    cases matchesFilter d filter with
    | error e => rfl
    | ok here =>
      cases here with
      | false => exact congrArg (· + 1) ih
      | true =>
        cases updated stages d with
        | error e => rfl
        | ok after =>
          cases extent with
          | first => rfl
          | every => exact congrArg (· + 1) ih

/-- An update pass gives the result that it gives on the visible documents, and puts the same
documents in their places. -/
theorem updatePass_visible (hblind : BlindTo hidden filter) (name : String)
    (stages : List Document) (extent : Extent) (documents : List Document) :
    (updatePass name filter stages extent (visible hidden documents)).result =
        (updatePass name filter stages extent documents).result ∧
      settle hidden documents
          ((updatePass name filter stages extent (visible hidden documents)).documents.map some) =
        (updatePass name filter stages extent documents).documents := by
  induction documents with
  | nil => exact ⟨rfl, rfl⟩
  | cons d rest ih =>
    obtain ⟨hresult, hdocuments⟩ := ih
    have hstay : settle hidden rest ((visible hidden rest).map some) = rest := settle_stay rest
    cases hd : hidden d with
    | true =>
      rw [visible_cons_hidden hd, settle_cons_hidden hd, hdocuments, hresult, updatePass,
        hblind d hd]
      exact ⟨rfl, rfl⟩
    | false =>
      rw [visible_cons_visible hd, settle_cons_visible hd, updatePass, updatePass]
      cases matchesFilter d filter with
      -- a fault ends both passes, and the documents behind it stay
      | error e => exact ⟨rfl, congrArg (d :: ·) hstay⟩
      | ok here =>
        cases here with
        | false => exact ⟨hresult, congrArg (d :: ·) hdocuments⟩
        | true =>
          cases updated stages d with
          | error e => exact ⟨rfl, congrArg (d :: ·) hstay⟩
          | ok after =>
            cases extent with
            | first => exact ⟨rfl, congrArg (kept d after :: ·) hstay⟩
            | every =>
              refine ⟨?_, congrArg (kept d after :: ·) hdocuments⟩
              simp only [hresult]

/-! ## Deleting -/

/-- What a deletion does to documents: it removes those that a filter matches, or the first of
them. -/
def deleteFates (filter : Document) (extent : Extent) : List Document → List (Option Document)
  | [] => []
  | d :: rest =>
    match matchesFilter d filter with
    | .error _ => (d :: rest).map some
    | .ok false => some d :: deleteFates filter extent rest
    | .ok true =>
      none ::
        match extent with
        | .first => rest.map some
        | .every => deleteFates filter extent rest

theorem deleteFates_cons_false {d : Document} (h : matchesFilter d filter = .ok false)
    (extent : Extent) (rest : List Document) :
    deleteFates filter extent (d :: rest) = some d :: deleteFates filter extent rest := by
  rw [deleteFates.eq_def]
  simp only [h]

theorem deleteFates_first {d : Document} (h : matchesFilter d filter = .ok true)
    (rest : List Document) :
    deleteFates filter .first (d :: rest) = none :: rest.map some := by
  rw [deleteFates.eq_def]
  simp only [h]

theorem deleteFates_every {d : Document} (h : matchesFilter d filter = .ok true)
    (rest : List Document) :
    deleteFates filter .every (d :: rest) = none :: deleteFates filter .every rest := by
  rw [deleteFates.eq_def]
  simp only [h]

theorem length_deleteFates (filter : Document) (extent : Extent) (documents : List Document) :
    (deleteFates filter extent documents).length = documents.length := by
  induction documents with
  | nil => rfl
  | cons d rest ih =>
    unfold deleteFates
    cases matchesFilter d filter with
    | error e => exact List.length_map _
    | ok here =>
      cases here with
      | false => exact congrArg (· + 1) ih
      | true =>
        cases extent with
        | first => exact congrArg (· + 1) (List.length_map _)
        | every => exact congrArg (· + 1) ih

/-- A deletion without a fault removes from the visible documents what it removes from these
alone. -/
theorem deletePass_visible (hblind : BlindTo hidden filter) (extent : Extent)
    (documents : List Document) :
    deletePass filter extent documents =
      (deletePass filter extent (visible hidden documents)).map fun pass =>
        (settle hidden documents (deleteFates filter extent (visible hidden documents)),
          pass.2) := by
  induction documents with
  | nil => rfl
  | cons d rest ih =>
    cases hd : hidden d with
    | true =>
      rw [visible_cons_hidden hd, settle_cons_hidden hd, deletePass_cons_false (hblind d hd), ih]
      cases deletePass filter extent (visible hidden rest) <;> rfl
    | false =>
      rw [visible_cons_visible hd, settle_cons_visible hd]
      cases hhere : matchesFilter d filter with
      | error e => rw [deletePass_cons_error hhere, deletePass_cons_error hhere]; rfl
      | ok here =>
        cases here with
        | false =>
          rw [deletePass_cons_false hhere, deletePass_cons_false hhere,
            deleteFates_cons_false hhere, ih]
          cases deletePass filter extent (visible hidden rest) <;> rfl
        | true =>
          cases extent with
          | first =>
            rw [deletePass_first hhere, deletePass_first hhere, deleteFates_first hhere]
            exact congrArg (fun others => Except.ok (others, [d])) (settle_stay rest).symm
          | every =>
            rw [deletePass_every hhere, deletePass_every hhere, deleteFates_every hhere, ih]
            cases deletePass filter .every (visible hidden rest) <;> rfl

/-- A deletion with a filter that can be decided for every document does not fail. -/
theorem exists_deletePass_eq_ok {extent : Extent} {documents : List Document}
    (h : ∀ d ∈ documents, ∃ here, matchesFilter d filter = .ok here) :
    ∃ pass, deletePass filter extent documents = .ok pass := by
  induction documents with
  | nil => exact ⟨_, rfl⟩
  | cons d rest ih =>
    obtain ⟨pass, hpass⟩ := ih fun e he => h e (List.mem_cons_of_mem d he)
    obtain ⟨here, hhere⟩ := h d List.mem_cons_self
    cases here with
    | false => rw [deletePass_cons_false hhere, hpass]; exact ⟨_, rfl⟩
    | true =>
      cases extent with
      | first => exact ⟨_, deletePass_first hhere⟩
      | every => rw [deletePass_every hhere, hpass]; exact ⟨_, rfl⟩

end Collection

/-! ## Operations that overlook hidden documents -/

def Collection.holding (c : Collection) (documents : List Document) : Collection :=
  { c with documents }

/-- Whether an operation on a collection does the same with other stored documents: it gives the
same answer and publishes the same changes, and the same becomes of the visible documents. -/
def Overlooks {α : Type} (hidden : Document → Bool) (operation : Collection → α × Collection)
    (c : Collection) (kept : List Document) : Prop :=
  ∃ fates, fates.length = (visible hidden c.documents).length ∧
    (operation c).2.documents = settle hidden c.documents fates ∧
    operation (c.holding kept) =
      ((operation c).1, (operation c).2.holding (settle hidden kept fates))

section Overlooks

variable {α β : Type} {c : Collection} {kept : List Document}

/-- Reading overlooks hidden documents if its answer does. -/
theorem overlooks_of_reading {answer : Collection → α}
    (hsame : visible hidden kept = visible hidden c.documents)
    (hanswer : answer (c.holding kept) = answer c) :
    Overlooks hidden (fun c => (answer c, c)) c kept := by
  refine ⟨(visible hidden c.documents).map some, List.length_map _, (settle_stay _).symm, ?_⟩
  rw [← hsame, settle_stay]
  exact congrArg (fun a => (a, c.holding kept)) hanswer

theorem Overlooks.congr {operation other : Collection → α × Collection}
    (h : Overlooks hidden operation c kept) (hhere : other c = operation c)
    (hthere : other (c.holding kept) = operation (c.holding kept)) :
    Overlooks hidden other c kept := by
  unfold Overlooks
  rw [hhere, hthere]
  exact h

theorem Overlooks.map {operation : Collection → α × Collection}
    (h : Overlooks hidden operation c kept) (f : α → β) :
    Overlooks hidden (fun c => (f (operation c).1, (operation c).2)) c kept := by
  obtain ⟨fates, hlength, hdocuments, hkept⟩ := h
  exact ⟨fates, hlength, hdocuments, congrArg (fun out => (f out.1, out.2)) hkept⟩

theorem Collection.overlooks_update (hblind : BlindTo hidden filter)
    (hsame : visible hidden kept = visible hidden c.documents) (modification : Modification)
    (extent : Extent) : Overlooks hidden (Collection.update filter modification extent) c kept := by
  cases hstages : modification.toStages with
  | error e =>
    have hstay : Collection.update filter modification extent = fun c => (.error e, c) := by
      unfold Collection.update
      rw [hstages]
    rw [hstay]
    exact overlooks_of_reading hsame rfl
  | ok stages =>
    have hhere := updatePass_visible hblind c.name stages extent c.documents
    have hthere := updatePass_visible hblind c.name stages extent kept
    rw [hsame] at hthere
    let pass := updatePass c.name filter stages extent (visible hidden c.documents)
    refine ⟨pass.documents.map some, ?_, ?_, ?_⟩
    · exact (List.length_map _).trans (length_updatePass c.name filter stages extent _)
    · rw [hhere.2]
      unfold Collection.update
      rw [hstages]
      cases hresult : (updatePass c.name filter stages extent c.documents).result with
      | error e => simp only [hresult]
      | ok done => simp only [hresult, publish]
    · rw [hthere.2]
      unfold Collection.update
      simp only [hstages, holding, ← hthere.1, ← hhere.1]
      cases (updatePass c.name filter stages extent (visible hidden c.documents)).result <;> rfl

theorem Collection.overlooks_delete (hblind : BlindTo hidden filter)
    (hsame : visible hidden kept = visible hidden c.documents) {extent : Extent}
    (hdecided : ∀ d ∈ c.documents, ∃ here, matchesFilter d filter = .ok here) :
    Overlooks hidden (Collection.delete filter extent) c kept := by
  have hhere := deletePass_visible hblind extent c.documents
  have hthere := deletePass_visible hblind extent kept
  rw [hsame] at hthere
  -- after a fault nothing would be left in the store, hidden or not
  have hvisible : ∀ d ∈ visible hidden c.documents, ∃ here, matchesFilter d filter = .ok here :=
    fun d hd => hdecided d (List.mem_filter.mp hd).1
  obtain ⟨pass, hpass⟩ := exists_deletePass_eq_ok hvisible
  rw [hpass] at hhere hthere
  refine ⟨_, length_deleteFates filter extent _, ?_, ?_⟩
  · unfold Collection.delete
    rw [hhere]
    rfl
  · unfold Collection.delete
    simp only [hhere, holding, hthere]
    rfl

end Overlooks

end DocGuard
