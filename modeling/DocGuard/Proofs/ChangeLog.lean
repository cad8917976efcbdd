import DocGuard.Proofs.Collection
import DocGuard.Proofs.Equality
import DocGuard.Proofs.Insertion

/-!
# Published changes as a log

Each change names the document that it is about by its id and holds the document that came of it.
As long as the ids stay apart, going through the published changes one after another leads from the
documents of an earlier state to those of a later one, in their order.
-/

namespace DocGuard

/-! ## Going through changes -/

/-- Whether a document is the one with a key. -/
def Document.hasKey (d key : Document) : Bool :=
  d.idEntry.equal key

/-- The documents after a change: an inserted document stands at the end, an updated one in the
place of the document with its key, and a deleted one is gone. -/
def Change.apply (documents : List Document) (change : Change) : List Document :=
  match change.kind, change.full with
  | .insert, some full => documents ++ [full]
  | .update, some full => documents.map fun d => if d.hasKey change.key then full else d
  | .delete, _ => documents.filter fun d => !d.hasKey change.key
  | _, none => documents

def replay (documents : List Document) (changes : List Change) : List Document :=
  changes.foldl Change.apply documents

theorem replay_append (documents : List Document) (earlier later : List Change) :
    replay documents (earlier ++ later) = replay (replay documents earlier) later :=
  List.foldl_append

theorem replay_ofInsert (name : String) (documents stored : List Document) :
    replay documents (stored.map (Change.ofInsert name)) = documents ++ stored := by
  induction stored generalizing documents with
  | nil => exact (List.append_nil documents).symm
  | cons d rest ih => exact (ih (documents ++ [d])).trans (List.append_assoc documents [d] rest)

namespace Change

theorem apply_ofUpdate (name : String) (documents : List Document) (before after : Document) :
    apply documents (.ofUpdate name before after) =
      documents.map fun d => if d.hasKey after.idEntry then after else d := rfl

theorem apply_ofDelete (name : String) (documents : List Document) (d : Document) :
    apply documents (.ofDelete name d) = documents.filter fun b => !b.hasKey d.idEntry := rfl

variable {front back : List Document} {d : Document}

theorem apply_ofUpdate_middle (name : String) {after : Document}
    (hd : d.hasKey after.idEntry = true)
    (hothers : ∀ b ∈ front ++ back, b.hasKey after.idEntry = false) :
    apply (front ++ d :: back) (.ofUpdate name d after) = front ++ after :: back := by
  have hkept : ∀ others : List Document, others ⊆ front ++ back →
      (others.map fun b => if b.hasKey after.idEntry then after else b) = others := by
    intro others hsub
    refine (List.map_congr_left fun b hb => ?_).trans (List.map_id others)
    rw [hothers b (hsub hb)]
    rfl
  have hfront := hkept front (List.subset_append_left front back)
  have hback := hkept back (List.subset_append_right front back)
  rw [apply_ofUpdate, List.map_append, List.map_cons, hfront, hback, if_pos hd]

theorem apply_ofDelete_middle (name : String) (hd : d.hasKey d.idEntry = true)
    (hothers : ∀ b ∈ front ++ back, b.hasKey d.idEntry = false) :
    apply (front ++ d :: back) (.ofDelete name d) = front ++ back := by
  rw [apply_ofDelete, List.filter_append, List.filter_cons_of_neg (by rw [hd]; decide),
    ← List.filter_append]
  exact List.filter_eq_self.mpr fun b hb => by rw [hothers b hb]; rfl

end Change

/-! ## Documents with keys -/

/-- Whether a document has an id that can be a key. -/
structure Document.IsKeyed (d : Document) : Prop where
  found : d.get? "_id" = some d.id
  key : d.id.IsKey

/-- Whether the id of a document, if it has one, can be a key. -/
def Document.OffersKey (d : Document) : Prop :=
  ∀ id, d.get? "_id" = some id → id.IsKey

/-- Whether a document has the id of the one before it. -/
def Document.KeepsId (before after : Document) : Prop :=
  after.has "_id" = true ∧ Value.isJust (before.get? "_id") after.id = true

namespace Document

variable {d e : Document}

theorem get?_id_of_has (h : d.has "_id" = true) : d.get? "_id" = some d.id := by
  obtain ⟨id, hid⟩ := Option.isSome_iff_exists.mp h
  rw [Document.id, hid]
  rfl

theorem idEntry_of_found (h : d.get? "_id" = some d.id) : d.idEntry = [("_id", d.id)] := by
  unfold idEntry
  rw [h]

theorem IsKeyed.of_get? {id : Value} (h : d.get? "_id" = some id) (hkey : id.IsKey) :
    d.IsKeyed := by
  have hid : d.id = id := by rw [Document.id, h]; rfl
  exact ⟨by rw [h, hid], hid ▸ hkey⟩

theorem hasKey_idEntry (hd : d.IsKeyed) (he : e.IsKeyed) :
    d.hasKey e.idEntry = d.id.equal e.id := by
  unfold hasKey
  rw [idEntry_of_found hd.found, idEntry_of_found he.found]
  simp [equal, Value.entriesWithin, get?_cons]

theorem IsKeyed.isJust (h : d.IsKeyed) (id : Value) :
    Value.isJust (d.get? "_id") id = d.id.equal id := by
  rw [h.found]
  rfl

theorem IsKeyed.keepsId (h : d.IsKeyed) : d.KeepsId d :=
  ⟨Option.isSome_iff_exists.mpr ⟨d.id, h.found⟩, (h.isJust d.id).trans h.key.equal_self⟩

theorem KeepsId.equal (h : d.KeepsId e) (hd : d.IsKeyed) : d.id.equal e.id = true :=
  (hd.isJust e.id).symm.trans h.2

theorem KeepsId.isKeyed (h : d.KeepsId e) (hd : d.IsKeyed) : e.IsKeyed :=
  ⟨get?_id_of_has h.1, hd.key.of_equal (h.equal hd)⟩

end Document

namespace Collection

/-- Whether documents can be told apart by their ids: each has one that can be a key, and none
repeats. -/
structure Keyed (documents : List Document) : Prop where
  ids : ∀ d ∈ documents, d.IsKeyed
  distinct : DistinctIds documents

namespace Keyed

variable {documents documents' front back : List Document} {d d' : Document}

theorem perm (h : Keyed documents) (hperm : documents.Perm documents') : Keyed documents' where
  ids e he := h.ids e (hperm.mem_iff.mpr he)
  distinct := by
    -- among keyed documents to have different ids is symmetric
    have hapart : documents.Pairwise fun d e => d.IsKeyed ∧ e.IsKeyed ∧ d.id.equal e.id = false :=
      h.distinct.imp_of_mem fun hd he hne =>
        ⟨h.ids _ hd, h.ids _ he, ((h.ids _ hd).isJust _).symm.trans hne⟩
    have hsymm : ∀ {d e : Document}, d.IsKeyed ∧ e.IsKeyed ∧ d.id.equal e.id = false →
        e.IsKeyed ∧ d.IsKeyed ∧ e.id.equal d.id = false := by
      rintro d e ⟨hd, he, hne⟩
      exact ⟨he, hd, (he.key.equal_comm hd.key).trans hne⟩
    exact ((hperm.pairwise_iff hsymm).mp hapart).imp fun ⟨hd, _, hne⟩ => (hd.isJust _).trans hne

theorem cons_iff {rest : List Document} :
    Keyed (d :: rest) ↔ d.IsKeyed ∧ (∀ b ∈ rest, d.id.equal b.id = false) ∧ Keyed rest := by
  constructor
  · rintro ⟨hids, hdistinct⟩
    obtain ⟨hne, hrest⟩ := List.pairwise_cons.mp hdistinct
    have hd := hids d List.mem_cons_self
    exact ⟨hd, fun b hb => (hd.isJust b.id).symm.trans (hne b hb),
      fun e he => hids e (List.mem_cons_of_mem d he), hrest⟩
  · rintro ⟨hd, hne, hrest⟩
    exact ⟨List.forall_mem_cons.mpr ⟨hd, hrest.ids⟩,
      List.pairwise_cons.mpr ⟨fun b hb => (hd.isJust b.id).trans (hne b hb), hrest.distinct⟩⟩

theorem middle_iff : Keyed (front ++ d :: back) ↔
    d.IsKeyed ∧ (∀ b ∈ front ++ back, d.id.equal b.id = false) ∧ Keyed (front ++ back) := by
  rw [← cons_iff]
  exact ⟨fun h => h.perm List.perm_middle, fun h => h.perm List.perm_middle.symm⟩

theorem replace (h : Keyed (front ++ d :: back)) (hkeeps : d.KeepsId d') :
    Keyed (front ++ d' :: back) := by
  obtain ⟨hd, hne, hrest⟩ := middle_iff.mp h
  refine middle_iff.mpr ⟨hkeeps.isKeyed hd, fun b hb => ?_, hrest⟩
  rw [← hd.key.equal_congr (hkeeps.equal hd)]
  exact hne b hb

/-- The key of a document that keeps the id of another is the key of that one alone. -/
theorem hasKey_middle (h : Keyed (front ++ d :: back)) (hkeeps : d.KeepsId d') :
    d.hasKey d'.idEntry = true ∧ ∀ b ∈ front ++ back, b.hasKey d'.idEntry = false := by
  have hd := (middle_iff.mp h).1
  obtain ⟨hd', hne, hrest⟩ := middle_iff.mp (h.replace hkeeps)
  refine ⟨(Document.hasKey_idEntry hd hd').trans (hkeeps.equal hd), fun b hb => ?_⟩
  have hb' := hrest.ids b hb
  rw [Document.hasKey_idEntry hb' hd', hb'.key.equal_comm hd'.key]
  exact hne b hb

end Keyed

/-! ## Logs -/

/-- Whether the changes that were published from one state to the next tell how the documents
changed: there are only further ones, and they lead from the documents before to those after. -/
def Tells (c c' : Collection) : Prop :=
  ∃ changes, c'.history = c.history ++ changes ∧ replay c.documents changes = c'.documents

theorem Tells.refl (c : Collection) : Tells c c :=
  ⟨[], (List.append_nil c.history).symm, rfl⟩

theorem Tells.trans {c c' c'' : Collection} (h : Tells c c') (h' : Tells c' c'') : Tells c c'' := by
  obtain ⟨earlier, hhistory, hreplay⟩ := h
  obtain ⟨later, hhistory', hreplay'⟩ := h'
  refine ⟨earlier ++ later, ?_, ?_⟩
  · rw [hhistory', hhistory, List.append_assoc]
  · rw [replay_append, hreplay, hreplay']

/-! ## Insertions -/

theorem isKeyed_withId (serial : Nat) {d : Document} (h : d.OffersKey) :
    (withId serial d).IsKeyed := by
  unfold withId
  split
  · next hhas =>
    have hfound := Document.get?_id_of_has hhas
    exact .of_get? hfound (h _ hfound)
  · exact .of_get? (Document.get?_insert_self ..) (.of_parts_nil rfl rfl rfl)

variable {c : Collection}

theorem insertOne_tells (hkeyed : Keyed c.documents) {d : Document} {id : Value}
    (hd : d.OffersKey) (hok : (insertOne d c).1 = .ok id) :
    Keyed (insertOne d c).2.documents ∧ Tells c (insertOne d c).2 := by
  have hdistinct := distinctIds_insertOne hkeyed.distinct d
  unfold insertOne at hok hdistinct ⊢
  simp only at hok hdistinct ⊢
  split at hok
  · cases hok
  · next hnew =>
    rw [if_neg hnew] at hdistinct ⊢
    have hstored := List.forall_mem_singleton.mpr (isKeyed_withId (mintedAfter c.minted d) hd)
    have hids := List.forall_mem_append.mpr ⟨hkeyed.ids, hstored⟩
    exact ⟨⟨hids, hdistinct⟩, _, rfl, replay_ofInsert c.name _ [_]⟩

theorem insertMany_tells (hkeyed : Keyed c.documents) {batch : List Document} {ids : List Value}
    (hbatch : ∀ d ∈ batch, d.OffersKey) (hok : (insertMany batch c).1 = .ok ids) :
    Keyed (insertMany batch c).2.documents ∧ Tells c (insertMany batch c).2 := by
  have hdistinct := distinctIds_insertMany hkeyed.distinct batch
  unfold insertMany at hok hdistinct ⊢
  cases hprepare : c.prepareBatch [] c.minted batch with
  | error e => rw [hprepare] at hok; cases hok
  | ok prepared =>
    obtain ⟨stored, minted⟩ := prepared
    rw [hprepare] at hdistinct
    have hstored := forall_of_prepareBatch (List.forall_mem_nil _)
      (fun d hd serial => isKeyed_withId serial (hbatch d hd)) hprepare
    have hids := List.forall_mem_append.mpr ⟨hkeyed.ids, hstored⟩
    exact ⟨⟨hids, hdistinct⟩, _, rfl, replay_ofInsert c.name _ stored⟩

end Collection

/-! ## Updates -/

namespace Visit

theorem after_of_not_isChanged {v : Visit} (h : v.isChanged = false) : v.after = v.before := by
  obtain ⟨before, outcome⟩ := v
  cases outcome with
  | none => rfl
  | some d =>
    have hequal : (!d.equal before) = false := h
    exact if_pos (Bool.not_eq_eq_eq_not.mp hequal)

theorem changes_append (name : String) (visits visits' : List Visit) :
    changes name (visits ++ visits') = changes name visits ++ changes name visits' := by
  unfold changes
  rw [List.filter_append, List.map_append]

theorem changes_single_of_isChanged (name : String) {v : Visit} (h : v.isChanged = true) :
    changes name [v] = [.ofUpdate name v.before v.after] := by
  unfold changes
  rw [List.filter_cons_of_pos h]
  rfl

theorem changes_single_of_not_isChanged (name : String) {v : Visit} (h : v.isChanged = false) :
    changes name [v] = [] := by
  unfold changes
  rw [List.filter_cons_of_neg (by rw [h]; decide)]
  rfl

end Visit

namespace Collection

variable {c : Collection} {filter : Document} {extent : Extent}

theorem replay_visit (name : String) {front back : List Document} {v : Visit}
    (hkeyed : Keyed (front ++ v.before :: back)) (hkeeps : v.before.KeepsId v.after) :
    replay (front ++ v.before :: back) (Visit.changes name [v]) = front ++ v.after :: back := by
  cases hchanged : v.isChanged with
  | false =>
    rw [Visit.changes_single_of_not_isChanged name hchanged, v.after_of_not_isChanged hchanged]
    rfl
  | true =>
    obtain ⟨hself, hothers⟩ := hkeyed.hasKey_middle hkeeps
    rw [Visit.changes_single_of_isChanged name hchanged]
    exact Change.apply_ofUpdate_middle name hself hothers

theorem replay_changes (name : String) {front : List Document} {visits : List Visit}
    (hkeyed : Keyed (front ++ visits.map Visit.before))
    (hkeeps : ∀ v ∈ visits, v.before.KeepsId v.after) :
    Keyed (front ++ visits.map Visit.after) ∧
      replay (front ++ visits.map Visit.before) (Visit.changes name visits) =
        front ++ visits.map Visit.after := by
  -- `front` holds what the visits so far have left, so that all documents stand in one list
  induction visits generalizing front with
  | nil => exact ⟨hkeyed, rfl⟩
  | cons v rest ih =>
    obtain ⟨hv, hrest⟩ := List.forall_mem_cons.mp hkeeps
    have hdone : Keyed (front ++ v.after :: rest.map Visit.before) := hkeyed.replace hv
    have hhere := replay_visit name hkeyed hv
    have hsplit : Visit.changes name (v :: rest) =
        Visit.changes name [v] ++ Visit.changes name rest := Visit.changes_append name [v] rest
    rw [List.append_cons] at hdone
    obtain ⟨hkeyed', hreplay⟩ := ih hdone hrest
    rw [← List.append_cons front v.after (rest.map Visit.after)] at hkeyed' hreplay
    rw [← List.append_cons front v.after (rest.map Visit.before)] at hreplay
    refine ⟨hkeyed', ?_⟩
    rw [hsplit, replay_append]
    exact (congrArg (replay · (Visit.changes name rest)) hhere).trans hreplay

theorem update_tells (hkeyed : Keyed c.documents) {modification : Modification}
    {count : UpdateCount}
    (hids : List.Forall₂ Document.KeepsId c.documents
      (update filter modification extent c).2.documents)
    (hok : (update filter modification extent c).1 = .ok count) :
    Keyed (update filter modification extent c).2.documents ∧
      Tells c (update filter modification extent c).2 := by
  unfold update at hids hok ⊢
  cases hstages : modification.toStages with
  | error e => rw [hstages] at hok; cases hok
  | ok stages =>
    simp only [hstages] at hids hok ⊢
    cases hpass : (updatePass c.name filter stages extent c.documents).result with
    | error e => rw [hpass] at hok; cases hok
    | ok done =>
      obtain ⟨visits, hvisits, hrun⟩ := exists_visits_of_updatePass hpass
      rw [hrun] at hpass hids ⊢
      cases hpass
      have hkeeps : ∀ v ∈ visits, v.before.KeepsId v.after := by
        change List.Forall₂ Document.KeepsId c.documents (visits.map Visit.after) at hids
        rw [← hvisits.before, List.forall₂_map_left_iff, List.forall₂_map_right_iff] at hids
        exact List.forall₂_same.mp hids
      have hbefore : Keyed ([] ++ visits.map Visit.before) := hvisits.before.symm ▸ hkeyed
      obtain ⟨hkeyed', hreplay⟩ := replay_changes c.name hbefore hkeeps
      refine ⟨hkeyed', _, rfl, ?_⟩
      rw [← hvisits.before]
      exact hreplay

/-! ## Deletions -/

theorem replay_deletePass (name : String) {front documents others removed : List Document}
    (hkeyed : Keyed (front ++ documents))
    (hpass : deletePass filter extent documents = .ok (others, removed)) :
    Keyed (front ++ others) ∧
      replay (front ++ documents) (removed.map (Change.ofDelete name)) = front ++ others := by
  -- `front` holds what the deletion has kept so far
  induction documents generalizing front others removed with
  | nil =>
    cases hpass
    exact ⟨hkeyed, rfl⟩
  | cons d rest ih =>
    cases hhere : matchesFilter d filter with
    | error e => rw [deletePass_cons_error hhere] at hpass; cases hpass
    | ok here =>
      cases here with
      | false =>
        rw [deletePass_cons_false hhere] at hpass
        obtain ⟨pass, hrest, hkept⟩ := except_map_eq_ok.mp hpass
        cases hkept
        rw [List.append_cons] at hkeyed
        rw [List.append_cons front d rest, List.append_cons front d pass.1]
        exact ih hkeyed hrest
      | true =>
        obtain ⟨hd, -, hleft⟩ := Keyed.middle_iff.mp hkeyed
        obtain ⟨hself, hothers⟩ := hkeyed.hasKey_middle hd.keepsId
        have hgone := Change.apply_ofDelete_middle name hself hothers
        cases extent with
        | first =>
          rw [deletePass_first hhere] at hpass
          cases hpass
          exact ⟨hleft, hgone⟩
        | every =>
          rw [deletePass_every hhere] at hpass
          obtain ⟨pass, hrest, htaken⟩ := except_map_eq_ok.mp hpass
          cases htaken
          obtain ⟨hkeyed', hreplay⟩ := ih hleft hrest
          refine ⟨hkeyed', ?_⟩
          rw [← hreplay, ← hgone]
          rfl

theorem delete_tells (hkeyed : Keyed c.documents) {count : Nat}
    (hok : (delete filter extent c).1 = .ok count) :
    Keyed (delete filter extent c).2.documents ∧ Tells c (delete filter extent c).2 := by
  unfold delete at hok ⊢
  cases hpass : deletePass filter extent c.documents with
  | error e => rw [hpass] at hok; cases hok
  | ok pass =>
    obtain ⟨others, removed⟩ := pass
    have hkeyed' : Keyed ([] ++ c.documents) := hkeyed
    obtain ⟨hothers, hreplay⟩ := replay_deletePass c.name hkeyed' hpass
    exact ⟨hothers, _, rfl, hreplay⟩

end Collection

/-! ## Runs -/

inductive Edit where
  | insertOne (d : Document)
  | insertMany (batch : List Document)
  | update (filter : Document) (modification : Modification) (extent : Extent)
  | delete (filter : Document) (extent : Extent)

/-- A write whose result is only that it succeeds. -/
def Write.discard {α : Type} (write : Write α) : Write Unit := fun c =>
  ((write c).1.map fun _ => (), (write c).2)

theorem Write.discard_eq_ok {α : Type} {write : Write α} {c : Collection} :
    (write.discard c).1 = .ok () ↔ ∃ a, (write c).1 = .ok a := by
  refine except_map_eq_ok.trans (exists_congr fun a => ?_)
  exact and_iff_left rfl

namespace Edit

def run : Edit → Write Unit
  | .insertOne d => Write.discard (Collection.insertOne d)
  | .insertMany batch => Write.discard (Collection.insertMany batch)
  | .update filter modification extent =>
    Write.discard (Collection.update filter modification extent)
  | .delete filter extent => Write.discard (Collection.delete filter extent)

/-- Whether an edit leaves the ids fit to be keys: the ids that come in can be keys, and an update
changes none. -/
def RespectsIds (c : Collection) : Edit → Prop
  | .insertOne d => d.OffersKey
  | .insertMany batch => ∀ d ∈ batch, d.OffersKey
  | .update filter modification extent =>
    List.Forall₂ Document.KeepsId c.documents
      (Collection.update filter modification extent c).2.documents
  | .delete _ _ => True

end Edit

namespace Collection

/-- What edits that succeed and respect the ids lead to. -/
inductive Run : Collection → Collection → Prop
  | start (c : Collection) : Run c c
  | step {c c' : Collection} (h : Run c c') (edit : Edit) (hids : edit.RespectsIds c')
    (hok : (edit.run c').1 = .ok ()) : Run c (edit.run c').2

theorem edit_tells {c : Collection} (hkeyed : Keyed c.documents) {edit : Edit}
    (hids : edit.RespectsIds c) (hok : (edit.run c).1 = .ok ()) :
    Keyed (edit.run c).2.documents ∧ Tells c (edit.run c).2 := by
  cases edit with
  | insertOne d =>
    obtain ⟨id, hid⟩ := Write.discard_eq_ok.mp hok
    exact insertOne_tells hkeyed hids hid
  | insertMany batch =>
    obtain ⟨ids, hmany⟩ := Write.discard_eq_ok.mp hok
    exact insertMany_tells hkeyed hids hmany
  | update filter modification extent =>
    obtain ⟨count, hcount⟩ := Write.discard_eq_ok.mp hok
    exact update_tells hkeyed hids hcount
  | delete filter extent =>
    obtain ⟨count, hcount⟩ := Write.discard_eq_ok.mp hok
    exact delete_tells hkeyed hcount

/-- The changes that a run publishes are a complete log of it: they lead from the documents before
the run to those after it, in their order. The ids stay apart. -/
theorem history_is_log {c c' : Collection} (hkeyed : Keyed c.documents) (hrun : Run c c') :
    Keyed c'.documents ∧
      ∃ changes, c'.history = c.history ++ changes ∧
        replay c.documents changes = c'.documents := by
  induction hrun with
  | start => exact ⟨hkeyed, Tells.refl c⟩
  | step _ edit hids hok ih =>
    obtain ⟨hkeyed', htells⟩ := ih
    obtain ⟨hkeyed'', htells'⟩ := edit_tells hkeyed' hids hok
    exact ⟨hkeyed'', Tells.trans htells htells'⟩

/-- Todos of two users. -/
def annAndBob : Collection :=
  .ofDocuments "todos" [
    [("_id", .int32 1), ("owner", .str "ann")],
    [("_id", .int32 2), ("owner", .str "bob")]]

/-- A todo without an id comes in, all todos of one user are done, and one of the other goes. -/
def mixedEdits : List Edit := [
  .insertOne [("owner", .str "ann")],
  .update [("owner", .str "ann")] (.operators [("$set", .doc [("done", .bool true)])]) .every,
  .delete [("owner", .str "bob")] .first]

def afterEdits : Collection :=
  mixedEdits.foldl (fun c edit => (edit.run c).2) annAndBob

/-- Their four changes lead from the todos before to those after. -/
theorem mixedEdits_are_logged :
    Keyed annAndBob.documents ∧ Run annAndBob afterEdits ∧
      Keyed afterEdits.documents ∧
      ∃ changes, afterEdits.history = annAndBob.history ++ changes ∧
        replay annAndBob.documents changes = afterEdits.documents := by
  have hkey : ∀ n, (Value.int32 n).IsKey := fun n => .of_parts_nil rfl rfl rfl
  have hids : ∀ d ∈ annAndBob.documents, d.IsKeyed :=
    List.forall_mem_cons.mpr ⟨.of_get? rfl (hkey 1), List.forall_mem_cons.mpr
      ⟨.of_get? rfl (hkey 2), nofun⟩⟩
  have hdistinct : DistinctIds annAndBob.documents :=
    List.pairwise_cons.mpr ⟨List.forall_mem_cons.mpr ⟨rfl, nofun⟩, List.pairwise_singleton ..⟩
  have hinserted : Run annAndBob _ := .step (.start annAndBob) mixedEdits[0]
    (nofun : Document.OffersKey [("owner", .str "ann")]) rfl
  have hupdated : Run annAndBob _ := .step hinserted mixedEdits[1]
    (.cons ⟨rfl, rfl⟩ (.cons ⟨rfl, rfl⟩ (.cons ⟨rfl, rfl⟩ .nil))) rfl
  have hdeleted : Run annAndBob afterEdits := .step hupdated mixedEdits[2] trivial rfl
  exact ⟨⟨hids, hdistinct⟩, hdeleted, history_is_log ⟨hids, hdistinct⟩ hdeleted⟩

example : afterEdits.history.map (fun change => change.kind) =
    [.insert, .update, .update, .delete] := rfl

end Collection
end DocGuard
