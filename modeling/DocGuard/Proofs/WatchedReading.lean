import DocGuard.Guard.Reading
import DocGuard.Proofs.FilterReading
import DocGuard.Proofs.Path
import DocGuard.Proofs.RowFilter

/-!
# Watching and reading

A watcher is told of an inserted document what a search for everything would answer if the document
were the only one: the row filter decides in both cases, once on the document and once, with its
paths under a name, on the change. The two decisions agree where each path of the filter is read in
the document by walking along it. They need not agree where a name of the document holds a point or
begins with a dollar.
-/

namespace DocGuard

open DocGuard.Text

/-! ## Reading streams -/

namespace ChangeStream

/-- What a reader is given for a change: the change, a fault, or nothing. -/
def itemOf : Except Fault (Option Change) → Option (Except Fault Change)
  | .ok none => none
  | .ok (some seen) => some (.ok seen)
  | .error e => some (.error e)

variable {filters : List Document} {review : Change → Traced (Option Change)}

theorem items_readFrom (changes : List Change) :
    (readFrom filters review none changes).items =
      changes.filterMap fun change => itemOf (deliver filters review change).result := by
  induction changes with
  | nil => rfl
  | cons change rest ih =>
    rw [readFrom, if_pos (by rfl), List.filterMap_cons, ← ih]
    cases hfound : (deliver filters review change).result with
    | error e => simp only [hfound]; rfl
    | ok seen =>
      cases seen with
      | none => simp only [hfound]; rfl
      | some seen => simp only [hfound]; rfl

/-- A stream that is read before too many changes are published misses none of them. -/
theorem items_drain {before after : Collection} {changes : List Change}
    (hhistory : after.history = before.history ++ changes) (hheld : changes.length ≤ heldChanges) :
    ((⟨filters, before.history.length⟩ : ChangeStream).drain after review none).1.items =
      changes.filterMap fun change => itemOf (deliver filters review change).result := by
  have hmissed : (⟨filters, before.history.length⟩ : ChangeStream).missed after = 0 := by
    unfold missed
    rw [hhistory, List.length_append]
    dsimp only
    omega
  unfold drain
  rw [if_pos hmissed, hhistory, List.drop_left, items_readFrom]

end ChangeStream

theorem Collection.history_insertOne {c : Collection} {d : Document} {id : Value}
    (hid : d.has "_id" = true) (h : (insertOne d c).1 = .ok id) :
    (insertOne d c).2.history = c.history ++ [.ofInsert c.name d] := by
  have hstored : withId (mintedAfter c.minted d) d = d := if_pos hid
  unfold insertOne at h ⊢
  simp only [hstored] at h ⊢
  split at h
  · cases h
  · next hnew => rw [if_neg hnew]; rfl

/-! ## Paths into changes -/

namespace Document

/-- Whether a path is read in a document by walking along it, and not at all if it begins with a
dollar. -/
def ReadsByWalking (d : Document) (path : String) : Prop :=
  d.getPath path = if beginsWith path "$" then none else d.walk (segments path)

/-- Whether no name of a document holds a point or begins with a dollar. -/
def HasPlainNames (d : Document) : Prop :=
  ∀ key ∈ d.keys, '.' ∉ key.toList ∧ beginsWith key "$" = false

variable {d : Document}

theorem HasPlainNames.get?_dollar (h : d.HasPlainNames) {key : String}
    (hkey : beginsWith key "$" = true) : d.get? key = none := by
  refine get?_eq_none_iff.mpr fun hmem => ?_
  rw [(h key hmem).2] at hkey
  cases hkey

theorem HasPlainNames.readsByWalking (h : d.HasPlainNames) (path : String) :
    d.ReadsByWalking path := by
  unfold ReadsByWalking
  by_cases hdollar : beginsWith path "$" = true
  · obtain ⟨s, rest, hsegments, hs⟩ := exists_segment_dollar hdollar
    rw [if_pos hdollar, getPath_of_get?_eq_none (h.get?_dollar hdollar), hsegments, walk,
      h.get?_dollar hs]
    rfl
  · rw [if_neg hdollar]
    cases hhere : d.get? path with
    | none => exact getPath_of_get?_eq_none hhere
    | some v =>
      have hmem : path ∈ d.keys := by
        by_contra hmem
        rw [get?_eq_none_iff.mpr hmem] at hhere
        cases hhere
      rw [getPath_of_get? hhere, segments_of_not_mem (h path hmem).1, walk, hhere]
      rfl

end Document

namespace Change

theorem keys_toDocument (change : Change) :
    change.toDocument.keys = ["operationType", "ns", "documentKey"] ++
      (change.full.toList.map fun _ => "fullDocument") ++
      (change.difference.toList.map fun _ => "updateDescription") := by
  obtain ⟨kind, collection, key, full, difference⟩ := change
  cases full <;> cases difference <;> rfl

theorem toDocument_hasPlainNames (change : Change) : change.toDocument.HasPlainNames := by
  have hplain : ∀ key ∈
      ["operationType", "ns", "documentKey", "fullDocument", "updateDescription"],
      '.' ∉ key.toList ∧ beginsWith key "$" = false := by decide
  intro key hkey
  refine hplain key ?_
  rw [keys_toDocument] at hkey
  simp only [List.mem_append, List.mem_cons, List.not_mem_nil, List.mem_map, or_false] at hkey ⊢
  rcases hkey with ((h | h | h) | ⟨_, _, h⟩) | ⟨_, _, h⟩ <;> simp only [h, true_or, or_true]

/-- A change answers at paths under the name of its full document as that document does, if the
document is read there by walking. -/
theorem answersUnder_toDocument {change : Change} {d : Document} {paths : List String}
    (hfull : change.full = some d) (hpaths : ∀ path ∈ paths, d.ReadsByWalking path) :
    AnswersUnder "fullDocument" change.toDocument d paths := by
  have hplain := change.toDocument_hasPlainNames
  have hdoc : change.toDocument.get? "fullDocument" = some (.doc d) := by
    obtain ⟨kind, collection, key, full, difference⟩ := change
    cases hfull
    rfl
  intro path hpath
  rw [hpaths path hpath, hplain.readsByWalking]
  unfold prefixPath
  by_cases hdollar : beginsWith path "$" = true
  · rw [if_pos hdollar, if_pos hdollar, if_pos hdollar]
  · have hname : beginsWith ("fullDocument" ++ "." ++ path) "$" = false := by
      unfold beginsWith
      rw [String.toList_append, String.toList_append]
      rfl
    rw [if_neg hdollar, if_neg hdollar, if_neg (by rw [hname]; decide),
      segments_append_point (by decide)]
    -- from the full document on the walk is the same
    obtain ⟨s, rest, hsegments⟩ := List.exists_cons_of_ne_nil (segments_ne_nil path)
    rw [hsegments, Document.walk, hdoc]
    rfl

end Change

/-! ## What is shown of a document -/

namespace Guard

variable {g : Guard} {c : Collection} {d : Document}

/-- What a user who asks for everything is shown of a document: nothing, where the row filter hides
it or reading it is refused. -/
def glance (g : Guard) (d : Document) : Except Fault (Option Document) := do
  if ← matchesFilter d (← g.narrow []) then (g.validate d .read).result else return none

/-- A search for everything in a collection of one document answers with what is shown of it. -/
theorem find_single (hsystem : g.asSystem = false) (name : String) (d : Document) :
    (g.find (.ofDocuments name [d]) [] .all).result = Option.toList <$> g.glance d := by
  unfold find glance Collection.find Collection.ofDocuments
  rw [hsystem, if_neg (by decide)]
  simp only [Traced.result_bind]
  cases g.narrow [] with
  | error e => rfl
  | ok query =>
    change (do
      let found ← (do return Window.all.cut (← select query [d]))
      let seen ← (Traced.gather (found.map fun d => g.validate d .read)).result
      return seen.filterMap id) = Option.toList <$> (do
        if ← matchesFilter d query then (g.validate d .read).result else return none)
    rw [select]
    cases hmatch : matchesFilter d query with
    | error e => rfl
    | ok here =>
      cases here with
      | false => rfl
      | true =>
        change (do
          let seen ← (do return (← (g.validate d .read).result) :: [])
          return seen.filterMap id) = Option.toList <$> (g.validate d .read).result
        cases hseen : (g.validate d .read).result with
        | error e => rfl
        | ok seen => cases seen <;> rfl

/-- Where it can be decided which row filter applies, a watcher who asks for everything reads
changes through a filter that decides for a change what the narrowed query decides for its full
document. -/
theorem exists_watch {query : Document} (hsystem : g.asSystem = false)
    (hnarrow : g.narrow [] = .ok query) :
    ∃ filters, g.watch c [] = .ok ⟨filters, c.history.length⟩ ∧
      ∀ change : Change, change.full = some d →
        (∀ rows, g.rowQuery? = some rows → ∀ path ∈ filterPaths rows, d.ReadsByWalking path) →
        ChangeStream.passes change.toDocument filters = matchesFilter d query := by
  have hquery := narrow_eq_ok hnarrow
  unfold watch watchStages
  rw [hsystem, if_neg (by decide)]
  rcases g.queryParts_eq_or with ⟨e, hparts⟩ | hparts
  · unfold narrow at hnarrow
    rw [hparts] at hnarrow
    cases hnarrow
  · rw [hparts]
    cases hrows : g.rowQuery? with
    | none =>
      rw [hrows] at hquery
      subst hquery
      exact ⟨[], rfl, fun _ _ _ => rfl⟩
    | some rows =>
      rw [hrows] at hquery
      subst hquery
      cases rows with
      | nil =>
        exact ⟨[], rfl, fun _ _ _ => (matchesFilter_conjoin d [] []).symm⟩
      | cons entry rest =>
        refine ⟨[prefixFields "fullDocument" (entry :: rest)], rfl, fun change hfull hpaths => ?_⟩
        have hreach := matchesFilter_prefixFields (entry :: rest)
          (Change.answersUnder_toDocument hfull (hpaths _ rfl))
        change (do if ← matchesFilter _ _ then Except.ok true else return false) =
          matchesFilter d (conjoin [entry :: rest, []])
        rw [hreach, matchesFilter_conjoin]
        rfl

/-- What a watcher without stages of their own is told of a document that is inserted next. -/
def watchInsertion (g : Guard) (c : Collection) (d : Document) :
    Except Fault (List (Except Fault Change)) := do
  let stream ← g.watch c []
  return (stream.drain (Collection.insertOne d c).2 g.review none).1.items

/-- An insertion is shown with what is to be seen of the document. -/
def shownInsertion (c : Collection) (d seen : Document) : Change :=
  { Change.ofInsert c.name d with full := some seen }

theorem review_ofInsert (hsystem : g.asSystem = false) (c : Collection) (d : Document) :
    (g.review (.ofInsert c.name d)).result =
      Option.map (shownInsertion c d) <$> (g.validate d .read).result := by
  unfold review
  rw [hsystem, if_neg (by decide)]
  change (g.validate d .read >>= _ : Traced (Option Change)).result = _
  rw [Traced.result_bind]
  cases (g.validate d .read).result with
  | error e => rfl
  | ok seen => cases seen <;> rfl

theorem watch_eq_error {e : Fault} (hsystem : g.asSystem = false)
    (hnarrow : g.narrow [] = .error e) : g.watch c [] = .error e := by
  unfold narrow at hnarrow
  unfold watch watchStages
  rw [hsystem, if_neg (by decide)]
  rcases g.queryParts_eq_or with ⟨e', hparts⟩ | hparts
  · rw [hparts] at hnarrow ⊢
    exact congrArg _ (Except.error.inj hnarrow)
  · rw [hparts] at hnarrow
    cases hnarrow

/-- A watcher is told what is to be seen of the document, if each path of the row filter is read in
it by walking. Only where it cannot be decided which row filters apply there is no watcher. -/
theorem watchInsertion_eq {id : Value} (hsystem : g.asSystem = false)
    (hid : d.has "_id" = true) (hinsert : (Collection.insertOne d c).1 = .ok id)
    (hpaths : ∀ rows, g.rowQuery? = some rows → ∀ path ∈ filterPaths rows, d.ReadsByWalking path) :
    g.watchInsertion c d = (do
      let _ ← g.narrow []
      return (ChangeStream.itemOf (Option.map (shownInsertion c d) <$> g.glance d)).toList) := by
  unfold watchInsertion glance
  cases hnarrow : g.narrow [] with
  | error e => rw [watch_eq_error hsystem hnarrow]; rfl
  | ok query =>
    obtain ⟨filters, hwatch, hpasses⟩ := exists_watch (c := c) (d := d) hsystem hnarrow
    have hhistory := Collection.history_insertOne hid hinsert
    have hheld : [Change.ofInsert c.name d].length ≤ heldChanges := by unfold heldChanges; simp
    have hdelivered : (ChangeStream.deliver filters g.review (.ofInsert c.name d)).result =
        Option.map (shownInsertion c d) <$> (do
          if ← matchesFilter d query then (g.validate d .read).result else return none) := by
      change (Traced.lift (ChangeStream.passes _ filters) >>= _ :
        Traced (Option Change)).result = _
      rw [Traced.result_bind, Traced.result_lift, hpasses _ rfl hpaths]
      cases matchesFilter d query with
      | error e => rfl
      | ok here =>
        cases here with
        | false => rfl
        | true => exact review_ofInsert hsystem c d
    rw [hwatch]
    change Except.ok (ChangeStream.drain _ _ g.review none).1.items = _
    rw [ChangeStream.items_drain hhistory hheld, List.filterMap_cons, List.filterMap_nil,
      hdelivered]
    change Except.ok _ = Except.ok (ChangeStream.itemOf (Option.map (shownInsertion c d) <$> (do
      if ← matchesFilter d query then (g.validate d .read).result else return none))).toList
    generalize ChangeStream.itemOf _ = item
    cases item <;> rfl

/-- Watching and reading agree on a document with an id that is inserted, if each path of the row
filter is read in it by walking. A watcher without stages of their own is told of an insertion with
just that part of the document with which a search for everything answers if there is no other
document, and is told nothing, not even of a fault, just where the search finds nothing. -/
theorem watch_tells_what_find_answers {id : Value} (hsystem : g.asSystem = false)
    (hid : d.has "_id" = true) (hinsert : (Collection.insertOne d c).1 = .ok id)
    (hpaths : ∀ rows, g.rowQuery? = some rows → ∀ path ∈ filterPaths rows, d.ReadsByWalking path) :
    (∀ r, (∃ change, g.watchInsertion c d = .ok [.ok change] ∧
        change.kind = .insert ∧ change.full = some r) ↔
      (g.find (.ofDocuments c.name [d]) [] .all).result = .ok [r]) ∧
    (g.watchInsertion c d = .ok [] ↔
      (g.find (.ofDocuments c.name [d]) [] .all).result = .ok []) := by
  rw [watchInsertion_eq hsystem hid hinsert hpaths, find_single hsystem]
  cases hnarrow : g.narrow [] with
  | error e =>
    have hglance : g.glance d = .error e := by unfold glance; rw [hnarrow]; rfl
    rw [hglance]
    refine ⟨fun r => ⟨?_, (nomatch ·)⟩, (nomatch ·), (nomatch ·)⟩
    rintro ⟨change, h, -⟩
    cases h
  | ok query =>
    cases g.glance d with
    | error e =>
      refine ⟨fun r => ⟨?_, (nomatch ·)⟩, (nomatch ·), (nomatch ·)⟩
      rintro ⟨change, h, -⟩
      cases h
    | ok seen =>
      cases seen with
      | none =>
        refine ⟨fun r => ⟨?_, (nomatch ·)⟩, fun _ => rfl, fun _ => rfl⟩
        rintro ⟨change, h, -⟩
        cases h
      | some seen =>
        refine ⟨fun r => ⟨?_, fun h => ?_⟩, (nomatch ·), (nomatch ·)⟩
        · rintro ⟨change, h, -, hfull⟩
          cases h
          cases hfull
          rfl
        · cases h
          exact ⟨shownInsertion c d seen, rfl, rfl, rfl⟩

def ofRows (rows : Document) : Guard where
  rules := [("todos", ⟨[], [⟨"rows", [], some rows⟩]⟩)]
  collection := "todos"
  user := [("id", .str "ann")]
  asSystem := false
  caller := fun name _ _ => .error (.functionNotFound name)

/-- A filter for what is not secret, with the path at which the level of a document stands. -/
def notSecret (path : String) : Document :=
  [(path, .doc [("$ne", .str "secret")])]

/-- A document with marks, its level among them. -/
def marked (level : String) : Document :=
  [("_id", .int32 1), ("marks", .doc [("level", .str level)])]

theorem marked_hasPlainNames (level : String) : (marked level).HasPlainNames := by
  change ∀ key ∈ ["_id", "marks"], '.' ∉ key.toList ∧ beginsWith key "$" = false
  decide

/-- A watcher is told of an open document, and of a secret one nothing. -/
theorem watch_tells_open :
    let g := ofRows (notSecret "marks.level")
    let todos := Collection.ofDocuments "todos" []
    (∃ change, g.watchInsertion todos (marked "open") = .ok [.ok change] ∧
        change.kind = .insert ∧ change.full = some (marked "open")) ∧
      g.watchInsertion todos (marked "secret") = .ok [] := by
  intro g todos
  have hopen : (g.find (.ofDocuments "todos" [marked "open"]) [] .all).result =
      .ok [marked "open"] := rfl
  have hsecret : (g.find (.ofDocuments "todos" [marked "secret"]) [] .all).result = .ok [] := rfl
  have htold := watch_tells_what_find_answers (g := g) (c := todos) (d := marked "open") rfl rfl rfl
    fun _ _ path _ => (marked_hasPlainNames "open").readsByWalking path
  have hnone := watch_tells_what_find_answers (g := g) (c := todos) (d := marked "secret") rfl rfl
    rfl fun _ _ path _ => (marked_hasPlainNames "secret").readsByWalking path
  exact ⟨(htold.1 (marked "open")).mpr hopen, hnone.2.mpr hsecret⟩

/-- A document whose level stands under a name that is the whole path. -/
def labelled (path : String) : Document :=
  [("_id", .int32 1), (path, .str "secret")]

/-- Names with points or with a dollar in front are read differently in a change. A watcher is told
of documents that the row filter hides from every search. -/
theorem watch_reveals_secret :
    (((ofRows (notSecret "marks.level")).find
          (.ofDocuments "todos" [labelled "marks.level"]) [] .all).result = .ok [] ∧
      (ofRows (notSecret "marks.level")).watchInsertion (.ofDocuments "todos" [])
          (labelled "marks.level") =
        .ok [.ok (.ofInsert "todos" (labelled "marks.level"))]) ∧
    ((ofRows (notSecret "$level")).find
          (.ofDocuments "todos" [labelled "$level"]) [] .all).result = .ok [] ∧
      (ofRows (notSecret "$level")).watchInsertion (.ofDocuments "todos" []) (labelled "$level") =
        .ok [.ok (.ofInsert "todos" (labelled "$level"))] :=
  ⟨⟨rfl, rfl⟩, rfl, rfl⟩

end Guard

end DocGuard
