import DocGuard.Proofs.WatchedReading

/-!
# Streams that a watcher narrows

Stages that a watcher adds stand behind the row filter, so they only take away from what the watcher
is told without them. A reader that keeps up is given at most one item for each change, in the order
of the changes, however often it reads and however much it takes at a time: what is given for a
change depends on the change and the filters alone.
-/

namespace DocGuard
namespace ChangeStream

variable {filters : List Document} {review : Change → Traced (Option Change)}

/-! ## Reading a part of the changes -/

/-- What a reader is given for one change. -/
def tell (filters : List Document) (review : Change → Traced (Option Change)) (change : Change) :
    Option (Except Fault Change) :=
  itemOf (deliver filters review change).result

variable (filters review) in
/-- A reading with room for an item uses up the first change, and goes on with the others. -/
theorem exists_readFrom_cons {room : Option Nat} (h : hasRoom room = true) (change : Change)
    (rest : List Change) :
    ∃ left, (room = none → left = none) ∧
      (readFrom filters review room (change :: rest)).items =
        (tell filters review change).toList ++ (readFrom filters review left rest).items ∧
      (readFrom filters review room (change :: rest)).used =
        (readFrom filters review left rest).used + 1 := by
  rw [readFrom, if_pos h]
  unfold tell
  have hless : room = none → lessRoom room = none := fun hroom => by rw [hroom]; rfl
  cases hfound : (deliver filters review change).result with
  | error e => exact ⟨lessRoom room, hless, by simp only [hfound]; exact ⟨rfl, rfl⟩⟩
  | ok seen =>
    cases seen with
    | none => exact ⟨room, id, by simp only [hfound]; exact ⟨rfl, rfl⟩⟩
    | some shown => exact ⟨lessRoom room, hless, by simp only [hfound]; exact ⟨rfl, rfl⟩⟩

variable (filters review) in
/-- A reading gives the items for the changes that it uses up, which are all of them if there is
room without limit. -/
theorem items_readFrom_used (room : Option Nat) (changes : List Change) :
    let reading := readFrom filters review room changes
    reading.items = (changes.take reading.used).filterMap (tell filters review) ∧
      reading.used ≤ changes.length ∧ (room = none → reading.used = changes.length) := by
  dsimp only
  induction changes generalizing room with
  | nil => exact ⟨rfl, Nat.le_refl 0, fun _ => rfl⟩
  | cons change rest ih =>
    by_cases hroom : hasRoom room = true
    · obtain ⟨left, hleft, hitems, hused⟩ :=
        exists_readFrom_cons filters review hroom change rest
      obtain ⟨ihitems, ihused, ihall⟩ := ih left
      rw [hitems, hused, ihitems, List.take_succ_cons, List.length_cons]
      refine ⟨?_, Nat.succ_le_succ ihused, fun h => congrArg _ (ihall (hleft h))⟩
      rw [List.filterMap_cons]
      cases tell filters review change <;> rfl
    · rw [readFrom, if_neg hroom]
      refine ⟨rfl, Nat.zero_le _, ?_⟩
      rintro rfl
      exact absurd rfl hroom

/-- A reader that has missed nothing is given the items for the changes next to its position, and
moves on behind these. -/
theorem drain_of_keeping_up {s : ChangeStream} {c : Collection}
    (h : c.history.length ≤ s.position + heldChanges) (room : Option Nat) :
    let reading := readFrom s.filters review room (c.history.drop s.position)
    s.drain c review room = (reading, { s with position := s.position + reading.used }) := by
  have hmissed : s.missed c = 0 := by
    unfold missed
    omega
  unfold drain
  rw [if_pos hmissed]

/-! ## Reading again and again -/

def published (rounds : List (List Change × Option Nat)) : List Change :=
  rounds.flatMap Prod.fst

/-- What a reader is given in all: in each round some changes are published and as much is read as
there is room for, and at the end everything that is ready. -/
def readAll (review : Change → Traced (Option Change)) :
    ChangeStream → Collection → List (List Change × Option Nat) → List (Except Fault Change)
  | s, c, [] => (s.drain c review none).1.items
  | s, c, (changes, room) :: rest =>
    let (reading, next) := s.drain (c.publish changes) review room
    reading.items ++ readAll review next (c.publish changes) rest

/-- However it reads, a reader that misses nothing is given at most one item for each change, in
their order. -/
theorem readAll_eq {s : ChangeStream} {c : Collection} {rounds : List (List Change × Option Nat)}
    (hposition : s.position ≤ c.history.length)
    (hheld : c.history.length + (published rounds).length ≤ s.position + heldChanges) :
    s.readAll review c rounds =
      (c.history.drop s.position ++ published rounds).filterMap (tell s.filters review) := by
  -- the invariant is that what was read and what is left give the items of all changes
  induction rounds generalizing s c with
  | nil =>
    obtain ⟨hitems, -, hall⟩ := items_readFrom_used s.filters review none
      (c.history.drop s.position)
    rw [readAll, drain_of_keeping_up (by simpa [published] using hheld)]
    dsimp only
    rw [hitems, hall rfl, List.take_length, published, List.flatMap_nil, List.append_nil]
  | cons round rest ih =>
    obtain ⟨changes, room⟩ := round
    have hhistory : (c.publish changes).history = c.history ++ changes := rfl
    have hcount : (published ((changes, room) :: rest)).length =
        changes.length + (published rest).length := by
      rw [published, List.flatMap_cons, List.length_append]
      rfl
    have hlength : (c.publish changes).history.length = c.history.length + changes.length := by
      rw [hhistory, List.length_append]
    have hkeeps : (c.publish changes).history.length ≤ s.position + heldChanges := by omega
    obtain ⟨hitems, hused, -⟩ := items_readFrom_used s.filters review room
      ((c.publish changes).history.drop s.position)
    rw [List.length_drop] at hused
    rw [readAll, drain_of_keeping_up hkeeps]
    dsimp only
    rw [ih (by dsimp only; omega) (by dsimp only; omega), hitems, ← List.filterMap_append]
    dsimp only
    rw [← List.drop_drop, ← List.append_assoc, List.take_append_drop, hhistory,
      List.drop_append_of_le_length hposition, List.append_assoc]
    rfl

/-- Whether a stream gives its readers for each change what a function says, in the order of the
changes, as long as no more of them are published than are held. -/
def Tells (s : ChangeStream) (review : Change → Traced (Option Change)) (c : Collection)
    (told : Change → Option (Except Fault Change)) : Prop :=
  ∀ rounds, (published rounds).length ≤ heldChanges →
    s.readAll review c rounds = (published rounds).filterMap told

theorem tells_tell (filters : List Document) (review : Change → Traced (Option Change))
    (c : Collection) :
    (⟨filters, c.history.length⟩ : ChangeStream).Tells review c (tell filters review) := by
  intro rounds hheld
  rw [readAll_eq (Nat.le_refl _) (Nat.add_le_add_left hheld _), List.drop_length, List.nil_append]

/-! ## More filters -/

theorem readFilters_append {stages more : List Document} {filters : List Document}
    (h : readFilters stages = .ok filters) :
    readFilters (stages ++ more) = (filters ++ ·) <$> readFilters more := by
  induction stages generalizing filters with
  | nil =>
    cases h
    exact (id_map _).symm
  | cons stage rest ih =>
    unfold readFilters at h
    split at h
    · next hnil => cases hnil
    · next filter _ hstages =>
      cases hstages
      obtain ⟨others, hothers, hfilters⟩ := bind_eq_ok.mp h
      cases hfilters
      rw [List.cons_append, readFilters, ih hothers]
      cases readFilters more <;> rfl
    · cases h

theorem passes_append (d : Document) (filters more : List Document) :
    passes d (filters ++ more) = do if ← passes d filters then passes d more else return false := by
  induction filters with
  | nil => rfl
  | cons filter rest ih =>
    rw [List.cons_append, passes, passes, ih]
    cases matchesFilter d filter with
    | error e => rfl
    | ok here => cases here <;> rfl

/-- A change that the first filters hold back is told to nobody, whatever the others are. -/
theorem tell_append_of_false {change : Change} (more : List Document)
    (h : passes change.toDocument filters = .ok false) :
    tell (filters ++ more) review change = none := by
  have hpasses : passes change.toDocument (filters ++ more) = .ok false := by
    rw [passes_append, h]
    rfl
  unfold tell deliver
  rw [hpasses]
  rfl

/-- What is told of a change in spite of more filters is told without them. -/
theorem tell_of_append {change shown : Change} {more : List Document}
    (h : tell (filters ++ more) review change = some (.ok shown)) :
    tell filters review change = some (.ok shown) := by
  have hpasses := passes_append change.toDocument filters more
  unfold tell deliver at h ⊢
  cases hfirst : passes change.toDocument filters with
  | error e =>
    rw [hpasses, hfirst] at h
    cases h
  | ok here =>
    rw [hpasses, hfirst] at h
    cases here with
    | false => cases h
    | true =>
      change itemOf (Traced.lift (passes change.toDocument more) >>= _ :
        Traced (Option Change)).result = _ at h
      cases hmore : passes change.toDocument more with
      | error e =>
        rw [hmore] at h
        cases h
      | ok there =>
        rw [hmore] at h
        cases there with
        | false => cases h
        | true => exact h

end ChangeStream

namespace Guard

variable {g : Guard} {c : Collection}

/-! ## Guarded streams -/

/-- The filter that stands in front of the stages of a watcher: the row filter, with its paths read
in the changed document. -/
def watchFilters (g : Guard) : List Document :=
  (g.rowQuery?.toList.filter fun rows => !rows.isEmpty).map (prefixFields "fullDocument")

/-- A guarded stream reads through the row filter and then through the filters of the watcher. -/
theorem watch_eq_ok {pipeline : List Document} {stream : ChangeStream}
    (hsystem : g.asSystem = false) (h : g.watch c pipeline = .ok stream) :
    g.watch c [] = .ok ⟨g.watchFilters, c.history.length⟩ ∧
      ∃ own, stream = ⟨g.watchFilters ++ own, c.history.length⟩ := by
  unfold watch at h ⊢
  rw [hsystem, if_neg (by decide)] at h ⊢
  obtain ⟨stages, hstages, h⟩ := bind_eq_ok.mp h
  have hfilters : ChangeStream.readFilters stages = .ok g.watchFilters := by
    unfold watchStages at hstages
    unfold watchFilters
    rcases g.queryParts_eq_or with ⟨e, hparts⟩ | hparts
    · rw [hparts] at hstages
      cases hstages
    · rw [hparts] at hstages
      cases hrows : g.rowQuery? with
      | none =>
        rw [hrows] at hstages
        cases hstages
        rfl
      | some rows =>
        rw [hrows] at hstages
        cases rows <;> cases hstages <;> rfl
  obtain ⟨filters, hread, h⟩ := bind_eq_ok.mp h
  cases h
  rw [ChangeStream.readFilters_append hfilters] at hread
  constructor
  · rw [hstages]
    change ChangeStream.subscribe c (stages ++ []) = _
    rw [List.append_nil, ChangeStream.subscribe, hfilters]
    rfl
  · cases hown : ChangeStream.readFilters pipeline with
    | error e =>
      rw [hown] at hread
      cases hread
    | ok own =>
      rw [hown] at hread
      cases hread
      exact ⟨own, rfl⟩

/-- The row filter holds a change back if it decides that the change does not match. -/
theorem passes_watchFilters_of_false {change : Change} {rows : Document}
    (hrows : g.rowQuery? = some rows)
    (h : matchesFilter change.toDocument (prefixFields "fullDocument" rows) = .ok false) :
    ChangeStream.passes change.toDocument g.watchFilters = .ok false := by
  unfold watchFilters
  rw [hrows]
  cases rows with
  | nil => cases h
  | cons entry rest =>
    change (do
      if ← matchesFilter change.toDocument (prefixFields "fullDocument" (entry :: rest))
        then ChangeStream.passes _ [] else return false) = _
    rw [h]
    rfl

/-- A watcher's stages only narrow what the watcher is told. Whoever is let watch with stages of
their own is let watch without them. Both streams give for each change at most one item, in the
order in which the changes were published: nothing for a change of which the row filter decides that
it does not match, whatever the stages are, and a changed document through the stages only if it is
given just so without them. -/
theorem watch_narrowed_by_stages {pipeline : List Document} {stream : ChangeStream}
    (hsystem : g.asSystem = false) (hwatch : g.watch c pipeline = .ok stream) :
    ∃ plain told plainTold, g.watch c [] = .ok plain ∧
      stream.Tells g.review c told ∧ plain.Tells g.review c plainTold ∧
      (∀ change rows, g.rowQuery? = some rows →
        matchesFilter change.toDocument (prefixFields "fullDocument" rows) = .ok false →
        told change = none) ∧
      ∀ change shown, told change = some (.ok shown) → plainTold change = some (.ok shown) := by
  obtain ⟨hplain, own, rfl⟩ := watch_eq_ok hsystem hwatch
  refine ⟨_, _, _, hplain, ChangeStream.tells_tell _ g.review c,
    ChangeStream.tells_tell _ g.review c, ?_, ?_⟩
  · intro change rows hrows hhidden
    exact ChangeStream.tell_append_of_false own (passes_watchFilters_of_false hrows hhidden)
  · intro change shown
    exact ChangeStream.tell_of_append

/-- The stage of a watcher who asks for insertions. -/
def insertionsOnly : List Document :=
  [[("$match", .doc [("operationType", .str "insert")])]]

/-- Of a secret document, an open one and the deletion of that, a watcher for insertions is told the
second, whether they read at once or one change after another. -/
theorem watch_tells_open_insertion :
    let g := ofRows (notSecret "marks.level")
    let todos := Collection.ofDocuments "todos" []
    let secret := Change.ofInsert "todos" (marked "secret")
    let insertion := Change.ofInsert "todos" (marked "open")
    let deletion := Change.ofDelete "todos" (marked "open")
    ∃ stream, g.watch todos insertionsOnly = .ok stream ∧
      stream.readAll g.review todos [([secret, insertion, deletion], none)] = [.ok insertion] ∧
      stream.readAll g.review todos [([secret], some 1), ([insertion, deletion], some 1)] =
        [.ok insertion] ∧
      ∃ plain told plainTold, g.watch todos [] = .ok plain ∧
        stream.Tells g.review todos told ∧ plain.Tells g.review todos plainTold ∧
        told secret = none ∧
        told insertion = some (.ok insertion) ∧ plainTold insertion = some (.ok insertion) := by
  intro g todos secret insertion deletion
  have hwatch : g.watch todos insertionsOnly = .ok
      ⟨g.watchFilters ++ [[("operationType", .str "insert")]], 0⟩ := rfl
  obtain ⟨plain, told, plainTold, hplain, htells, hplainTells, hhidden, hnarrowed⟩ :=
    watch_narrowed_by_stages rfl hwatch
  have hread := ChangeStream.tells_tell
    (g.watchFilters ++ [[("operationType", .str "insert")]]) g.review todos
  have hfits : ∀ changes : List Change, changes.length ≤ 3 → changes.length ≤ heldChanges :=
    fun _ h => Nat.le_trans h (by simp [heldChanges])
  have htold : told insertion = some (.ok insertion) := by
    have halone : [insertion].filterMap told = [.ok insertion] :=
      (htells [([insertion], none)] (hfits [insertion] (by decide))).symm.trans
        (hread [([insertion], none)] (hfits [insertion] (by decide)))
    cases hitem : told insertion with
    | none =>
      rw [List.filterMap_cons_none hitem] at halone
      cases halone
    | some item =>
      rw [List.filterMap_cons_some hitem] at halone
      cases halone
      rfl
  refine ⟨_, hwatch, ?_, ?_, plain, told, plainTold, hplain, htells, hplainTells,
    hhidden secret _ rfl rfl, htold, hnarrowed insertion insertion htold⟩
  · exact hread _ (hfits [secret, insertion, deletion] (by decide))
  · exact hread _ (hfits [secret, insertion, deletion] (by decide))

end Guard

end DocGuard
