import DocGuard.Proofs.Computation
import DocGuard.Proofs.ConditionReading
import DocGuard.Proofs.FilterReading

/-!
# Reordered filters and conditions

The keys of a filter or condition and the children of its lists are looked at from the left, and
only as far as needed. So another order can show a fault that this one hides, or hide one that it
shows. But no order turns an answer into the other one: what decides an answer in one order is an
outcome that the other order would have to contradict.
-/

namespace DocGuard

/-! ## Outcomes in another order -/

/-- Two outcomes are compatible if they are not two different answers. A fault goes with anything,
so this is no equivalence. -/
def Compatible (x y : Except Fault Bool) : Prop :=
  ∀ a b, x = .ok a → y = .ok b → a = b

namespace Compatible

variable {x y : Except Fault Bool}

theorem refl (x : Except Fault Bool) : Compatible x x := by
  intro a b ha hb
  exact Except.ok.inj (ha.symm.trans hb)

theorem symm (h : Compatible x y) : Compatible y x := by
  intro a b ha hb
  exact (h b a hb ha).symm

theorem map (h : Compatible x y) (f : Bool → Bool) : Compatible (x.map f) (y.map f) := by
  intro a b ha hb
  obtain ⟨a, hx, rfl⟩ := except_map_eq_ok.mp ha
  obtain ⟨b, hy, rfl⟩ := except_map_eq_ok.mp hb
  rw [h a b hx hy]

theorem behind (h : Compatible x y) (p q : Except Fault Unit) :
    Compatible (p >>= fun _ => x) (q >>= fun _ => y) := by
  intro a b ha hb
  obtain ⟨-, -, hx⟩ := bind_eq_ok.mp ha
  obtain ⟨-, -, hy⟩ := bind_eq_ok.mp hb
  exact h a b hx hy

end Compatible

/-- The answer of some outcomes that are looked at from the left up to the first that is `stop`,
which is then the answer. With `false` all of them have to hold, with `true` one of them. -/
def decideBy (stop : Bool) : List (Except Fault Bool) → Except Fault Bool
  | [] => .ok !stop
  | x :: rest => do if (← x) = stop then return stop else decideBy stop rest

section

variable {stop : Bool} {xs ys : List (Except Fault Bool)}

theorem forall_of_decideBy (h : decideBy stop xs = .ok !stop) : ∀ x ∈ xs, x = .ok !stop := by
  induction xs with
  | nil => exact List.forall_mem_nil _
  | cons x rest ih =>
    obtain ⟨here, rfl, hrest⟩ := bind_eq_ok.mp h
    by_cases hstop : here = stop
    · rw [if_pos hstop] at hrest
      exact absurd (Except.ok.inj hrest) (by simp)
    · rw [if_neg hstop] at hrest
      rw [Bool.eq_not.mpr hstop]
      exact List.forall_mem_cons.mpr ⟨rfl, ih hrest⟩

theorem mem_of_decideBy (h : decideBy stop xs = .ok stop) : .ok stop ∈ xs := by
  induction xs with
  | nil => exact absurd (Except.ok.inj h) (by simp)
  | cons x rest ih =>
    obtain ⟨here, rfl, hrest⟩ := bind_eq_ok.mp h
    by_cases hstop : here = stop
    · rw [hstop]
      exact List.mem_cons_self
    · rw [if_neg hstop] at hrest
      exact List.mem_cons_of_mem _ (ih hrest)

/-- Whether each item of two lists has a partner in the other one. -/
structure Paired {α β : Type} (R : α → β → Prop) (xs : List α) (ys : List β) : Prop where
  left : ∀ x ∈ xs, ∃ y ∈ ys, R x y
  right : ∀ y ∈ ys, ∃ x ∈ xs, R x y

namespace Paired

variable {α β : Type} {R : α → β → Prop} {x : α} {y : β} {xs : List α} {ys front back : List β}

theorem nil : Paired R [] [] where
  left := List.forall_mem_nil _
  right := List.forall_mem_nil _

theorem cons_middle (hxy : R x y) (h : Paired R xs (front ++ back)) :
    Paired R (x :: xs) (front ++ y :: back) where
  left := by
    refine List.forall_mem_cons.mpr ⟨⟨y, by simp, hxy⟩, fun x' hx' => ?_⟩
    obtain ⟨y', hy', hrel⟩ := h.left x' hx'
    exact ⟨y', List.perm_middle.symm.subset (List.mem_cons_of_mem y hy'), hrel⟩
  right := by
    intro y' hy'
    rcases List.mem_cons.mp (List.perm_middle.subset hy') with rfl | hmem
    · exact ⟨x, List.mem_cons_self, hxy⟩
    · obtain ⟨x', hx', hrel⟩ := h.right y' hmem
      exact ⟨x', List.mem_cons_of_mem x hx', hrel⟩

theorem isEmpty_eq (h : Paired R xs ys) : xs.isEmpty = ys.isEmpty := by
  cases xs with
  | nil =>
    cases ys with
    | nil => rfl
    | cons y rest =>
      obtain ⟨x, hx, -⟩ := h.right y List.mem_cons_self
      exact absurd hx List.not_mem_nil
  | cons x rest =>
    obtain ⟨y, hy, -⟩ := h.left x List.mem_cons_self
    exact (List.isEmpty_eq_false_iff.mpr (List.ne_nil_of_mem hy)).symm

theorem map {α' β' : Type} {R' : α' → β' → Prop} {f : α → α'} {g : β → β'}
    (h : Paired R xs ys) (hR : ∀ x y, R x y → R' (f x) (g y)) :
    Paired R' (xs.map f) (ys.map g) where
  left := by
    refine List.forall_mem_map.mpr fun x hx => ?_
    obtain ⟨y, hy, hrel⟩ := h.left x hx
    exact ⟨g y, List.mem_map_of_mem hy, hR x y hrel⟩
  right := by
    refine List.forall_mem_map.mpr fun y hy => ?_
    obtain ⟨x, hx, hrel⟩ := h.right y hy
    exact ⟨f x, List.mem_map_of_mem hx, hR x y hrel⟩

end Paired

theorem decideBy_ne_not (hpartner : ∀ x ∈ xs, ∃ y ∈ ys, Compatible x y)
    (h : decideBy stop xs = .ok stop) : decideBy stop ys ≠ .ok !stop := by
  intro hpass
  -- the outcome that stops the one list has its partner among those that let the other pass
  obtain ⟨y, hy, hxy⟩ := hpartner _ (mem_of_decideBy h)
  have hsame : stop = !stop := hxy _ _ rfl (forall_of_decideBy hpass y hy)
  exact absurd hsame (by simp)

theorem Compatible.decideBy (stop : Bool) (h : Paired Compatible xs ys) :
    Compatible (decideBy stop xs) (decideBy stop ys) := by
  have hright : ∀ y ∈ ys, ∃ x ∈ xs, Compatible y x := by
    intro y hy
    obtain ⟨x, hx, hxy⟩ := h.right y hy
    exact ⟨x, hx, hxy.symm⟩
  intro a b ha hb
  by_contra hne
  -- of two different answers, one is the one at which the list stops
  by_cases hstop : a = stop
  · subst hstop
    rw [Bool.eq_not.mpr (Ne.symm hne)] at hb
    exact decideBy_ne_not h.left ha hb
  · have hpass : a = !stop := Bool.eq_not.mpr hstop
    subst hpass
    have hstops : b = stop := by simpa using Ne.symm hne
    rw [hstops] at hb
    exact decideBy_ne_not hright hb ha

end

/-! ## Reorderings -/

mutual

/-- A reordering of entries: each stands anywhere among the others. Under the logical keys the lists
are reordered as well; what stands under any other key is left as it is. -/
inductive Reordered (logical : List String) :
    List (String × Value) → List (String × Value) → Prop
  | nil : Reordered logical [] []
  | cons {key : String} {spec spec' : Value} {rest front back : List (String × Value)}
      (here : ReorderedSpec logical key spec spec')
      (others : Reordered logical rest (front ++ back)) :
      Reordered logical ((key, spec) :: rest) (front ++ (key, spec') :: back)

inductive ReorderedSpec (logical : List String) : String → Value → Value → Prop
  | same (key : String) (spec : Value) : ReorderedSpec logical key spec spec
  | list {key : String} {children children' : List Value} (hkey : key ∈ logical)
      (items : ReorderedList logical children children') :
      ReorderedSpec logical key (.array children) (.array children')

inductive ReorderedList (logical : List String) : List Value → List Value → Prop
  | nil : ReorderedList logical [] []
  | cons {child child' : Value} {rest front back : List Value}
      (here : ReorderedChild logical child child')
      (others : ReorderedList logical rest (front ++ back)) :
      ReorderedList logical (child :: rest) (front ++ child' :: back)

inductive ReorderedChild (logical : List String) : Value → Value → Prop
  | same (child : Value) : ReorderedChild logical child child
  | doc {entries entries' : List (String × Value)} (inside : Reordered logical entries entries') :
      ReorderedChild logical (.doc entries) (.doc entries')

end

/-! ## Readings that look from the left -/

variable {logical : List String} {read : List (String × Value) → Except Fault Bool}
  {readEntry : String → Value → Except Fault Bool}

/-- The outcome of one item of a list. An item that is no document lets the list pass. -/
def readChild (read : List (String × Value) → Except Fault Bool) (stop : Bool) :
    Value → Except Fault Bool
  | .doc entries => read entries
  | _ => .ok !stop

/-- Whether a reading of documents is one of conjunctions: all entries have to hold, and a list
under a logical key is decided by the readings of its items, once it is well-formed. How the answer
is taken up may depend on whether there are items at all. -/
structure ReadsLogically (logical : List String)
    (read : List (String × Value) → Except Fault Bool)
    (readEntry : String → Value → Except Fault Bool) : Prop where
  entries : ∀ c, read c = decideBy false (c.map fun e => readEntry e.1 e.2)
  lists : ∀ key ∈ logical, ∃ (demand : List Value → Except Fault Unit) (stop : Bool)
    (finish : Bool → Bool → Bool), ∀ children, readEntry key (.array children) =
      (demand children >>= fun _ =>
        (decideBy stop (children.map (readChild read stop))).map (finish children.isEmpty))

theorem ReadsLogically.compatible (h : ReadsLogically logical read readEntry)
    {c c' : List (String × Value)}
    (hpaired : Paired (fun e e' => Compatible (readEntry e.1 e.2) (readEntry e'.1 e'.2)) c c') :
    Compatible (read c) (read c') := by
  rw [h.entries, h.entries]
  exact .decideBy false (hpaired.map fun _ _ => id)

mutual

theorem paired_of_reordered (h : ReadsLogically logical read readEntry) :
    ∀ {c c' : List (String × Value)}, Reordered logical c c' →
      Paired (fun e e' => Compatible (readEntry e.1 e.2) (readEntry e'.1 e'.2)) c c'
  | _, _, .nil => .nil
  | _, _, .cons here others =>
    (paired_of_reordered h others).cons_middle (compatible_of_reorderedSpec h here)

theorem compatible_of_reorderedSpec (h : ReadsLogically logical read readEntry) :
    ∀ {key : String} {spec spec' : Value}, ReorderedSpec logical key spec spec' →
      Compatible (readEntry key spec) (readEntry key spec')
  | _, _, _, .same _ _ => .refl _
  | _, _, _, .list hkey items => by
    have hpaired := paired_of_reorderedList h items
    obtain ⟨demand, stop, finish, hread⟩ := h.lists _ hkey
    rw [hread, hread, hpaired.isEmpty_eq]
    exact ((Compatible.decideBy stop (hpaired.map fun _ _ hchild => hchild stop)).map _).behind _ _

theorem paired_of_reorderedList (h : ReadsLogically logical read readEntry) :
    ∀ {children children' : List Value}, ReorderedList logical children children' →
      Paired (fun v v' => ∀ stop, Compatible (readChild read stop v) (readChild read stop v'))
        children children'
  | _, _, .nil => .nil
  | _, _, .cons here others =>
    (paired_of_reorderedList h others).cons_middle (compatible_of_reorderedChild h here)

theorem compatible_of_reorderedChild (h : ReadsLogically logical read readEntry) :
    ∀ {v v' : Value}, ReorderedChild logical v v' →
      ∀ stop, Compatible (readChild read stop v) (readChild read stop v')
  | _, _, .same _ => fun _ => .refl _
  | _, _, .doc inside => fun _ => h.compatible (paired_of_reordered h inside)

end

/-! ## Filters and conditions -/

theorem decideBy_all_cons (x : Except Fault Bool) (rest : List (Except Fault Bool)) :
    decideBy false (x :: rest) = (do if ← x then decideBy false rest else return false) := by
  obtain e | here := x
  · rfl
  · cases here <;> rfl

theorem decideBy_some_cons (x : Except Fault Bool) (rest : List (Except Fault Bool)) :
    decideBy true (x :: rest) = (do if ← x then return true else decideBy true rest) := by
  obtain e | here := x
  · rfl
  · cases here <;> rfl

def filterKeys : List String :=
  ["$and", "$or", "$nor"]

def conditionKeys : List String :=
  ["$and", "$or"]

theorem matchesFilter_eq_decideBy (d : Document) (filter : List (String × Value)) :
    matchesFilter d filter = decideBy false (filter.map fun e => matchesEntry d e.1 e.2) := by
  induction filter with
  | nil => rfl
  | cons e rest ih => rw [List.map_cons, decideBy_all_cons, ← ih]; rfl

theorem matchesAll_eq_decideBy (d : Document) (children : List Value) :
    matchesAll d children = decideBy false (children.map (readChild (matchesFilter d) false)) := by
  induction children with
  | nil => rfl
  | cons child rest ih =>
    rw [List.map_cons, decideBy_all_cons, ← ih]
    cases child <;> rfl

theorem matchesSome_eq_decideBy (d : Document) (children : List Value) :
    matchesSome d children = decideBy true (children.map (readChild (matchesFilter d) true)) := by
  induction children with
  | nil => rfl
  | cons child rest ih =>
    rw [List.map_cons, decideBy_some_cons, ← ih]
    cases child <;> rfl

theorem matchesFilter_readsLogically (d : Document) :
    ReadsLogically filterKeys (matchesFilter d) (matchesEntry d) where
  entries := matchesFilter_eq_decideBy d
  lists := by
    intro key hkey
    simp only [filterKeys, List.mem_cons, List.not_mem_nil, or_false] at hkey
    rcases hkey with rfl | rfl | rfl
    · refine ⟨requireFilters "$and", false, fun _ answer => answer, fun children => ?_⟩
      rw [← matchesAll_eq_decideBy]
      show (requireFilters "$and" children >>= fun _ => matchesAll d children) = _
      cases matchesAll d children <;> rfl
    · refine ⟨requireFilters "$or", true, fun _ answer => answer, fun children => ?_⟩
      rw [← matchesSome_eq_decideBy]
      show (requireFilters "$or" children >>= fun _ => matchesSome d children) = _
      cases matchesSome d children <;> rfl
    · refine ⟨requireFilters "$nor", true, fun _ answer => !answer, fun children => ?_⟩
      rw [← matchesSome_eq_decideBy]
      show (requireFilters "$nor" children >>= fun _ => do return !(← matchesSome d children)) = _
      cases matchesSome d children <;> rfl

theorem checkCondition_eq_decideBy (lead : PathLead) (data : Document)
    (c : List (String × Value)) :
    checkCondition lead data c = decideBy false (c.map fun e => checkEntry lead data e.1 e.2) := by
  induction c with
  | nil => rfl
  | cons e rest ih => rw [List.map_cons, decideBy_all_cons, ← ih]; rfl

theorem checkAll_eq_decideBy (lead : PathLead) (data : Document) (children : List Value) :
    checkAll lead data children =
      decideBy false (children.map (readChild (checkCondition lead data) false)) := by
  induction children with
  | nil => rfl
  | cons child rest ih =>
    rw [List.map_cons, decideBy_all_cons, ← ih]
    cases child <;> rfl

theorem checkAny_eq_decideBy (lead : PathLead) (data : Document) (children : List Value) :
    checkAny lead data children =
      decideBy true (children.map (readChild (checkCondition lead data) true)) := by
  induction children with
  | nil => rfl
  | cons child rest ih =>
    rw [List.map_cons, decideBy_some_cons, ← ih]
    cases child <;> rfl

theorem checkCondition_readsLogically (lead : PathLead) (data : Document) :
    ReadsLogically conditionKeys (checkCondition lead data) (checkEntry lead data) where
  entries := checkCondition_eq_decideBy lead data
  lists := by
    intro key hkey
    simp only [conditionKeys, List.mem_cons, List.not_mem_nil, or_false] at hkey
    rcases hkey with rfl | rfl
    · refine ⟨requireConditions "$and", false, fun _ answer => answer, fun children => ?_⟩
      rw [← checkAll_eq_decideBy]
      show (requireConditions "$and" children >>= fun _ => checkAll lead data children) = _
      cases checkAll lead data children <;> rfl
    · -- no alternatives at all are no demand
      refine ⟨requireConditions "$or", true, fun none answer => none || answer, fun children => ?_⟩
      rw [← checkAny_eq_decideBy]
      cases children with
      | nil => rfl
      | cons child rest =>
        show (requireConditions "$or" _ >>= fun _ => checkAny lead data (child :: rest)) = _
        cases checkAny lead data (child :: rest) <;> rfl

/-- Where a filter and a reordering of it both have an answer for a document, it is the same, and so
for conditions, whatever other orders do. -/
theorem reordered_answers_agree :
    (∀ filter reordered : Document, Reordered filterKeys filter reordered →
      ∀ (d : Document) (a b : Bool), matchesFilter d filter = .ok a →
        matchesFilter d reordered = .ok b → a = b) ∧
    (∀ condition reordered : Document, Reordered conditionKeys condition reordered →
      ∀ (lead : PathLead) (data : Document) (a b : Bool),
        checkCondition lead data condition = .ok a →
        checkCondition lead data reordered = .ok b → a = b) := by
  constructor
  · intro filter reordered h d
    have hreads := matchesFilter_readsLogically d
    exact hreads.compatible (paired_of_reordered hreads h)
  · intro condition reordered h lead data
    have hreads := checkCondition_readsLogically lead data
    exact hreads.compatible (paired_of_reordered hreads h)

/-- A filter with an unknown operator refuses a document in two orders, as does the condition, and
faults in a third one. -/
theorem two_orders_agree :
    let d : Document := [("kind", .str "note"), ("level", .int32 2)]
    let unknown : String × Value := ("size", .doc [("$near", .int32 1)])
    let levels : Value := .array [.doc [("level", .int32 1)], .doc [("level", .int32 3)]]
    let swapped : Value := .array [.doc [("level", .int32 3)], .doc [("level", .int32 1)]]
    let given : Document := [("kind", .str "todo"), unknown, ("$or", levels)]
    let reordered : Document := [("$or", swapped), ("kind", .str "todo"), unknown]
    Reordered filterKeys given reordered ∧ Reordered conditionKeys given reordered ∧
      (∃ a b, matchesFilter d given = .ok a ∧ matchesFilter d reordered = .ok b ∧ a = b) ∧
      (∃ a b, checkCondition none d given = .ok a ∧ checkCondition none d reordered = .ok b ∧
        a = b) ∧
      matchesFilter d [unknown, ("$or", levels), ("kind", .str "todo")] =
        .error (.operatorNotFound "$near") := by
  intro d unknown levels swapped given reordered
  have hlevels : ∀ logical, ReorderedList logical [.doc [("level", .int32 1)],
      .doc [("level", .int32 3)]] [.doc [("level", .int32 3)], .doc [("level", .int32 1)]] := by
    intro logical
    have hlast : ReorderedList logical [.doc [("level", .int32 3)]] [.doc [("level", .int32 3)]] :=
      @ReorderedList.cons logical _ _ [] [] [] (.same _) .nil
    exact @ReorderedList.cons logical _ _ _ [_] [] (.same _) hlast
  have horder : ∀ logical, "$or" ∈ logical → Reordered logical given reordered := by
    intro logical hor
    have hlast : Reordered logical [("$or", levels)] [("$or", swapped)] :=
      @Reordered.cons logical _ _ _ [] [] [] (.list hor (hlevels logical)) .nil
    have hrest : Reordered logical [unknown, ("$or", levels)] [("$or", swapped), unknown] :=
      @Reordered.cons logical _ _ _ _ [_] [] (.same _ _) hlast
    exact @Reordered.cons logical _ _ _ _ [_] [unknown] (.same _ _) hrest
  have hfilter := horder filterKeys (by decide)
  have hcondition := horder conditionKeys (by decide)
  refine ⟨hfilter, hcondition, ⟨false, false, rfl, rfl, ?_⟩, ⟨false, false, rfl, rfl, ?_⟩, rfl⟩
  · exact reordered_answers_agree.1 given reordered hfilter d false false rfl rfl
  · exact reordered_answers_agree.2 given reordered hcondition none d false false rfl rfl

end DocGuard
