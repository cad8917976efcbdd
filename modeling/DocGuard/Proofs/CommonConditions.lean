import DocGuard.Proofs.ConditionReading
import DocGuard.Proofs.FilterReading

/-!
# Conditions that are filters

Rules read a condition and the store reads a filter, each in a way of its own. Where both are built
from lists under `$and` and `$or` and from leaves that name operators known to both, they differ in
one place only: of the operators of a leaf the rules read the first alone and the store all of them.
-/

namespace DocGuard

open DocGuard.Text

/-! ## The common language -/

/-- The operators that conditions and filters apply alike. -/
def commonOperators : List Operator :=
  [.gt, .gte, .lt, .lte, .strGt, .strGte, .strLt, .strLte, .within, .notWithin, .all]

/-- Whether a name with what is expected is read alike: the name is that of a common operator, and
what is expected is no reference. -/
def isCommonOperator (name : String) (expected : Value) : Bool :=
  commonOperators.any (·.name == name) && (referredPath? none (some expected)).isNone

/-- Whether a leaf names common operators only, and at least one. -/
def isCommonLeaf (operators : Document) : Bool :=
  !operators.isEmpty && operators.all fun entry => isCommonOperator entry.1 entry.2

/-- Whether a leaf names a single operator, a common one. -/
def isSingleLeaf (operators : Document) : Bool :=
  operators.length == 1 && isCommonLeaf operators

mutual

/-- Whether a document is a tree with leaves of some kind: it has lists of trees under `$and` and
`$or`, where those under `$or` are not empty, and leaves under plain paths. -/
def isTreeOf (leaf : Document → Bool) : List (String × Value) → Bool
  | [] => true
  | (key, spec) :: rest => isBranchOf leaf key spec && isTreeOf leaf rest

/-- Whether an entry is one of a tree with leaves of some kind. -/
def isBranchOf (leaf : Document → Bool) (key : String) : Value → Bool
  | .array children =>
    (key == "$and" || key == "$or" && !children.isEmpty) && areTreesOf leaf children
  | .doc operators => isPlainPath key && leaf operators
  | _ => false

/-- Whether a list holds trees with leaves of some kind. -/
def areTreesOf (leaf : Document → Bool) : List Value → Bool
  | [] => true
  | .doc tree :: rest => isTreeOf leaf tree && areTreesOf leaf rest
  | _ :: _ => false

end

mutual

/-- A tree with other leaves. -/
def mapLeaves (f : Document → Document) : List (String × Value) → List (String × Value)
  | [] => []
  | (key, spec) :: rest => (key, mapBranch f spec) :: mapLeaves f rest

def mapBranch (f : Document → Document) : Value → Value
  | .array children => .array (mapChildren f children)
  | .doc operators => .doc (f operators)
  | v => v

def mapChildren (f : Document → Document) : List Value → List Value
  | [] => []
  | .doc tree :: rest => .doc (mapLeaves f tree) :: mapChildren f rest
  | v :: rest => v :: mapChildren f rest

end

/-- A tree with the first operator of each leaf alone. -/
def firstOperators (tree : Document) : Document :=
  mapLeaves (List.take 1) tree

section

variable {leaf : Document → Bool} {f : Document → Document}

theorem areTreesOf_cons {child : Value} {rest : List Value}
    (h : areTreesOf leaf (child :: rest) = true) :
    ∃ tree, child = .doc tree ∧ isTreeOf leaf tree = true ∧ areTreesOf leaf rest = true := by
  cases child with
  | doc tree =>
    rw [areTreesOf, Bool.and_eq_true] at h
    exact ⟨tree, rfl, h.1, h.2⟩
  | _ => cases h

/-- An entry of a tree holds a list under a logical key or a leaf under a plain path. -/
theorem isBranchOf_cases {key : String} {spec : Value} (h : isBranchOf leaf key spec = true) :
    (∃ children, spec = .array children ∧ areTreesOf leaf children = true ∧
      (key = "$and" ∨ key = "$or" ∧ children.isEmpty = false)) ∨
    (∃ operators, spec = .doc operators ∧ isPlainPath key = true ∧ leaf operators = true) := by
  cases spec with
  | array children =>
    rw [isBranchOf] at h
    simp only [Bool.and_eq_true, Bool.or_eq_true, beq_iff_eq, Bool.not_eq_true'] at h
    exact .inl ⟨children, rfl, h.2, h.1⟩
  | doc operators =>
    rw [isBranchOf, Bool.and_eq_true] at h
    exact .inr ⟨operators, rfl, h.1, h.2⟩
  | _ => cases h

theorem requireConditions_of_trees (key : String) {children : List Value}
    (h : areTreesOf leaf children = true) : requireConditions key children = .ok () := by
  induction children with
  | nil => rfl
  | cons child rest ih =>
    obtain ⟨tree, rfl, -, hrest⟩ := areTreesOf_cons h
    exact ih hrest

theorem requireFilters_of_trees (key : String) {children : List Value}
    (h : areTreesOf leaf children = true) :
    requireFilters key (mapChildren f children) = .ok () := by
  induction children with
  | nil => rfl
  | cons child rest ih =>
    obtain ⟨tree, rfl, -, hrest⟩ := areTreesOf_cons h
    exact ih hrest

end

mutual

theorem mapLeaves_id (tree : List (String × Value)) : mapLeaves id tree = tree := by
  match tree with
  | [] => rfl
  | (key, spec) :: rest => rw [mapLeaves, mapBranch_id spec, mapLeaves_id rest]

theorem mapBranch_id (spec : Value) : mapBranch id spec = spec := by
  cases spec with
  | array children => rw [mapBranch, mapChildren_id children]
  | _ => rfl

theorem mapChildren_id (children : List Value) : mapChildren id children = children := by
  match children with
  | [] => rfl
  | child :: rest =>
    cases child with
    | doc tree => rw [mapChildren, mapLeaves_id tree, mapChildren_id rest]
    | _ => rw [mapChildren, mapChildren_id rest]; exact fun _ => Value.noConfusion

end

/-! ## Two readings -/

/-- A relation between answers that respects the ways in which answers are put together. -/
structure Congruent (R : Bool → Bool → Prop) : Prop where
  same : ∀ a, R a a
  and : ∀ {a b a' b'}, R a b → R a' b' → R (a && a') (b && b')
  or : ∀ {a b a' b'}, R a b → R a' b' → R (a || a') (b || b')

theorem congruent_eq : Congruent (· = ·) where
  same _ := rfl
  and h h' := by rw [h, h']
  or h h' := by rw [h, h']

/-- Whether one answer is yes only if another one is. -/
def Implies (a b : Bool) : Prop :=
  a = true → b = true

theorem congruent_implies : Congruent Implies where
  same _ := id
  and h h' := by
    intro hand
    rw [Bool.and_eq_true] at hand ⊢
    exact hand.imp h h'
  or h h' := by
    intro hor
    rw [Bool.or_eq_true] at hor ⊢
    exact hor.imp h h'

/-- Two computations that both have an answer, in a relation. -/
def Answers (R : Bool → Bool → Prop) (x y : Except Fault Bool) : Prop :=
  ∃ a b, x = .ok a ∧ y = .ok b ∧ R a b

section

variable {R : Bool → Bool → Prop} {x y x' y' : Except Fault Bool}

theorem Answers.same (hR : Congruent R) (a : Bool) : Answers R (.ok a) (.ok a) :=
  ⟨a, a, rfl, rfl, hR.same a⟩

theorem Answers.and (hR : Congruent R) (h : Answers R x y) (h' : Answers R x' y') :
    Answers R (do if ← x then x' else return false) (do if ← y then y' else return false) := by
  obtain ⟨a, b, rfl, rfl, hab⟩ := h
  obtain ⟨a', b', rfl, rfl, hab'⟩ := h'
  refine ⟨a && a', b && b', ?_, ?_, hR.and hab hab'⟩
  · cases a <;> rfl
  · cases b <;> rfl

theorem Answers.or (hR : Congruent R) (h : Answers R x y) (h' : Answers R x' y') :
    Answers R (do if ← x then return true else x') (do if ← y then return true else y') := by
  obtain ⟨a, b, rfl, rfl, hab⟩ := h
  obtain ⟨a', b', rfl, rfl, hab'⟩ := h'
  refine ⟨a || a', b || b', ?_, ?_, hR.or hab hab'⟩
  · cases a <;> rfl
  · cases b <;> rfl

end

/-- Whether the leaves of a kind, changed in some way, are read by filters as conditions read them
unchanged, up to a relation. -/
def LeavesAgree (R : Bool → Bool → Prop) (leaf : Document → Bool) (f : Document → Document) :
    Prop :=
  ∀ operators, leaf operators = true → ∀ (d : Document) (path : String), isPlainPath path = true →
    Answers R (matchesField (d.getPath path) (.doc (f operators)))
      (checkLeaf none d path (.doc operators))

mutual

/-- What relates the readings of leaves relates those of trees. -/
theorem matchesFilter_mapLeaves {R : Bool → Bool → Prop} {leaf : Document → Bool}
    {f : Document → Document} (hR : Congruent R) (hleaf : LeavesAgree R leaf f) (d : Document)
    (tree : List (String × Value)) (h : isTreeOf leaf tree = true) :
    Answers R (matchesFilter d (mapLeaves f tree)) (checkCondition none d tree) := by
  match tree with
  | [] => exact .same hR true
  | (key, spec) :: rest =>
    rw [isTreeOf, Bool.and_eq_true] at h
    rw [mapLeaves, matchesFilter, checkCondition]
    exact .and hR (matchesEntry_mapBranch hR hleaf d key spec h.1)
      (matchesFilter_mapLeaves hR hleaf d rest h.2)

theorem matchesEntry_mapBranch {R : Bool → Bool → Prop} {leaf : Document → Bool}
    {f : Document → Document} (hR : Congruent R) (hleaf : LeavesAgree R leaf f) (d : Document)
    (key : String) (spec : Value) (h : isBranchOf leaf key spec = true) :
    Answers R (matchesEntry d key (mapBranch f spec)) (checkEntry none d key spec) := by
  rcases isBranchOf_cases h with ⟨children, rfl, htrees, hkey⟩ | ⟨operators, rfl, hpath, hops⟩
  · have hall := matchesAll_mapChildren hR hleaf d children htrees
    have hany := matchesSome_mapChildren hR hleaf d children htrees
    rw [mapBranch, matchesEntry, checkEntry, requireFilters_of_trees key htrees,
      requireConditions_of_trees key htrees]
    rcases hkey with rfl | ⟨rfl, hsome⟩
    · exact hall
    · -- without alternatives the filter would fail and the condition hold
      rw [hsome]
      exact hany
  · have hlogical := not_logical_of_plain hpath
    rw [mapBranch, matchesEntry_field hlogical,
      checkEntry_leaf fun hkey => hlogical (hkey.imp_right .inl)]
    exact hleaf operators hops d key hpath

theorem matchesAll_mapChildren {R : Bool → Bool → Prop} {leaf : Document → Bool}
    {f : Document → Document} (hR : Congruent R) (hleaf : LeavesAgree R leaf f) (d : Document)
    (children : List Value) (h : areTreesOf leaf children = true) :
    Answers R (matchesAll d (mapChildren f children)) (checkAll none d children) := by
  match children with
  | [] => exact .same hR true
  | child :: rest =>
    cases child with
    | doc tree =>
      rw [areTreesOf, Bool.and_eq_true] at h
      rw [mapChildren, matchesAll, checkAll]
      exact .and hR (matchesFilter_mapLeaves hR hleaf d tree h.1)
        (matchesAll_mapChildren hR hleaf d rest h.2)
    | _ => cases h

theorem matchesSome_mapChildren {R : Bool → Bool → Prop} {leaf : Document → Bool}
    {f : Document → Document} (hR : Congruent R) (hleaf : LeavesAgree R leaf f) (d : Document)
    (children : List Value) (h : areTreesOf leaf children = true) :
    Answers R (matchesSome d (mapChildren f children)) (checkAny none d children) := by
  match children with
  | [] => exact .same hR false
  | child :: rest =>
    cases child with
    | doc tree =>
      rw [areTreesOf, Bool.and_eq_true] at h
      rw [mapChildren, matchesSome, checkAny]
      exact .or hR (matchesFilter_mapLeaves hR hleaf d tree h.1)
        (matchesSome_mapChildren hR hleaf d rest h.2)
    | _ => cases h

end

/-! ## Leaves -/

theorem commonOperators_names :
    ∀ op ∈ commonOperators, beginsWith op.name "$" = true ∧ op.name ≠ "$not" ∧
      op.name ≠ "$options" ∧ op.name ≠ "$exists" ∧ op.name ≠ "$eq" ∧ op.name ≠ "$ne" := by
  decide

section

variable {op : Operator} {name : String} {expected : Value}

/-- A common operator has an answer, and flags take no part in it. -/
theorem apply_common (hop : op ∈ commonOperators) (actual expected : Option Value) :
    ∃ answer, ∀ flags, op.apply actual expected flags = .ok answer := by
  cases op
  all_goals first
    | exact absurd hop (by decide)
    | exact ⟨_, fun _ => rfl⟩

/-- Filters apply a common operator as conditions do. -/
theorem matchesOperator_common (hop : op ∈ commonOperators) (actual flags : Option Value)
    (expected : Value) :
    matchesOperator actual flags op.name expected = op.apply actual (some expected) flags := by
  obtain ⟨-, -, hoptions, hexists, heq, hne⟩ := commonOperators_names op hop
  rw [matchesOperator_other hoptions hexists heq hne, Operator.ofName_name]
  rfl

theorem matchesOperators_cons_common (hop : op ∈ commonOperators) {actual flags : Option Value}
    {here : Bool} (hhere : op.apply actual (some expected) flags = .ok here) (rest : Document) :
    matchesOperators actual flags ((op.name, expected) :: rest) =
      if here then matchesOperators actual flags rest else .ok false := by
  rw [matchesOperators, if_neg (commonOperators_names op hop).2.1, matchesOperator_common hop,
    hhere]
  rfl

theorem isCommonOperator_cases (h : isCommonOperator name expected = true) :
    (∃ op ∈ commonOperators, op.name = name) ∧ referredPath? none (some expected) = none := by
  simpa [isCommonOperator] using h

theorem ne_op_of_common (h : isCommonOperator name expected = true) : name ≠ "op" := by
  obtain ⟨⟨op, hop, rfl⟩, -⟩ := isCommonOperator_cases h
  intro hname
  have hdollar := (commonOperators_names op hop).1
  rw [hname] at hdollar
  cases hdollar

end

/-- Listed common operators have an answer together. -/
theorem matchesOperators_common {operators : Document}
    (h : ∀ entry ∈ operators, isCommonOperator entry.1 entry.2 = true)
    (actual flags : Option Value) :
    ∃ answer, matchesOperators actual flags operators = .ok answer := by
  induction operators with
  | nil => exact ⟨true, rfl⟩
  | cons entry rest ih =>
    obtain ⟨name, expected⟩ := entry
    obtain ⟨hhead, hrest⟩ := List.forall_mem_cons.mp h
    obtain ⟨⟨op, hop, rfl⟩, -⟩ := isCommonOperator_cases hhead
    obtain ⟨here, hhere⟩ := apply_common hop actual (some expected)
    rw [matchesOperators_cons_common hop (hhere flags)]
    cases here with
    | true => exact ih hrest
    | false => exact ⟨false, rfl⟩

/-- Common operators are in the short form, which conditions read by its first entry. -/
theorem ofDocument_common {op : Operator} {expected : Value} {rest : Document}
    (h : ∀ entry ∈ (op.name, expected) :: rest, isCommonOperator entry.1 entry.2 = true) :
    ∃ flags, Demand.ofDocument ((op.name, expected) :: rest) = .ok ⟨op, some expected, flags⟩ := by
  have hshort : Document.get? ((op.name, expected) :: rest) "op" = none := by
    rw [Document.get?_eq_none_iff]
    intro hkey
    obtain ⟨entry, hentry, hname⟩ := List.mem_map.mp hkey
    exact ne_op_of_common (h entry hentry) hname
  simp only [Demand.ofDocument, hshort, Operator.ofName_name]
  exact ⟨_, rfl⟩

/-- A leaf of common operators is read in two ways: filters ask for all of its operators, and
conditions for the first one. -/
theorem commonLeaf_readings {operators : Document} (h : isCommonLeaf operators = true)
    (d : Document) {path : String} (hpath : isPlainPath path = true) :
    ∃ all first, Implies all first ∧
      matchesField (d.getPath path) (.doc operators) = .ok all ∧
      matchesField (d.getPath path) (.doc (operators.take 1)) = .ok first ∧
      checkLeaf none d path (.doc operators) = .ok first := by
  rw [isCommonLeaf, Bool.and_eq_true, List.all_eq_true] at h
  obtain ⟨hsome, hcommon⟩ := h
  match operators with
  | [] => cases hsome
  | (name, expected) :: rest =>
    obtain ⟨hhead, hrest⟩ := List.forall_mem_cons.mp hcommon
    obtain ⟨⟨op, hop, rfl⟩, hnowhere⟩ := isCommonOperator_cases hhead
    obtain ⟨first, hfirst⟩ := apply_common hop (d.getPath path) (some expected)
    -- for filters the head decides whether the rest of the list counts
    have hfield (others : Document) :
        matchesField (d.getPath path) (.doc ((op.name, expected) :: others)) =
          if first then matchesOperators (d.getPath path)
            (Document.get? ((op.name, expected) :: others) "$options") others
          else .ok false := by
      rw [matchesField, listsOperators, if_pos (commonOperators_names op hop).1,
        matchesOperators_cons_common hop (hfirst _)]
    obtain ⟨later, hlater⟩ := matchesOperators_common hrest (d.getPath path)
      (Document.get? ((op.name, expected) :: rest) "$options")
    -- conditions never come to the rest, apart from flags in it
    obtain ⟨flags, hdemand⟩ := ofDocument_common hcommon
    have himplies : Implies (first && later) first := fun h => (Bool.and_eq_true_iff.mp h).1
    refine ⟨first && later, first, himplies, ?_, ?_, ?_⟩
    · rw [hfield, hlater]
      cases first <;> rfl
    · rw [List.take_succ_cons, List.take_zero, hfield]
      cases first <;> rfl
    · rw [checkLeaf, Demand.ofValue, hdemand, resolvePath_of_plain hpath]
      show op.apply _ (followReference none d (some expected)) flags = _
      rw [followReference_eq_self hnowhere, hfirst]

theorem leavesAgree_common : LeavesAgree Implies isCommonLeaf id := by
  intro operators hleaf d path hpath
  obtain ⟨all, first, himplies, hall, -, hcheck⟩ := commonLeaf_readings hleaf d hpath
  exact ⟨all, first, hall, hcheck, himplies⟩

theorem leavesAgree_first : LeavesAgree (· = ·) isCommonLeaf (List.take 1) := by
  intro operators hleaf d path hpath
  obtain ⟨_, first, -, -, hfirst, hcheck⟩ := commonLeaf_readings hleaf d hpath
  exact ⟨first, first, hfirst, hcheck, rfl⟩

theorem leavesAgree_single : LeavesAgree (· = ·) isSingleLeaf id := by
  intro operators hleaf d path hpath
  rw [isSingleLeaf, Bool.and_eq_true, beq_iff_eq] at hleaf
  have hsame : operators.take 1 = operators := List.take_of_length_le (Nat.le_of_eq hleaf.1)
  have hagree := leavesAgree_first operators hleaf.2 d path hpath
  rw [hsame] at hagree
  exact hagree

/-! ## Trees -/

/-- The store and the rules give the same answer by a tree whose leaves name one common operator
each. Where leaves name more, the rules give the answer that the store gives by the first operators
alone, so whatever satisfies the tree as a filter satisfies it as a condition. Neither of the two
ever fails. -/
theorem matchesFilter_beside_checkCondition (d tree : Document) :
    (isTreeOf isSingleLeaf tree = true →
      ∃ answer, matchesFilter d tree = .ok answer ∧ checkCondition none d tree = .ok answer) ∧
    (isTreeOf isCommonLeaf tree = true →
      ∃ filtered checked, matchesFilter d tree = .ok filtered ∧
        checkCondition none d tree = .ok checked ∧
        matchesFilter d (firstOperators tree) = .ok checked ∧
        (filtered = true → checked = true)) := by
  constructor
  · intro htree
    obtain ⟨a, b, hfilter, hcheck, rfl⟩ :=
      matchesFilter_mapLeaves congruent_eq leavesAgree_single d tree htree
    rw [mapLeaves_id] at hfilter
    exact ⟨a, hfilter, hcheck⟩
  · intro htree
    -- the condition is the same in both comparisons, and so is its answer
    obtain ⟨filtered, checked, hfilter, hcheck, himplies⟩ :=
      matchesFilter_mapLeaves congruent_implies leavesAgree_common d tree htree
    obtain ⟨a, b, hfirst, hcheck', rfl⟩ :=
      matchesFilter_mapLeaves congruent_eq leavesAgree_first d tree htree
    rw [mapLeaves_id] at hfilter
    rw [hcheck] at hcheck'
    cases hcheck'
    exact ⟨filtered, checked, hfilter, hcheck, hfirst, himplies⟩

/-- The documents with one of two tags that are not eve's or have both tags. -/
def taggedTree : Document :=
  [("tags", .doc [("$in", .array [.str "red", .str "blue"])]),
    ("$or", .array [
      .doc [("owner", .doc [("$nin", .array [.str "eve"])])],
      .doc [("$and", .array [
        .doc [("tags", .doc [("$all", .array [.str "red", .str "blue"])])]])]])]

/-- A tagged document is found by the store and passes the rules. -/
theorem matchesFilter_taggedTree :
    isTreeOf isSingleLeaf taggedTree = true ∧
      matchesFilter [("tags", .array [.str "red"]), ("owner", .str "bob")] taggedTree = .ok true ∧
      ∃ answer,
        matchesFilter [("tags", .array [.str "red"]), ("owner", .str "bob")] taggedTree =
            .ok answer ∧
          checkCondition none [("tags", .array [.str "red"]), ("owner", .str "bob")] taggedTree =
            .ok answer := by
  have htree : isTreeOf isSingleLeaf taggedTree = true := by decide
  exact ⟨htree, rfl, (matchesFilter_beside_checkCondition _ taggedTree).1 htree⟩

/-- The second operator of a leaf counts for the store and not for the rules. -/
theorem checkCondition_first_operator :
    isTreeOf isCommonLeaf
        [("tags", .doc [("$in", .array [.str "red"]), ("$nin", .array [.str "red"])])] = true ∧
      matchesFilter [("tags", .array [.str "red"])]
        [("tags", .doc [("$in", .array [.str "red"]), ("$nin", .array [.str "red"])])] =
        .ok false ∧
      checkCondition none [("tags", .array [.str "red"])]
        [("tags", .doc [("$in", .array [.str "red"]), ("$nin", .array [.str "red"])])] =
        .ok true := by
  exact ⟨by decide, rfl, rfl⟩

end DocGuard
