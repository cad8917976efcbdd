import DocGuard.Proofs.AuditedConditions
import DocGuard.Proofs.FilterReading

/-!
# Queries of row filters beside the audit

The store reads a filter, and the rules read a condition, so the faults of a filter are found by a
walk of their own: lists that are missing, items of lists that are no filters, and operators that
are unknown, at any depth under the logical keys and under `$not`. Matching fails with one of these
faults or by a pattern. The audit takes no part in this: it has the same issues whatever the queries
of the row filters are.
-/

namespace DocGuard

open DocGuard.Text

/-! ## Faults of filters -/

/-- Whether filters have an operator of this name. -/
def isFilterOperator (name : String) : Bool :=
  name == "$not" || name == "$options" || (Operator.ofName? name).isSome

mutual

/-- The faults of what a filter expects at a path. -/
def fieldFaults : Value → List Fault
  | .doc entries => if listsOperators entries then operatorFaults entries else []
  | _ => []

def operatorFaults : List (String × Value) → List Fault
  | [] => []
  | (name, expected) :: rest =>
    (if name = "$not" then fieldFaults expected
      else if isFilterOperator name then [] else [.operatorNotFound name]) ++ operatorFaults rest

end

mutual

/-- The faults of a filter, in order. -/
def filterFaults : List (String × Value) → List Fault
  | [] => []
  | (key, spec) :: rest => filterEntryFaults key spec ++ filterFaults rest

def filterEntryFaults (key : String) : Value → List Fault
  | .array children =>
    if key = "$and" ∨ key = "$or" ∨ key = "$nor" then filterChildFaults key children else []
  | spec =>
    if key = "$and" ∨ key = "$or" ∨ key = "$nor" then [.store (.filterListExpected key)]
    else fieldFaults spec

def filterChildFaults (key : String) : List Value → List Fault
  | [] => []
  | .doc filter :: rest => filterFaults filter ++ filterChildFaults key rest
  | _ :: rest => .store (.filterExpected key) :: filterChildFaults key rest

end

section

variable {key : String} {spec : Value}

theorem filterEntryFaults_field (hkey : ¬ (key = "$and" ∨ key = "$or" ∨ key = "$nor"))
    (spec : Value) : filterEntryFaults key spec = fieldFaults spec := by
  cases spec with
  | array children => rw [filterEntryFaults, if_neg hkey, fieldFaults]; exact nofun
  | _ => rw [filterEntryFaults, if_neg hkey]; exact fun _ => Value.noConfusion

theorem filterEntryFaults_noList (hkey : key = "$and" ∨ key = "$or" ∨ key = "$nor")
    (hspec : ∀ children, spec ≠ .array children) :
    filterEntryFaults key spec = [.store (.filterListExpected key)] := by
  rw [filterEntryFaults, if_pos hkey]
  exact hspec

theorem fieldFaults_of_not_doc (h : ∀ d, spec ≠ .doc d) : fieldFaults spec = [] := by
  cases spec with
  | doc d => exact absurd rfl (h d)
  | _ => rw [fieldFaults]; exact h

theorem filterChildFaults_of_not_doc (h : ∀ d, spec ≠ .doc d) (rest : List Value) :
    filterChildFaults key (spec :: rest) =
      .store (.filterExpected key) :: filterChildFaults key rest := by
  cases spec with
  | doc d => exact absurd rfl (h d)
  | _ => rw [filterChildFaults]; exact h

end

/-! ## Matching -/

/-- Whether a computation fails, if at all, with one of some faults or by a pattern. -/
def FailsWithin {α : Type} (faults : List Fault) (x : Except Fault α) : Prop :=
  ∀ e, x = .error e → e ∈ faults ∨ ∃ defect, e = .pattern defect

namespace FailsWithin

variable {α β : Type} {p q : List Fault} {x : Except Fault α}

theorem of_ok (a : α) : FailsWithin p (.ok a) := fun _ h => by cases h

theorem of_pattern (h : FailsOnlyByPattern x) : FailsWithin p x := fun e he => .inr (h e he)

theorem left (h : FailsWithin p x) : FailsWithin (p ++ q) x :=
  fun e he => (h e he).imp_left (List.mem_append_left q)

theorem right (h : FailsWithin q x) : FailsWithin (p ++ q) x :=
  fun e he => (h e he).imp_left (List.mem_append_right p)

theorem cons (h : FailsWithin p x) (e : Fault) : FailsWithin (e :: p) x :=
  fun e' he => (h e' he).imp_left (List.mem_cons_of_mem e)

theorem bind {f : α → Except Fault β} (hx : FailsWithin p x) (hf : ∀ a, FailsWithin p (f a)) :
    FailsWithin p (x >>= f) := by
  cases x with
  | error e =>
    intro e' h
    cases h
    exact hx e rfl
  | ok a => exact hf a

end FailsWithin

/-- A name that no filter has for an operator is refused with the name. -/
theorem matchesOperator_unknown {name : String} (hname : isFilterOperator name = false)
    (actual flags : Option Value) (expected : Value) :
    matchesOperator actual flags name expected = .error (.operatorNotFound name) := by
  simp only [isFilterOperator, Bool.or_eq_false_iff, beq_eq_false_iff_ne] at hname
  obtain ⟨⟨hnot, hoptions⟩, hop⟩ := hname
  have hnone : Operator.ofName? name = none := by simpa using hop
  -- the operators that filters read in a way of their own are known to conditions, too
  have hknown (op : Operator) : name ≠ op.name := by
    intro heq
    rw [heq, Operator.ofName?_name] at hnone
    cases hnone
  have hexists : name ≠ "$exists" := hknown .present
  have heq : name ≠ "$eq" := hknown .eq
  have hne : name ≠ "$ne" := hknown .ne
  rw [matchesOperator_other hoptions hexists heq hne, Operator.ofName, hnone]
  rfl

theorem matchesOperator_known {name : String} (hname : isFilterOperator name = true)
    (hnot : name ≠ "$not") (actual flags : Option Value) (expected : Value) :
    FailsOnlyByPattern (matchesOperator actual flags name expected) := by
  by_cases hoptions : name = "$options"
  · rw [matchesOperator, if_pos hoptions]
    apply FailsOnlyByPattern.of_ok
  by_cases hexists : name = "$exists"
  · rw [matchesOperator, if_neg hoptions, if_pos hexists]
    apply FailsOnlyByPattern.of_ok
  by_cases heq : name = "$eq"
  · rw [matchesOperator, if_neg hoptions, if_neg hexists, if_pos heq]
    apply FailsOnlyByPattern.of_ok
  by_cases hne : name = "$ne"
  · rw [matchesOperator, if_neg hoptions, if_neg hexists, if_neg heq, if_pos hne]
    apply FailsOnlyByPattern.of_ok
  -- what is left is an operator of conditions
  have hop : (Operator.ofName? name).isSome = true := by
    simpa [isFilterOperator, hnot, hoptions] using hname
  obtain ⟨op, hop⟩ := Option.isSome_iff_exists.mp hop
  rw [matchesOperator_other hoptions hexists heq hne, Operator.ofName, hop]
  exact .apply op _ _ _

theorem matchesOperator_failsWithin {name : String} (hnot : name ≠ "$not")
    (actual flags : Option Value) (expected : Value) :
    FailsWithin (if isFilterOperator name then [] else [.operatorNotFound name])
      (matchesOperator actual flags name expected) := by
  by_cases hname : isFilterOperator name = true
  · exact .of_pattern (matchesOperator_known hname hnot actual flags expected)
  · rw [if_neg hname, matchesOperator_unknown (Bool.not_eq_true _ ▸ hname)]
    intro e he
    cases he
    exact .inl (List.mem_singleton_self _)

mutual

theorem matchesField_failsWithin (actual : Option Value) (spec : Value) :
    FailsWithin (fieldFaults spec) (matchesField actual spec) := by
  cases spec with
  | doc entries =>
    rw [fieldFaults, matchesField]
    by_cases hlists : listsOperators entries = true
    · rw [if_pos hlists, if_pos hlists]
      exact matchesOperators_failsWithin actual _ entries
    · rw [if_neg hlists, if_neg hlists]
      exact .of_ok _
  | regex source letters => exact .of_pattern (.apply .pattern _ _ _)
  | _ => exact .of_ok _

theorem matchesOperators_failsWithin (actual flags : Option Value)
    (entries : List (String × Value)) :
    FailsWithin (operatorFaults entries) (matchesOperators actual flags entries) := by
  match entries with
  | [] => exact .of_ok true
  | (name, expected) :: rest =>
    have hnext (here : Bool) : FailsWithin (operatorFaults rest)
        (if here = true then matchesOperators actual flags rest else pure false) := by
      cases here with
      | true => exact matchesOperators_failsWithin actual flags rest
      | false => exact .of_ok false
    rw [operatorFaults, matchesOperators]
    by_cases hnot : name = "$not"
    · rw [if_pos hnot, if_pos hnot]
      have hhere : FailsWithin (fieldFaults expected)
          ((matchesField actual expected).map (!·)) :=
        .bind (matchesField_failsWithin actual expected) fun _ => .of_ok _
      exact .bind hhere.left fun here => (hnext here).right
    · rw [if_neg hnot, if_neg hnot]
      have hhere := matchesOperator_failsWithin hnot actual flags expected
      exact .bind hhere.left fun here => (hnext here).right

end

theorem requireFilters_failsWithin (key : String) (children : List Value) :
    FailsWithin (filterChildFaults key children) (requireFilters key children) := by
  induction children with
  | nil => exact .of_ok ()
  | cons child rest ih =>
    cases child with
    | doc filter => exact ih.right
    | _ =>
      intro e he
      cases he
      exact .inl (List.mem_cons_self ..)

mutual

/-- Matching fails only with a fault of the filter or by a pattern. -/
theorem matchesFilter_failsWithin (document : Document) (filter : List (String × Value)) :
    FailsWithin (filterFaults filter) (matchesFilter document filter) := by
  match filter with
  | [] => exact .of_ok true
  | (key, spec) :: rest =>
    refine .bind (matchesEntry_failsWithin document key spec).left fun here => .right ?_
    cases here with
    | true => exact matchesFilter_failsWithin document rest
    | false => exact .of_ok false

theorem matchesEntry_failsWithin (document : Document) (key : String) (spec : Value) :
    FailsWithin (filterEntryFaults key spec) (matchesEntry document key spec) := by
  by_cases hkey : key = "$and" ∨ key = "$or" ∨ key = "$nor"
  · cases spec with
    | array children =>
      have hrequire := requireFilters_failsWithin key children
      have hall := matchesAll_failsWithin document key children
      have hsome := matchesSome_failsWithin document key children
      rw [filterEntryFaults, if_pos hkey, matchesEntry]
      rcases hkey with rfl | rfl | rfl
      · exact .bind hrequire fun _ => hall
      · exact .bind hrequire fun _ => hsome
      · exact .bind hrequire fun _ => .bind hsome fun _ => .of_ok _
    | _ =>
      rw [filterEntryFaults_noList hkey fun _ => Value.noConfusion,
        matchesEntry_noList hkey fun _ => Value.noConfusion]
      intro e he
      cases he
      exact .inl (List.mem_singleton_self _)
  -- under any other key stands what the field is to be
  · rw [filterEntryFaults_field hkey, matchesEntry_field hkey]
    exact matchesField_failsWithin _ spec

theorem matchesAll_failsWithin (document : Document) (key : String) (children : List Value) :
    FailsWithin (filterChildFaults key children) (matchesAll document children) := by
  match children with
  | [] => exact .of_ok true
  | child :: rest =>
    cases child with
    | doc filter =>
      refine .bind (matchesFilter_failsWithin document filter).left fun here => .right ?_
      cases here with
      | true => exact matchesAll_failsWithin document key rest
      | false => exact .of_ok false
    | _ => exact (matchesAll_failsWithin document key rest).cons _

theorem matchesSome_failsWithin (document : Document) (key : String) (children : List Value) :
    FailsWithin (filterChildFaults key children) (matchesSome document children) := by
  match children with
  | [] => exact .of_ok false
  | child :: rest =>
    cases child with
    | doc filter =>
      refine .bind (matchesFilter_failsWithin document filter).left fun here => .right ?_
      cases here with
      | true => exact .of_ok true
      | false => exact matchesSome_failsWithin document key rest
    | _ => exact (matchesSome_failsWithin document key rest).cons _

end

/-! ## Expansion -/

theorem listsOperators_expandEntries (substitutions d : Document) :
    listsOperators (expandEntries substitutions d) = listsOperators d := by
  cases d <;> rfl

mutual

theorem fieldFaults_expandValue {substitutions : Document} (spec : Value)
    (htokens : NoneIsDocument substitutions (valueTokens spec)) :
    fieldFaults (expandValue substitutions spec) = fieldFaults spec := by
  cases spec with
  | doc entries =>
    rw [expandValue, fieldFaults, fieldFaults, listsOperators_expandEntries,
      operatorFaults_expandEntries entries htokens]
  | _ =>
    rw [fieldFaults_of_not_doc (expandValue_ne_doc (fun _ => Value.noConfusion) htokens),
      fieldFaults_of_not_doc fun _ => Value.noConfusion]

theorem operatorFaults_expandEntries {substitutions : Document} (entries : List (String × Value))
    (htokens : NoneIsDocument substitutions (entryTokens entries)) :
    operatorFaults (expandEntries substitutions entries) = operatorFaults entries := by
  match entries with
  | [] => rfl
  | (name, expected) :: rest =>
    rw [expandEntries, operatorFaults, operatorFaults,
      fieldFaults_expandValue expected htokens.left,
      operatorFaults_expandEntries rest htokens.right]

end

/-- Whether every logical key has a list among some faults: none of them says that a list is
missing. -/
def NoListMissing (faults : List Fault) : Prop :=
  ∀ key, Fault.store (.filterListExpected key) ∉ faults

theorem NoListMissing.left {p q : List Fault} (h : NoListMissing (p ++ q)) : NoListMissing p :=
  fun key hkey => h key (List.mem_append_left q hkey)

theorem NoListMissing.right {p q : List Fault} (h : NoListMissing (p ++ q)) : NoListMissing q :=
  fun key hkey => h key (List.mem_append_right p hkey)

mutual

/-- Expansion leaves a filter with the faults that it has, as long as its lists are written out and
no token stands for a document. -/
theorem filterFaults_expandEntries {substitutions : Document} (filter : List (String × Value))
    (hlists : NoListMissing (filterFaults filter))
    (htokens : NoneIsDocument substitutions (entryTokens filter)) :
    filterFaults (expandEntries substitutions filter) = filterFaults filter := by
  match filter with
  | [] => rfl
  | (key, spec) :: rest =>
    rw [expandEntries, filterFaults, filterFaults,
      filterEntryFaults_expandValue key spec hlists.left htokens.left,
      filterFaults_expandEntries rest hlists.right htokens.right]

theorem filterEntryFaults_expandValue {substitutions : Document} (key : String) (spec : Value)
    (hlists : NoListMissing (filterEntryFaults key spec))
    (htokens : NoneIsDocument substitutions (valueTokens spec)) :
    filterEntryFaults key (expandValue substitutions spec) = filterEntryFaults key spec := by
  by_cases hkey : key = "$and" ∨ key = "$or" ∨ key = "$nor"
  · cases spec with
    | array children =>
      rw [filterEntryFaults, if_pos hkey] at hlists
      rw [expandValue, filterEntryFaults, filterEntryFaults, if_pos hkey, if_pos hkey]
      exact filterChildFaults_expandItems key children hlists htokens
    | _ =>
      -- a token could stand for a list here
      rw [filterEntryFaults_noList hkey fun _ => Value.noConfusion] at hlists
      exact absurd (List.mem_singleton_self _) (hlists key)
  · rw [filterEntryFaults_field hkey, filterEntryFaults_field hkey]
    exact fieldFaults_expandValue spec htokens

theorem filterChildFaults_expandItems {substitutions : Document} (key : String)
    (children : List Value) (hlists : NoListMissing (filterChildFaults key children))
    (htokens : NoneIsDocument substitutions (itemTokens children)) :
    filterChildFaults key (expandItems substitutions children) =
      filterChildFaults key children := by
  match children with
  | [] => rfl
  | child :: rest =>
    by_cases hdoc : ∃ filter, child = .doc filter
    · obtain ⟨filter, rfl⟩ := hdoc
      rw [expandItems, expandValue, filterChildFaults, filterChildFaults,
        filterFaults_expandEntries filter hlists.left htokens.left,
        filterChildFaults_expandItems key rest hlists.right htokens.right]
    · have hchild : ∀ d, child ≠ .doc d := fun d h => hdoc ⟨d, h⟩
      rw [filterChildFaults_of_not_doc hchild] at hlists ⊢
      have hrest : NoListMissing (filterChildFaults key rest) :=
        fun name hname => hlists name (List.mem_cons_of_mem _ hname)
      rw [expandItems, filterChildFaults_of_not_doc (expandValue_ne_doc hchild htokens.left),
        filterChildFaults_expandItems key rest hrest htokens.right]

end

/-- By a filter without faults whose tokens stand for no documents, matching fails only by a
pattern. -/
theorem matchesFilter_expand_failsOnlyByPattern {substitutions filter : Document}
    (hfaults : filterFaults filter = [])
    (htokens : NoneIsDocument substitutions (entryTokens filter)) (document : Document) :
    FailsOnlyByPattern (matchesFilter document (filter.expand substitutions)) := by
  have hlists : NoListMissing (filterFaults filter) := by
    rw [hfaults]
    exact fun _ => List.not_mem_nil
  have hwithin := matchesFilter_failsWithin document (expandEntries substitutions filter)
  rw [filterFaults_expandEntries filter hlists htokens, hfaults] at hwithin
  intro e he
  exact (hwithin e he).resolve_left List.not_mem_nil

/-- A filter that begins with an unknown operator fails for every document. -/
theorem matchesFilter_unknown {key name : String}
    (hkey : ¬ (key = "$and" ∨ key = "$or" ∨ key = "$nor")) (hdollar : beginsWith name "$" = true)
    (hname : isFilterOperator name = false) (expected : Value)
    (operators rest : List (String × Value)) (document : Document) :
    matchesFilter document ((key, .doc ((name, expected) :: operators)) :: rest) =
      .error (.operatorNotFound name) := by
  have hnot : name ≠ "$not" := by
    rintro rfl
    cases hname
  rw [matchesFilter, matchesEntry_field hkey, matchesField, listsOperators, if_pos hdollar,
    matchesOperators, if_neg hnot, matchesOperator_unknown hname]
  rfl

/-! ## Rules -/

def RowFilter.queryIssues (f : RowFilter) : List (String × Fault) :=
  (f.query.toList.flatMap filterFaults).map (("filter " ++ f.name ++ ": query", ·))

def RuleBook.queryIssues (book : RuleBook) : List RuleIssue :=
  book.flatMap fun (name, rules) =>
    (rules.filters.flatMap RowFilter.queryIssues).map fun (location, fault) =>
      ⟨name, location, fault⟩

/-- The rules with other queries for their row filters. -/
def RuleBook.withQueries (queryOf : RowFilter → Option Document) (book : RuleBook) : RuleBook :=
  book.map fun (name, rules) =>
    (name, { rules with filters := rules.filters.map fun f => { f with query := queryOf f } })

theorem CollectionRules.issues_withQueries (registry : Option Registry)
    (queryOf : RowFilter → Option Document) (rules : CollectionRules) :
    CollectionRules.issues registry
        { rules with filters := rules.filters.map fun f => { f with query := queryOf f } } =
      rules.issues registry := by
  unfold CollectionRules.issues
  rw [List.flatMap_map]
  rfl

theorem RuleBook.issues_withQueries (registry : Option Registry)
    (queryOf : RowFilter → Option Document) (book : RuleBook) :
    (book.withQueries queryOf).issues registry = book.issues registry := by
  unfold RuleBook.issues RuleBook.withQueries
  rw [List.flatMap_map]
  simp only [CollectionRules.issues_withQueries]

theorem filterFaults_of_queryIssues {book : RuleBook} (hissues : book.queryIssues = [])
    {name : String} {rules : CollectionRules} {f : RowFilter} {query : Document}
    (hrules : (name, rules) ∈ book) (hf : f ∈ rules.filters) (hquery : f.query = some query) :
    filterFaults query = [] := by
  have hcollection := List.map_eq_nil_iff.mp (List.flatMap_eq_nil_iff.mp hissues _ hrules)
  have hfilter := List.map_eq_nil_iff.mp (List.flatMap_eq_nil_iff.mp hcollection f hf)
  rw [hquery] at hfilter
  exact List.flatMap_eq_nil_iff.mp hfilter query List.mem_cons_self

/-- The audit does not cover row filters: it has the same issues whatever their queries are, also
where a query begins with an unknown operator, so that it fails for every document. Where the
queries have no faults of their own and no token stands for a document, matching never meets an
unknown operator. -/
theorem RuleBook.matching_beside_audit (registry : Option Registry) (book : RuleBook) :
    (∀ queryOf, (book.withQueries queryOf).issues registry = book.issues registry) ∧
    (∀ key name, ¬ (key = "$and" ∨ key = "$or" ∨ key = "$nor") → beginsWith name "$" = true →
      isFilterOperator name = false → ∀ expected operators rest user document,
        matchesFilter document
          (Document.expand ((key, .doc ((name, expected) :: operators)) :: rest)
            (ruleContext user)) = .error (.operatorNotFound name)) ∧
    (book.queryIssues = [] → ∀ collection rules f query, (collection, rules) ∈ book →
      f ∈ rules.filters → f.query = some query → ∀ user,
        NoneIsDocument (ruleContext user) (entryTokens query) → ∀ document name,
          matchesFilter document (query.expand (ruleContext user)) ≠
            .error (.operatorNotFound name)) := by
  refine ⟨fun queryOf => book.issues_withQueries registry queryOf, ?_, ?_⟩
  · intro key name hkey hdollar hname expected operators rest user document
    -- expansion keeps the name of the operator and its place
    exact matchesFilter_unknown hkey hdollar hname _ _ _ document
  · intro hissues collection rules f query hrules hf hquery user htokens document name herror
    have hfaults := filterFaults_of_queryIssues hissues hrules hf hquery
    obtain ⟨defect, hdefect⟩ :=
      matchesFilter_expand_failsOnlyByPattern hfaults htokens document _ herror
    cases hdefect

/-- The rows of a user: those that the user owns, and those of a level that is not the user's. -/
def ownOrOfOtherLevel : Document :=
  [("$or", .array [
    .doc [("owner", .str "%%user.id")],
    .doc [("level", .doc [("$gte", .int32 1),
      ("$not", .doc [("$in", .array [.str "%%user.level"])])])]])]

/-- Rules that narrow every query to a given one. -/
def narrowedTo (query : Document) : RuleBook :=
  [("todos", ⟨[], [⟨"rows", [], some query⟩]⟩)]

/-- The rows of a user without a level are found without a fault of the rules. -/
theorem RuleBook.matching_own_or_of_other_level :
    (narrowedTo ownOrOfOtherLevel).issues none = [] ∧
      (narrowedTo ownOrOfOtherLevel).queryIssues = [] ∧
      NoneIsDocument (ruleContext [("id", .str "ann")]) (entryTokens ownOrOfOtherLevel) ∧
      matchesFilter [("owner", .str "bob"), ("level", .int32 2)]
        (ownOrOfOtherLevel.expand (ruleContext [("id", .str "ann")])) = .ok true ∧
      ∀ document name,
        matchesFilter document (ownOrOfOtherLevel.expand (ruleContext [("id", .str "ann")])) ≠
          .error (.operatorNotFound name) := by
  have hissues : (narrowedTo ownOrOfOtherLevel).queryIssues = [] := rfl
  have htokens :
      NoneIsDocument (ruleContext [("id", .str "ann")]) (entryTokens ownOrOfOtherLevel) := by
    intro token htoken d
    have hlist : entryTokens ownOrOfOtherLevel = ["%%user.id", "%%user.level"] := rfl
    rw [hlist] at htoken
    rcases List.mem_cons.mp htoken with rfl | hrest
    · exact fun h => by cases h
    · cases List.mem_singleton.mp hrest
      exact fun h => by cases h
  have hmatching := (RuleBook.matching_beside_audit none (narrowedTo ownOrOfOtherLevel)).2.2
  exact ⟨rfl, hissues, htokens, rfl,
    hmatching hissues _ _ _ _ (.head _) (.head _) rfl _ htokens⟩

/-- Rules without issues can have a query with an unknown operator: one that is written there, or
one that comes with a list out of the user's data. -/
theorem RuleBook.audit_overlooks_queries :
    ((narrowedTo [("level", .doc [("$near", .int32 1)])]).issues none = [] ∧
      entryTokens [("level", .doc [("$near", .int32 1)])] = [] ∧
      matchesFilter [("level", .int32 1)]
        (Document.expand [("level", .doc [("$near", .int32 1)])]
          (ruleContext [("id", .str "ann")])) = .error (.operatorNotFound "$near")) ∧
    ((narrowedTo [("$or", .str "%%user.rows")]).issues none = [] ∧
      NoneIsDocument (ruleContext [("rows", .array [.doc [("level", .doc [("$near", .int32 1)])]])])
        (entryTokens [("$or", .str "%%user.rows")]) ∧
      matchesFilter [("level", .int32 1)]
        (Document.expand [("$or", .str "%%user.rows")]
          (ruleContext [("rows", .array [.doc [("level", .doc [("$near", .int32 1)])]])])) =
        .error (.operatorNotFound "$near")) := by
  refine ⟨⟨rfl, rfl, rfl⟩, rfl, fun token htoken d => ?_, rfl⟩
  rw [List.mem_singleton.mp htoken]
  exact fun h => by cases h

end DocGuard
