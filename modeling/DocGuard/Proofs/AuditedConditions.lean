import DocGuard.Proofs.Template
import DocGuard.Rules.Audit

/-!
# Conditions that pass the audit

An audit sees conditions before their tokens are replaced, and evaluation sees them afterwards. As
long as no token stands for a document, expansion leaves the names of entries and the lists of
conditions as they are, and puts in the place of a leaf only what is a leaf. A condition without
faults then fails in evaluation only by its patterns, which are not audited.
-/

namespace DocGuard

/-! ## Operators -/

namespace Operator

/-- No operator is written as a token. -/
theorem isToken_of_ofName {text : String} {op : Operator} (h : ofName text = .ok op) :
    isToken text = false := by
  unfold ofName ofName? at h
  cases hfound : list.find? fun op => op.name = text with
  | none => rw [hfound] at h; cases h
  | some found =>
    have hname := List.find?_some hfound
    rw [← of_decide_eq_true hname]
    cases found <;> rfl

end Operator

/-- Whether a computation fails, if at all, by a pattern. -/
def FailsOnlyByPattern {α : Type} (x : Except Fault α) : Prop :=
  ∀ e, x = .error e → ∃ defect, e = .pattern defect

namespace FailsOnlyByPattern

theorem of_ok {α : Type} (a : α) : FailsOnlyByPattern (.ok a) := fun _ h => by cases h

theorem bind {α β : Type} {x : Except Fault α} {f : α → Except Fault β}
    (hx : FailsOnlyByPattern x) (hf : ∀ a, FailsOnlyByPattern (f a)) :
    FailsOnlyByPattern (x >>= f) := by
  cases x with
  | error e =>
    intro e' h
    cases h
    exact hx e rfl
  | ok a => exact hf a

theorem matchesPattern (letters subject : String) (v : Value) :
    FailsOnlyByPattern (DocGuard.matchesPattern letters subject v) := by
  refine bind (fun e h => ?_) fun parts => ?_
  · cases v <;> cases h
    all_goals exact ⟨_, rfl⟩
  · obtain ⟨source, flags⟩ := parts
    dsimp only
    cases Pattern.Regex.read source (switches flags) with
    | ok r => exact of_ok _
    | error defect =>
      intro e h
      cases h
      exact ⟨_, rfl⟩

theorem matchesAny (letters subject : String) (vs : List Value) :
    FailsOnlyByPattern (DocGuard.matchesAny letters subject vs) := by
  induction vs with
  | nil => exact of_ok false
  | cons v rest ih =>
    refine bind (matchesPattern letters subject v) fun here => ?_
    cases here with
    | true => exact of_ok true
    | false => exact ih

theorem apply (op : Operator) (actual expected flags : Option Value) :
    FailsOnlyByPattern (op.apply actual expected flags) := by
  cases op with
  | pattern => exact matchesAny _ _ _
  | present =>
    rcases expected with _ | v
    · exact of_ok false
    · cases v <;> exact of_ok _
  | _ => exact of_ok _

end FailsOnlyByPattern

/-! ## Tokens -/

mutual

def valueTokens : Value → List String
  | .doc entries => entryTokens entries
  | .array items => itemTokens items
  | .str s => if isToken s then [s] else []
  | _ => []

def entryTokens : List (String × Value) → List String
  | [] => []
  | (_, v) :: rest => valueTokens v ++ entryTokens rest

def itemTokens : List Value → List String
  | [] => []
  | v :: rest => valueTokens v ++ itemTokens rest

end

/-- Whether none of some tokens stands for a document. -/
def NoneIsDocument (substitutions : Document) (tokens : List String) : Prop :=
  ∀ token ∈ tokens, ∀ d, resolveToken substitutions token ≠ some (.doc d)

theorem NoneIsDocument.left {substitutions : Document} {p q : List String}
    (h : NoneIsDocument substitutions (p ++ q)) : NoneIsDocument substitutions p :=
  fun token htoken => h token (List.mem_append_left q htoken)

theorem NoneIsDocument.right {substitutions : Document} {p q : List String}
    (h : NoneIsDocument substitutions (p ++ q)) : NoneIsDocument substitutions q :=
  fun token htoken => h token (List.mem_append_right p htoken)

theorem get?_expandEntries (substitutions d : Document) (key : String) :
    Document.get? (expandEntries substitutions d) key =
      (d.get? key).map (expandValue substitutions) := by
  induction d with
  | nil => rfl
  | cons entry rest ih =>
    obtain ⟨k, v⟩ := entry
    rw [expandEntries, Document.get?_cons, Document.get?_cons, ih]
    by_cases hkey : k = key
    · rw [if_pos hkey, if_pos hkey]; rfl
    · rw [if_neg hkey, if_neg hkey]

/-- Only a document is expanded to one, as long as no token stands for one. -/
theorem expandValue_ne_doc {substitutions : Document} {v : Value} (hv : ∀ d, v ≠ .doc d)
    (htokens : NoneIsDocument substitutions (valueTokens v)) (d : Document) :
    expandValue substitutions v ≠ .doc d := by
  cases v with
  | doc entries => exact absurd rfl (hv entries)
  | str s =>
    rw [expandValue]
    by_cases htoken : isToken s = true
    · rw [if_pos htoken]
      have hresolved := htokens s (by rw [valueTokens, if_pos htoken]; exact .head _) d
      cases hvalue : resolveToken substitutions s with
      -- a token that is not known stays a text
      | none => exact Value.noConfusion
      | some v =>
        rw [hvalue] at hresolved
        exact fun hdoc => hresolved (congrArg some hdoc)
    · rw [if_neg htoken]
      exact Value.noConfusion
  | _ => exact Value.noConfusion

/-! ## Leaves -/

theorem exists_demand {v : Value} (h : ∀ d, v ≠ .doc d) :
    ∃ demand, Demand.ofValue v = .ok demand := by
  cases v with
  | doc d => exact absurd rfl (h d)
  | str s =>
    by_cases hs : s = "$required" ∨ s = "$exists"
    · exact ⟨_, if_pos hs⟩
    · exact ⟨_, if_neg hs⟩
  | _ => exact ⟨_, rfl⟩

theorem exists_demand_expandEntries {substitutions d : Document} {demand : Demand}
    (h : Demand.ofDocument d = .ok demand) :
    ∃ demand, Demand.ofDocument (expandEntries substitutions d) = .ok demand := by
  unfold Demand.ofDocument at h ⊢
  rw [get?_expandEntries]
  cases hlong : d.get? "op" with
  | some v =>
    rw [hlong] at h
    cases v with
    | str name =>
      -- the operator is named by a text, which stays as it is
      obtain ⟨op, hop, -⟩ := bind_eq_ok.mp h
      have htext : (!isToken name) = true := by rw [Operator.isToken_of_ofName hop]; rfl
      rw [Option.map_some, expandValue_text htext]
      exact ⟨_, bind_eq_ok.mpr ⟨op, hop, rfl⟩⟩
    | _ => cases h
  | none =>
    rw [hlong] at h
    cases d with
    | nil => cases h
    | cons entry rest =>
      -- the operator is the name of the first entry
      obtain ⟨op, hop, -⟩ := bind_eq_ok.mp h
      exact ⟨_, bind_eq_ok.mpr ⟨op, hop, rfl⟩⟩

theorem exists_demand_of_leafFaults {spec : Value} (h : leafFaults spec = []) :
    ∃ demand, Demand.ofValue spec = .ok demand := by
  unfold leafFaults at h
  cases hdemand : Demand.ofValue spec with
  | ok demand => exact ⟨demand, rfl⟩
  | error e => rw [hdemand] at h; cases h

/-- A leaf without faults still makes a demand when its tokens are replaced. -/
theorem exists_demand_expandValue {substitutions : Document} {spec : Value}
    (hfaults : leafFaults spec = [])
    (htokens : NoneIsDocument substitutions (valueTokens spec)) :
    ∃ demand, Demand.ofValue (expandValue substitutions spec) = .ok demand := by
  cases spec with
  | doc entries =>
    obtain ⟨demand, hdemand⟩ := exists_demand_of_leafFaults hfaults
    exact exists_demand_expandEntries hdemand
  | _ =>
    -- any value but a document makes a demand
    exact exists_demand (expandValue_ne_doc (fun _ => Value.noConfusion) htokens)

theorem checkLeaf_expandValue {lead : PathLead} {substitutions data : Document} {path : String}
    {spec : Value} (hfaults : leafFaults spec = [])
    (htokens : NoneIsDocument substitutions (valueTokens spec)) :
    FailsOnlyByPattern (checkLeaf lead data path (expandValue substitutions spec)) := by
  obtain ⟨demand, hdemand⟩ := exists_demand_expandValue hfaults htokens
  unfold checkLeaf
  rw [hdemand]
  exact .apply demand.operator _ _ _

/-! ## Conditions -/

theorem entryFaults_leaf {key : String} (hkey : ¬ (key = "$and" ∨ key = "$or")) (spec : Value) :
    entryFaults key spec = leafFaults spec := by
  cases spec with
  | array children => rw [entryFaults, if_neg hkey]
  | _ => rw [entryFaults, if_neg hkey]; exact fun _ => Value.noConfusion

theorem entryFaults_noList {key : String} {spec : Value} (hkey : key = "$and" ∨ key = "$or")
    (hspec : ∀ children, spec ≠ .array children) :
    entryFaults key spec = [.rule (.listExpectedGot key spec)] := by
  rw [entryFaults, if_pos hkey]
  exact hspec

theorem requireConditions_expandItems {substitutions : Document} {key : String}
    {children : List Value} (h : childFaults key children = []) :
    requireConditions key (expandItems substitutions children) = .ok () := by
  induction children with
  | nil => rfl
  | cons child rest ih =>
    cases child with
    | doc condition => exact ih (List.append_eq_nil_iff.mp h).2
    | _ => cases h

mutual

theorem checkCondition_expand {lead : PathLead} {substitutions data : Document}
    (c : List (String × Value)) (hfaults : conditionFaults c = [])
    (htokens : NoneIsDocument substitutions (entryTokens c)) :
    FailsOnlyByPattern (checkCondition lead data (expandEntries substitutions c)) := by
  match c with
  | [] => exact .of_ok true
  | (key, spec) :: rest =>
    obtain ⟨hspec, hrest⟩ := List.append_eq_nil_iff.mp hfaults
    refine .bind (checkEntry_expand key spec hspec htokens.left) fun here => ?_
    cases here with
    | true => exact checkCondition_expand rest hrest htokens.right
    | false => exact .of_ok false

theorem checkEntry_expand {lead : PathLead} {substitutions data : Document} (key : String)
    (spec : Value) (hfaults : entryFaults key spec = [])
    (htokens : NoneIsDocument substitutions (valueTokens spec)) :
    FailsOnlyByPattern (checkEntry lead data key (expandValue substitutions spec)) := by
  by_cases hkey : key = "$and" ∨ key = "$or"
  · cases spec with
    | array children =>
      -- expansion leaves the list a list, so evaluation goes through the same children
      rw [entryFaults, if_pos hkey] at hfaults
      have hlist : requireConditions key (expandItems substitutions children) = .ok () :=
        requireConditions_expandItems hfaults
      have hall : FailsOnlyByPattern (checkAll lead data (expandItems substitutions children)) :=
        checkAll_expand children hfaults htokens
      have hany : FailsOnlyByPattern (checkAny lead data (expandItems substitutions children)) :=
        checkAny_expand children hfaults htokens
      rw [expandValue, checkEntry, hlist]
      rcases hkey with rfl | rfl
      · exact hall
      · change FailsOnlyByPattern (if (expandItems substitutions children).isEmpty then .ok true
          else checkAny lead data (expandItems substitutions children))
        cases (expandItems substitutions children).isEmpty with
        | true => exact .of_ok true
        | false => exact hany
    | _ =>
      -- a token could stand for a list, but the audit has already refused it here
      rw [entryFaults_noList hkey fun _ => Value.noConfusion] at hfaults
      cases hfaults
  · rw [entryFaults_leaf hkey] at hfaults
    rw [checkEntry_leaf hkey]
    exact checkLeaf_expandValue hfaults htokens

theorem checkAll_expand {lead : PathLead} {substitutions data : Document} {key : String}
    (children : List Value) (hfaults : childFaults key children = [])
    (htokens : NoneIsDocument substitutions (itemTokens children)) :
    FailsOnlyByPattern (checkAll lead data (expandItems substitutions children)) := by
  match children with
  | [] => exact .of_ok true
  | child :: rest =>
    cases child with
    | doc condition =>
      obtain ⟨hcondition, hrest⟩ := List.append_eq_nil_iff.mp hfaults
      refine .bind (checkCondition_expand condition hcondition htokens.left) fun here => ?_
      cases here with
      | true => exact checkAll_expand rest hrest htokens.right
      | false => exact .of_ok false
    | _ => cases hfaults

theorem checkAny_expand {lead : PathLead} {substitutions data : Document} {key : String}
    (children : List Value) (hfaults : childFaults key children = [])
    (htokens : NoneIsDocument substitutions (itemTokens children)) :
    FailsOnlyByPattern (checkAny lead data (expandItems substitutions children)) := by
  match children with
  | [] => exact .of_ok false
  | child :: rest =>
    cases child with
    | doc condition =>
      obtain ⟨hcondition, hrest⟩ := List.append_eq_nil_iff.mp hfaults
      refine .bind (checkCondition_expand condition hcondition htokens.left) fun here => ?_
      cases here with
      | true => exact .of_ok true
      | false => exact checkAny_expand rest hrest htokens.right
    | _ => cases hfaults

end

/-! ## Rules -/

/-- Whether a role states a permission: for a kind of access, or as one of its gates. -/
inductive Role.States (r : Role) : Permission → Prop where
  | search {p : Permission} (h : r.search = some p) : r.States p
  | read {p : Permission} (h : r.read = some p) : r.States p
  | write {p : Permission} (h : r.write = some p) : r.States p
  | insert {p : Permission} (h : r.insert = some p) : r.States p
  | delete {p : Permission} (h : r.delete = some p) : r.States p
  | readGate {p : Permission} {gates : DocumentFilters} (hgates : r.filters = some gates)
      (h : gates.read = some p) : r.States p
  | writeGate {p : Permission} {gates : DocumentFilters} (hgates : r.filters = some gates)
      (h : gates.write = some p) : r.States p

/-- Whether a condition stands in a rule book: it says when a filter or a role applies, or it is a
permission that no function decides. -/
inductive RuleBook.States (book : RuleBook) : Document → Prop where
  | filter {name : String} {rules : CollectionRules} {f : RowFilter}
      (hrules : (name, rules) ∈ book) (hf : f ∈ rules.filters) : book.States f.applyWhen
  | role {name : String} {rules : CollectionRules} {r : Role}
      (hrules : (name, rules) ∈ book) (hr : r ∈ rules.roles) : book.States r.applyWhen
  | permission {name : String} {rules : CollectionRules} {r : Role} {c : Document}
      (hrules : (name, rules) ∈ book) (hr : r ∈ rules.roles) (hc : r.States (.condition c))
      (hfree : functionReference? c = none) : book.States c

theorem Role.States.mem_permissions {r : Role} {p : Permission} (h : r.States p) :
    p ∈ r.permissions := by
  unfold Role.permissions
  simp only [List.mem_append, Option.mem_toList]
  cases h with
  | search h => simp only [h, true_or]
  | read h => simp only [h, true_or, or_true]
  | write h => simp only [h, true_or, or_true]
  | insert h => simp only [h, true_or, or_true]
  | delete h => simp only [h, true_or, or_true]
  | readGate hgates h =>
    right
    rw [hgates]
    simp only [h, Option.toList_some, List.mem_append, List.mem_singleton, true_or]
  | writeGate hgates h =>
    right
    rw [hgates]
    simp only [h, Option.toList_some, List.mem_append, List.mem_singleton, or_true]

theorem conditionFaults_of_states {registry : Option Registry} {book : RuleBook} {c : Document}
    (haudit : book.issues registry = []) (hstates : book.States c) : conditionFaults c = [] := by
  have hrules : ∀ name rules, (name, rules) ∈ book →
      rules.filters.flatMap RowFilter.issues = [] ∧
        rules.roles.flatMap (Role.issues registry) = [] := by
    intro name rules hmem
    have hissues := List.flatMap_eq_nil_iff.mp haudit (name, rules) hmem
    exact List.append_eq_nil_iff.mp (List.map_eq_nil_iff.mp hissues)
  have hrole : ∀ name rules r, (name, rules) ∈ book → r ∈ rules.roles →
      conditionFaults r.applyWhen = [] ∧
        r.permissions.flatMap (Permission.faults registry) = [] := by
    intro name rules r hmem hr
    have hissues := List.flatMap_eq_nil_iff.mp (hrules name rules hmem).2 r hr
    -- the issues of a role are the faults of its condition and those of its permissions
    obtain ⟨happly, hpermissions⟩ := List.append_eq_nil_iff.mp hissues
    exact ⟨List.map_eq_nil_iff.mp happly, List.map_eq_nil_iff.mp hpermissions⟩
  cases hstates with
  | filter hmem hf =>
    exact List.map_eq_nil_iff.mp (List.flatMap_eq_nil_iff.mp (hrules _ _ hmem).1 _ hf)
  | role hmem hr => exact (hrole _ _ _ hmem hr).1
  | permission hmem hr hc hfree =>
    have hfaults := List.flatMap_eq_nil_iff.mp (hrole _ _ _ hmem hr).2 _ hc.mem_permissions
    unfold Permission.faults at hfaults
    simp only [hfree] at hfaults
    exact hfaults

/-- The audit is sound for conditions: in rules without issues, a condition whose tokens stand for
no documents is checked without a missing operator and without a defect of the rule. -/
theorem checkCondition_of_audit {registry : Option Registry} {book : RuleBook}
    {c substitutions : Document} (haudit : book.issues registry = []) (hstates : book.States c)
    (htokens : NoneIsDocument substitutions (entryTokens c)) (lead : PathLead) (data : Document) :
    (∀ name, checkCondition lead data (c.expand substitutions) ≠ .error (.operatorNotFound name)) ∧
      ∀ defect, checkCondition lead data (c.expand substitutions) ≠ .error (.rule defect) := by
  have hfails : FailsOnlyByPattern (checkCondition lead data (c.expand substitutions)) :=
    checkCondition_expand c (conditionFaults_of_states haudit hstates) htokens
  constructor
  · intro name herror
    obtain ⟨defect, hdefect⟩ := hfails _ herror
    cases hdefect
  · intro defect herror
    obtain ⟨_, hdefect⟩ := hfails _ herror
    cases hdefect

/-- A condition on the owner or the level, with tokens for what the user has. -/
def ownOrOfLevel : Document :=
  [("$or", .array [
    .doc [("owner", .str "%%user.id")],
    .doc [("level", .doc [("$in", .array [.str "%%user.level", .int32 0])])]])]

def readingByLevel : RuleBook :=
  [("todos", ⟨[{ Role.bare "reader" with read := some (.condition ownOrOfLevel) }], []⟩)]

/-- For a user without a level the condition is checked, and so is what it says of any data. -/
theorem checkCondition_ownOrOfLevel :
    let user : Document := [("%%user", .doc [("id", .str "ann")])]
    readingByLevel.issues none = [] ∧ readingByLevel.States ownOrOfLevel ∧
      NoneIsDocument user (entryTokens ownOrOfLevel) ∧
      checkCondition none [("owner", .str "bob"), ("level", .int32 0)] (ownOrOfLevel.expand user) =
        .ok true ∧
      ∀ lead data,
        (∀ name, checkCondition lead data (ownOrOfLevel.expand user) ≠
          .error (.operatorNotFound name)) ∧
        ∀ defect, checkCondition lead data (ownOrOfLevel.expand user) ≠ .error (.rule defect) := by
  intro user
  have haudit : readingByLevel.issues none = [] := rfl
  have hstates : readingByLevel.States ownOrOfLevel :=
    .permission (.head _) (.head _) (.read rfl) rfl
  have htokens : NoneIsDocument user (entryTokens ownOrOfLevel) := by
    intro token htoken d
    have hlist : entryTokens ownOrOfLevel = ["%%user.id", "%%user.level"] := rfl
    have hid : resolveToken user "%%user.id" = some (.str "ann") := rfl
    have hlevel : resolveToken user "%%user.level" = some .null := rfl
    rw [hlist] at htoken
    rcases List.mem_cons.mp htoken with rfl | hrest
    · rw [hid]
      exact fun h => by cases h
    · cases List.mem_singleton.mp hrest
      rw [hlevel]
      exact fun h => by cases h
  exact ⟨haudit, hstates, htokens, rfl, checkCondition_of_audit haudit hstates htokens⟩

end DocGuard
