import DocGuard.Proofs.AuditedConditions
import DocGuard.Rules.Evaluation

/-!
# Requirements of permissions

The entries of a condition are requirements: it holds exactly if all of them do, so a condition
with more of them grants no more. A reference to a function is no such requirement. Its function
decides for the whole condition, so an entry that brings one in can also lift a refusal.
-/

namespace DocGuard

/-! ## Conditions as conjunctions -/

section

variable {lead : PathLead} {data : Document} {c c' : List (String × Value)}

/-- A condition holds exactly if each of its entries does. -/
theorem checkCondition_eq_true_iff :
    checkCondition lead data c = .ok true ↔
      ∀ entry ∈ c, checkEntry lead data entry.1 entry.2 = .ok true := by
  induction c with
  | nil => simp [checkCondition]
  | cons entry rest ih =>
    obtain ⟨key, spec⟩ := entry
    rw [List.forall_mem_cons, ← ih, checkCondition, bind_eq_ok]
    constructor
    · rintro ⟨here, hhere, hrest⟩
      -- what comes after an entry that does not hold is not looked at
      cases here with
      | true => exact ⟨hhere, hrest⟩
      | false => cases hrest
    · intro h
      exact ⟨true, h.1, h.2⟩

theorem checkCondition_of_subset (hsub : c ⊆ c') (h : checkCondition lead data c' = .ok true) :
    checkCondition lead data c = .ok true := by
  rw [checkCondition_eq_true_iff] at h ⊢
  intro entry hentry
  exact h entry (hsub hentry)

end

theorem expandEntries_eq_map (substitutions : Document) (entries : List (String × Value)) :
    expandEntries substitutions entries =
      entries.map fun entry => (entry.1, expandValue substitutions entry.2) := by
  induction entries with
  | nil => rfl
  | cons entry rest ih => rw [expandEntries, List.map_cons, ih]

theorem expandEntries_subset {c c' : List (String × Value)} (substitutions : Document)
    (h : c ⊆ c') : expandEntries substitutions c ⊆ expandEntries substitutions c' := by
  rw [expandEntries_eq_map, expandEntries_eq_map]
  exact List.map_subset _ h

/-! ## References to functions -/

/-- Whether an entry under a key would be the function reference of a condition: the key for a true
answer goes before the one for a false answer. -/
def TakesOver (key : String) (c : Document) : Prop :=
  key = trueKey ∨ (key = falseKey ∧ c.get? trueKey = none)

theorem trueKey_ne_falseKey : trueKey ≠ falseKey := by
  decide

theorem functionReference?_expand (substitutions c : Document) :
    functionReference? (c.expand substitutions) =
      (functionReference? c).map (Prod.map (expandValue substitutions) id) := by
  unfold functionReference? Document.expand
  rw [get?_expandEntries, get?_expandEntries]
  cases c.get? trueKey with
  | some reference => rfl
  | none => cases c.get? falseKey <;> rfl

section

variable {front back : Document} {key other : String}

theorem Document.get?_between_of_ne (spec : Value) (h : other ≠ key) :
    Document.get? (front ++ (key, spec) :: back) other = Document.get? (front ++ back) other := by
  induction front with
  | nil => exact if_neg h.symm
  | cons entry rest ih =>
    obtain ⟨k, v⟩ := entry
    rw [List.cons_append, List.cons_append, get?_cons, get?_cons, ih]

theorem Document.get?_between_self (spec : Value) (h : key ∉ Document.keys (front ++ back)) :
    Document.get? (front ++ (key, spec) :: back) key = some spec := by
  induction front with
  | nil => exact if_pos rfl
  | cons entry rest ih =>
    obtain ⟨k, v⟩ := entry
    obtain ⟨hk, hrest⟩ := not_or.mp (List.mem_cons.not.mp h)
    rw [List.cons_append, get?_cons, if_neg (Ne.symm hk), ih hrest]

theorem functionReference?_between (spec : Value) (h : ¬ TakesOver key (front ++ back)) :
    functionReference? (front ++ (key, spec) :: back) = functionReference? (front ++ back) := by
  obtain ⟨htrue, hfalse⟩ := not_or.mp h
  unfold functionReference?
  rw [Document.get?_between_of_ne spec (Ne.symm htrue)]
  cases hheld : Document.get? (front ++ back) trueKey with
  -- a reference that expects a true answer hides the other one
  | some reference => rfl
  | none =>
    have hkey : falseKey ≠ key := fun heq => hfalse ⟨heq.symm, hheld⟩
    rw [Document.get?_between_of_ne spec hkey]

theorem functionReference?_takesOver (spec : Value) (hkey : key ∉ Document.keys (front ++ back))
    (h : TakesOver key (front ++ back)) :
    functionReference? (front ++ (key, spec) :: back) = some (spec, key == trueKey) := by
  unfold functionReference?
  rcases h with rfl | ⟨rfl, hnone⟩
  · rw [Document.get?_between_self spec hkey, beq_self_eq_true]
  · rw [Document.get?_between_of_ne spec trueKey_ne_falseKey, hnone,
      Document.get?_between_self spec hkey]
    rfl

end

namespace Inquiry

variable {q : Inquiry} {caller : Caller} {c d : Document}

/-- Of a condition with a function reference nothing but the reference matters. -/
theorem holds_congr (h : functionReference? c = functionReference? d)
    (hsome : functionReference? d ≠ none) : q.holds caller c = q.holds caller d := by
  unfold holds
  simp only [functionReference?_expand, h]
  cases hreference : functionReference? d with
  | none => exact absurd hreference hsome
  | some reference => rfl

theorem holds_of_none (h : functionReference? c = none) :
    q.holds caller c =
      Traced.lift (checkCondition none q.substitutions (c.expand q.substitutions)) := by
  unfold holds
  simp only [functionReference?_expand, h, Option.map_none]

/-- More entries grant no more, as long as they leave the function reference as it is. -/
theorem holds_of_subset (hsub : c ⊆ d) (href : functionReference? d = functionReference? c)
    (h : (q.holds caller d).result = .ok true) : (q.holds caller c).result = .ok true := by
  by_cases hnone : functionReference? c = none
  · rw [holds_of_none (href.trans hnone)] at h
    rw [holds_of_none hnone]
    exact checkCondition_of_subset (expandEntries_subset q.substitutions hsub) h
  · rw [← holds_congr href hnone]
    exact h

/-- One more requirement never turns a refusal into a grant, wherever it is put in. The exception
is an entry that becomes the function reference of the condition: then the permission is what it
would be with this entry alone. -/
theorem permits_with_requirement (q : Inquiry) (caller : Caller) {front back : Document}
    {key : String} (hkey : key ∉ Document.keys (front ++ back)) (spec : Value) :
    (¬ TakesOver key (front ++ back) →
      (q.permits caller (some (.condition (front ++ back)))).result = .ok false →
      (q.permits caller (some (.condition (front ++ (key, spec) :: back)))).result ≠ .ok true) ∧
    (TakesOver key (front ++ back) →
      q.permits caller (some (.condition (front ++ (key, spec) :: back))) =
        q.permits caller (some (.condition [(key, spec)]))) := by
  constructor
  · intro hno hrefused hgranted
    have hsub : front ++ back ⊆ front ++ (key, spec) :: back :=
      ((List.sublist_cons_self _ back).append_left front).subset
    have href := functionReference?_between spec hno
    have hheld : (q.holds caller (front ++ back)).result = .ok true :=
      holds_of_subset hsub href hgranted
    rw [permits, hheld] at hrefused
    cases hrefused
  · intro htakes
    have hmany := functionReference?_takesOver spec hkey htakes
    have halone : functionReference? [(key, spec)] = some (spec, key == trueKey) := by
      change functionReference? ([] ++ (key, spec) :: []) = _
      apply functionReference?_takesOver spec List.not_mem_nil
      exact htakes.imp_right fun h => ⟨h.1, rfl⟩
    apply holds_congr (hmany.trans halone.symm)
    rw [halone]
    exact nofun

def toForeign : Inquiry :=
  .of [("owner", .str "bob"), ("open", .int32 1)] [("id", .str "ann")] .read

def ownDocument : Document :=
  [("%%root.owner", .str "%%user.id")]

/-- A foreign document stays closed if it is to be open as well. -/
theorem permits_own_and_open :
    "%%root.open" ∉ Document.keys (ownDocument ++ []) ∧
      ¬ TakesOver "%%root.open" (ownDocument ++ []) ∧
      (toForeign.permits (fun _ _ _ => .ok .null)
        (some (.condition (ownDocument ++ [])))).result = .ok false ∧
      (toForeign.permits (fun _ _ _ => .ok .null)
        (some (.condition (ownDocument ++ [("%%root.open", .int32 1)])))).result ≠ .ok true := by
  have hkey : "%%root.open" ∉ Document.keys (ownDocument ++ []) := by decide
  have hno : ¬ TakesOver "%%root.open" (ownDocument ++ []) := by
    rintro (h | ⟨h, -⟩)
    all_goals
      revert h
      decide
  have hrefused : (toForeign.permits (fun _ _ _ => .ok .null)
      (some (.condition (ownDocument ++ [])))).result = .ok false := rfl
  exact ⟨hkey, hno, hrefused,
    (permits_with_requirement toForeign _ hkey (.int32 1)).1 hno hrefused⟩

/-- A reference to a function that comes in addition opens a foreign document, also where a
function refused it before. -/
theorem permits_by_added_reference :
    ((toForeign.permits (fun _ _ _ => .ok (.bool true))
        (some (.condition ownDocument))).result = .ok false ∧
      (toForeign.permits (fun _ _ _ => .ok (.bool true))
        (some (.condition (ownDocument ++
          [(trueKey, .doc [("%function", .doc [("name", .str "audit")])])])))).result =
        .ok true) ∧
    ((toForeign.permits (fun _ _ _ => .ok (.bool true))
        (some (Permission.ofFunction "audit" false))).result = .ok false ∧
      (toForeign.permits (fun _ _ _ => .ok (.bool true))
        (some (.condition [(falseKey, .doc [("%function", .doc [("name", .str "audit")])]),
          (trueKey, .doc [("%function", .doc [("name", .str "audit")])])]))).result =
        .ok true) := by
  exact ⟨⟨rfl, rfl⟩, rfl, rfl⟩

end Inquiry

end DocGuard
