import DocGuard.Proofs.Computation
import DocGuard.Proofs.ConditionReading
import DocGuard.Proofs.Token

/-!
# Conditions with their tokens replaced

Expansion leaves the names of entries alone, so that a condition still names the same paths, as
long as no token stands for a list of conditions or for one of them. A text that refers to a path
stands in an expanded value only if it was written there or came with a substitution.
-/

namespace DocGuard

open DocGuard.Text

/-! ## Values without references -/

mutual

/-- Whether no text in a value refers to a path. -/
def refersNowhere : Value → Bool
  | .doc entries => entriesReferNowhere entries
  | .array items => itemsReferNowhere items
  | .str s => !beginsWith s "$ref:"
  | _ => true

def entriesReferNowhere : List (String × Value) → Bool
  | [] => true
  | (_, v) :: rest => refersNowhere v && entriesReferNowhere rest

def itemsReferNowhere : List Value → Bool
  | [] => true
  | v :: rest => refersNowhere v && itemsReferNowhere rest

end

theorem entriesReferNowhere_iff {entries : Document} :
    entriesReferNowhere entries = true ↔ ∀ e ∈ entries, refersNowhere e.2 = true := by
  induction entries with
  | nil => simp [entriesReferNowhere]
  | cons e rest ih => simp [entriesReferNowhere, ih]

theorem itemsReferNowhere_iff {items : List Value} :
    itemsReferNowhere items = true ↔ ∀ v ∈ items, refersNowhere v = true := by
  induction items with
  | nil => simp [itemsReferNowhere]
  | cons v rest ih => simp [itemsReferNowhere, ih]

theorem refersNowhere_of_mem {v w : Value} (h : refersNowhere v = true) (hw : w ∈ v.contents) :
    refersNowhere w = true := by
  cases v with
  | doc entries =>
    obtain ⟨e, he, rfl⟩ := List.mem_map.mp hw
    exact entriesReferNowhere_iff.mp h e he
  | array items => exact itemsReferNowhere_iff.mp h w hw
  | _ => cases hw

theorem refersNowhere_of_holds {v w : Value} (h : refersNowhere v = true) (hw : v.Holds w) :
    refersNowhere w = true := by
  obtain ⟨address, haddress⟩ := hw
  induction address generalizing v with
  | nil =>
    cases haddress
    exact h
  | cons i rest ih =>
    obtain ⟨inner, hinner, hrest⟩ := Option.bind_eq_some_iff.mp haddress
    exact ih (refersNowhere_of_mem h (List.mem_of_getElem? hinner)) hrest

/-! ## Expansion -/

theorem refersNowhere_of_resolveToken {substitutions : Document} {token : String} {v : Value}
    (h : entriesReferNowhere substitutions = true)
    (hv : resolveToken substitutions token = some v) : refersNowhere v = true := by
  rcases (standsFor_of_resolveToken hv).null_or_holds with rfl | hholds
  · rfl
  · exact refersNowhere_of_holds (v := .doc substitutions) h hholds

theorem expandValue_text {substitutions : Document} {s : String} (h : (!isToken s) = true) :
    expandValue substitutions (.str s) = .str s := by
  cases htoken : isToken s with
  | true => rw [htoken] at h; cases h
  | false => rw [expandValue, htoken]; rfl

mutual

theorem refersNowhere_expandValue {substitutions : Document}
    (hsubstitutions : entriesReferNowhere substitutions = true) (v : Value)
    (h : refersNowhere v = true) :
    refersNowhere (expandValue substitutions v) = true := by
  cases v with
  | doc entries => exact entriesReferNowhere_expandEntries hsubstitutions entries h
  | array items => exact itemsReferNowhere_expandItems hsubstitutions items h
  | str s =>
    rw [expandValue]
    by_cases htoken : isToken s = true
    · rw [if_pos htoken]
      cases hresolved : resolveToken substitutions s with
      -- an unknown token stays the text that it is
      | none => exact h
      | some v => exact refersNowhere_of_resolveToken hsubstitutions hresolved
    · rw [if_neg htoken]
      exact h
  | _ => rfl

theorem entriesReferNowhere_expandEntries {substitutions : Document}
    (hsubstitutions : entriesReferNowhere substitutions = true) (entries : List (String × Value))
    (h : entriesReferNowhere entries = true) :
    entriesReferNowhere (expandEntries substitutions entries) = true := by
  match entries with
  | [] => rfl
  | (key, v) :: rest =>
    obtain ⟨hv, hrest⟩ := Bool.and_eq_true_iff.mp h
    exact Bool.and_eq_true_iff.mpr
      ⟨refersNowhere_expandValue hsubstitutions v hv,
        entriesReferNowhere_expandEntries hsubstitutions rest hrest⟩

theorem itemsReferNowhere_expandItems {substitutions : Document}
    (hsubstitutions : entriesReferNowhere substitutions = true) (items : List Value)
    (h : itemsReferNowhere items = true) :
    itemsReferNowhere (expandItems substitutions items) = true := by
  match items with
  | [] => rfl
  | v :: rest =>
    obtain ⟨hv, hrest⟩ := Bool.and_eq_true_iff.mp h
    exact Bool.and_eq_true_iff.mpr
      ⟨refersNowhere_expandValue hsubstitutions v hv,
        itemsReferNowhere_expandItems hsubstitutions rest hrest⟩

end

/-! ## What an expanded condition names -/

theorem refersNowhere_of_ofValue {v expected : Value} {demand : Demand}
    (h : refersNowhere v = true) (hdemand : Demand.ofValue v = .ok demand)
    (hexpected : demand.expected = some expected) : refersNowhere expected = true := by
  cases v with
  | doc entries =>
    change Demand.ofDocument entries = .ok demand at hdemand
    unfold Demand.ofDocument at hdemand
    cases hlong : Document.get? entries "op" with
    | some op =>
      rw [hlong] at hdemand
      cases op with
      | str name =>
        obtain ⟨_, _, hout⟩ := bind_eq_ok.mp hdemand
        cases hout
        exact refersNowhere_of_holds (v := .doc entries) h (Value.holds_of_get? hexpected)
      | _ => cases hdemand
    | none =>
      rw [hlong] at hdemand
      cases entries with
      | nil => cases hdemand
      | cons entry rest =>
        obtain ⟨_, _, hout⟩ := bind_eq_ok.mp hdemand
        cases hout
        cases hexpected
        exact (Bool.and_eq_true_iff.mp h).1
  | str s =>
    change (if s = "$required" ∨ s = "$exists" then Except.ok _ else Except.ok _) = _ at hdemand
    by_cases hpresent : s = "$required" ∨ s = "$exists"
    · rw [if_pos hpresent] at hdemand
      cases hdemand
      cases hexpected
      rfl
    · rw [if_neg hpresent] at hdemand
      cases hdemand
      cases hexpected
      exact h
  | _ => cases hdemand; cases hexpected; exact h

theorem leafReference?_of_refersNowhere {lead : PathLead} {spec : Value}
    (h : refersNowhere spec = true) : leafReference? lead spec = none := by
  unfold leafReference?
  cases hdemand : Demand.ofValue spec with
  | error e => rfl
  | ok demand =>
    obtain ⟨operator, expected, flags⟩ := demand
    cases expected with
    | none => rfl
    | some expected =>
      have hexpected := refersNowhere_of_ofValue h hdemand rfl
      cases expected with
      | str s =>
        change (afterLead? s "$ref:").map (resolvePath lead) = none
        unfold refersNowhere beginsWith at hexpected
        unfold afterLead?
        cases hlead : dropLead "$ref:".toList s.toList with
        | none => rfl
        | some rest => rw [hlead] at hexpected; cases hexpected
      | _ => rfl

mutual

theorem conditionReferences_of_referNowhere {lead : PathLead} (c : List (String × Value))
    (h : entriesReferNowhere c = true) : conditionReferences lead c = [] := by
  match c with
  | [] => rfl
  | (key, spec) :: rest =>
    obtain ⟨hspec, hrest⟩ := Bool.and_eq_true_iff.mp h
    rw [conditionReferences, entryReferences_of_refersNowhere key spec hspec,
      conditionReferences_of_referNowhere rest hrest, List.append_nil]

theorem entryReferences_of_refersNowhere {lead : PathLead} (key : String) (spec : Value)
    (h : refersNowhere spec = true) : entryReferences lead key spec = [] := by
  by_cases hkey : key = "$and" ∨ key = "$or"
  · cases spec with
    | array children =>
      rw [entryReferences, if_pos hkey]
      exact childReferences_of_referNowhere children h
    | _ => rw [entryReferences, if_pos hkey]; exact fun _ => Value.noConfusion
  · rw [entryReferences_leaf hkey, leafReference?_of_refersNowhere h, Option.toList_none]

theorem childReferences_of_referNowhere {lead : PathLead} (children : List Value)
    (h : itemsReferNowhere children = true) : childReferences lead children = [] := by
  match children with
  | [] => rfl
  | child :: rest =>
    obtain ⟨hchild, hrest⟩ := Bool.and_eq_true_iff.mp h
    have htail : childReferences lead rest = [] := childReferences_of_referNowhere rest hrest
    cases child with
    | doc condition =>
      rw [childReferences, conditionReferences_of_referNowhere condition hchild, htail,
        List.append_nil]
    | _ => exact htail

end

mutual

/-- Whether no token stands in a condition for a list of conditions or for one of them. -/
def listsWritten : List (String × Value) → Bool
  | [] => true
  | (key, spec) :: rest => listWritten key spec && listsWritten rest

/-- Whether no token stands under a key for a list of conditions or for one of them. -/
def listWritten (key : String) : Value → Bool
  | .array children => if key = "$and" ∨ key = "$or" then childrenWritten children else true
  | .str s => if key = "$and" ∨ key = "$or" then !isToken s else true
  | _ => true

/-- Whether no token stands in a list for a condition. -/
def childrenWritten : List Value → Bool
  | [] => true
  | .doc condition :: rest => listsWritten condition && childrenWritten rest
  | .str s :: rest => !isToken s && childrenWritten rest
  | _ :: rest => childrenWritten rest

end

mutual

/-- An expanded condition names the paths that it named before. -/
theorem conditionPaths_expand {lead : PathLead} {substitutions : Document}
    (c : List (String × Value)) (h : listsWritten c = true) :
    conditionPaths lead (expandEntries substitutions c) = conditionPaths lead c := by
  match c with
  | [] => rfl
  | (key, spec) :: rest =>
    obtain ⟨hspec, hrest⟩ := Bool.and_eq_true_iff.mp h
    rw [expandEntries, conditionPaths, conditionPaths, entryPaths_expand key spec hspec,
      conditionPaths_expand rest hrest]

theorem entryPaths_expand {lead : PathLead} {substitutions : Document} (key : String)
    (spec : Value) (h : listWritten key spec = true) :
    entryPaths lead key (expandValue substitutions spec) = entryPaths lead key spec := by
  by_cases hkey : key = "$and" ∨ key = "$or"
  · cases spec with
    | array children =>
      rw [listWritten, if_pos hkey] at h
      rw [expandValue, entryPaths, entryPaths, if_pos hkey, if_pos hkey]
      exact childPaths_expand children h
    | str s =>
      rw [listWritten, if_pos hkey] at h
      rw [expandValue_text h]
    | doc entries =>
      rw [expandValue, entryPaths_noList hkey fun _ => Value.noConfusion,
        entryPaths_noList hkey fun _ => Value.noConfusion]
    | _ => rfl
  · rw [entryPaths_leaf hkey, entryPaths_leaf hkey]

theorem childPaths_expand {lead : PathLead} {substitutions : Document} (children : List Value)
    (h : childrenWritten children = true) :
    childPaths lead (expandItems substitutions children) = childPaths lead children := by
  match children with
  | [] => rfl
  | child :: rest =>
    cases child with
    | doc condition =>
      obtain ⟨hcondition, hrest⟩ := Bool.and_eq_true_iff.mp h
      rw [expandItems, expandValue, childPaths, childPaths,
        conditionPaths_expand condition hcondition, childPaths_expand rest hrest]
    | str s =>
      obtain ⟨hs, hrest⟩ := Bool.and_eq_true_iff.mp h
      rw [expandItems, expandValue_text hs]
      exact childPaths_expand rest hrest
    | _ => exact childPaths_expand rest h

end

end DocGuard
