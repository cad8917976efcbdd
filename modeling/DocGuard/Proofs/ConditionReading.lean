import DocGuard.Condition.Check

/-!
# What conditions read

A condition reads its data at the paths that it names and at those that its expected values refer
to, and nowhere else: data that answer alike at all of them cannot be told apart by it.
-/

namespace DocGuard

open DocGuard.Text

/-! ## References -/

/-- The path that an expected value refers to. -/
def referredPath? (lead : PathLead) : Option Value → Option String
  | some (.str s) => (afterLead? s "$ref:").map (resolvePath lead)
  | _ => none

/-- The path that a leaf refers to besides the one it names. -/
def leafReference? (lead : PathLead) (spec : Value) : Option String :=
  match Demand.ofValue spec with
  | .ok demand => referredPath? lead demand.expected
  | .error _ => none

mutual

/-- The paths that a condition refers to, in order. -/
def conditionReferences (lead : PathLead) : List (String × Value) → List String
  | [] => []
  | (key, spec) :: rest => entryReferences lead key spec ++ conditionReferences lead rest

def entryReferences (lead : PathLead) (key : String) : Value → List String
  | .array children =>
    if key = "$and" ∨ key = "$or" then childReferences lead children
    else (leafReference? lead (.array children)).toList
  | spec => if key = "$and" ∨ key = "$or" then [] else (leafReference? lead spec).toList

def childReferences (lead : PathLead) : List Value → List String
  | [] => []
  | .doc condition :: rest => conditionReferences lead condition ++ childReferences lead rest
  | _ :: rest => childReferences lead rest

end

theorem followReference_eq_self {lead : PathLead} {expected : Option Value}
    (h : referredPath? lead expected = none) (data : Document) :
    followReference lead data expected = expected := by
  unfold followReference
  cases expected with
  | none => rfl
  | some spec =>
    cases spec with
    | str s => simp only [Option.map_eq_none_iff.mp h]
    | _ => rfl

/-- Whether a path is read as it is written where no lead is given, and names no logical key. -/
def isPlainPath (path : String) : Bool :=
  !beginsWith path "^" && !beginsWith path "$"

theorem resolvePath_of_plain {path : String} (h : isPlainPath path = true) :
    resolvePath none path = path := by
  simp only [isPlainPath, Bool.and_eq_true, Bool.not_eq_true'] at h
  rw [resolvePath, afterLead?_eq_none h.1, h.2]
  rfl

theorem not_logical_of_plain {path : String} (h : isPlainPath path = true) :
    ¬ (path = "$and" ∨ path = "$or" ∨ path = "$nor") := by
  rintro (rfl | rfl | rfl) <;> cases h

/-! ## Agreement -/

/-- Two documents agree on paths if they hold the same at each of them. -/
def AgreeOn (paths : List String) (a b : Document) : Prop :=
  ∀ path ∈ paths, a.getPath path = b.getPath path

theorem AgreeOn.left {p q : List String} {a b : Document} (h : AgreeOn (p ++ q) a b) :
    AgreeOn p a b :=
  fun path hpath => h path (List.mem_append_left q hpath)

theorem AgreeOn.right {p q : List String} {a b : Document} (h : AgreeOn (p ++ q) a b) :
    AgreeOn q a b :=
  fun path hpath => h path (List.mem_append_right p hpath)

theorem followReference_congr {lead : PathLead} {a b : Document} {expected : Option Value}
    (h : AgreeOn (referredPath? lead expected).toList a b) :
    followReference lead a expected = followReference lead b expected := by
  unfold followReference
  cases expected with
  | none => rfl
  | some spec =>
    cases spec with
    | str s =>
      unfold referredPath? at h
      cases hpath : afterLead? s "$ref:" with
      | none => simp only [hpath]
      | some path =>
        simp only [hpath] at h ⊢
        exact h (resolvePath lead path) (List.mem_singleton_self _)
    | _ => rfl

/-- A leaf reads the path that it names and the one that it refers to. -/
theorem checkLeaf_congr {lead : PathLead} {a b : Document} {path : String} {spec : Value}
    (hpath : AgreeOn [resolvePath lead path] a b)
    (hreference : AgreeOn (leafReference? lead spec).toList a b) :
    checkLeaf lead a path spec = checkLeaf lead b path spec := by
  unfold checkLeaf
  unfold leafReference? at hreference
  cases hdemand : Demand.ofValue spec with
  | error e => rfl
  | ok demand =>
    simp only [hdemand] at hreference
    have hactual := hpath _ (List.mem_singleton_self _)
    have hexpected := followReference_congr hreference
    change demand.operator.apply _ _ _ = demand.operator.apply _ _ _
    rw [hactual, hexpected]

/-- Under any other key than the logical ones stands a leaf. -/
theorem checkEntry_leaf {lead : PathLead} {key : String} (hkey : ¬ (key = "$and" ∨ key = "$or"))
    (data : Document) (spec : Value) :
    checkEntry lead data key spec = checkLeaf lead data key spec := by
  obtain ⟨hand, hor⟩ := not_or.mp hkey
  cases spec with
  | array children => rw [checkEntry, if_neg hand, if_neg hor]
  | _ => rw [checkEntry, if_neg hkey]; exact fun _ => Value.noConfusion

/-- Under a logical key stands a list. -/
theorem checkEntry_noList {lead : PathLead} {key : String} {spec : Value}
    (hkey : key = "$and" ∨ key = "$or") (hspec : ∀ children, spec ≠ .array children)
    (data : Document) :
    checkEntry lead data key spec = .error (.rule (.listExpected key)) := by
  rw [checkEntry, if_pos hkey]
  exact hspec

theorem entryPaths_leaf {lead : PathLead} {key : String} (hkey : ¬ (key = "$and" ∨ key = "$or"))
    (spec : Value) : entryPaths lead key spec = [resolvePath lead key] := by
  cases spec with
  | array children => rw [entryPaths, if_neg hkey]
  | _ => rw [entryPaths, if_neg hkey]; exact fun _ => Value.noConfusion

theorem entryPaths_noList {lead : PathLead} {key : String} {spec : Value}
    (hkey : key = "$and" ∨ key = "$or") (hspec : ∀ children, spec ≠ .array children) :
    entryPaths lead key spec = [] := by
  rw [entryPaths, if_pos hkey]
  exact hspec

theorem entryReferences_leaf {lead : PathLead} {key : String}
    (hkey : ¬ (key = "$and" ∨ key = "$or")) (spec : Value) :
    entryReferences lead key spec = (leafReference? lead spec).toList := by
  cases spec with
  | array children => rw [entryReferences, if_neg hkey]
  | _ => rw [entryReferences, if_neg hkey]; exact fun _ => Value.noConfusion

mutual

/-- A condition reads the paths that it names and those that it refers to, and nothing else. -/
theorem checkCondition_congr {lead : PathLead} {a b : Document} (c : List (String × Value))
    (hpaths : AgreeOn (conditionPaths lead c) a b)
    (hreferences : AgreeOn (conditionReferences lead c) a b) :
    checkCondition lead a c = checkCondition lead b c := by
  match c with
  | [] => rfl
  | (key, spec) :: rest =>
    have hhead := checkEntry_congr key spec hpaths.left hreferences.left
    have htail := checkCondition_congr rest hpaths.right hreferences.right
    rw [checkCondition, checkCondition, hhead, htail]

theorem checkEntry_congr {lead : PathLead} {a b : Document} (key : String) (spec : Value)
    (hpaths : AgreeOn (entryPaths lead key spec) a b)
    (hreferences : AgreeOn (entryReferences lead key spec) a b) :
    checkEntry lead a key spec = checkEntry lead b key spec := by
  by_cases hkey : key = "$and" ∨ key = "$or"
  · cases spec with
    | array children =>
      rw [entryPaths, if_pos hkey] at hpaths
      rw [entryReferences, if_pos hkey] at hreferences
      have hall := checkAll_congr children hpaths hreferences
      have hany := checkAny_congr children hpaths hreferences
      rw [checkEntry, checkEntry, hall, hany]
      rcases hkey with rfl | rfl <;> rfl
    | _ =>
      rw [checkEntry_noList hkey, checkEntry_noList hkey] <;> exact fun _ => Value.noConfusion
  -- under any other key stands a leaf, also where its value is a list
  · rw [entryPaths_leaf hkey] at hpaths
    rw [entryReferences_leaf hkey] at hreferences
    rw [checkEntry_leaf hkey, checkEntry_leaf hkey, checkLeaf_congr hpaths hreferences]

theorem checkAll_congr {lead : PathLead} {a b : Document} (children : List Value)
    (hpaths : AgreeOn (childPaths lead children) a b)
    (hreferences : AgreeOn (childReferences lead children) a b) :
    checkAll lead a children = checkAll lead b children := by
  match children with
  | [] => rfl
  | child :: rest =>
    cases child with
    | doc condition =>
      have hhead := checkCondition_congr condition hpaths.left hreferences.left
      have htail := checkAll_congr rest hpaths.right hreferences.right
      rw [checkAll, checkAll, hhead, htail]
    | _ => exact checkAll_congr rest hpaths hreferences

theorem checkAny_congr {lead : PathLead} {a b : Document} (children : List Value)
    (hpaths : AgreeOn (childPaths lead children) a b)
    (hreferences : AgreeOn (childReferences lead children) a b) :
    checkAny lead a children = checkAny lead b children := by
  match children with
  | [] => rfl
  | child :: rest =>
    cases child with
    | doc condition =>
      have hhead := checkCondition_congr condition hpaths.left hreferences.left
      have htail := checkAny_congr rest hpaths.right hreferences.right
      rw [checkAny, checkAny, hhead, htail]
    | _ => exact checkAny_congr rest hpaths hreferences

end

end DocGuard
