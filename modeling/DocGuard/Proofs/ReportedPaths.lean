import DocGuard.Proofs.Identification
import DocGuard.Proofs.Reordering
import DocGuard.Proofs.Requirements
import DocGuard.Proofs.SubstitutedText

/-!
# Reported paths

For a condition the paths are reported that it names. An expected value can refer to a further
path, which is read as well and not reported. So what stands at the reported paths decides a
condition together with what stands where it refers to, and in general not alone.
-/

namespace DocGuard

open DocGuard.Text

/-- Whether what is found at some paths decides a condition: it cannot tell data apart that agree
there, be it by its answer or by its fault. -/
def DecidedAt (lead : PathLead) (paths : List String) (c : Document) : Prop :=
  ∀ a b, AgreeOn paths a b → checkCondition lead a c = checkCondition lead b c

theorem decidedAt_of_references_subset {lead : PathLead} {paths : List String} {c : Document}
    (hpaths : conditionPaths lead c ⊆ paths) (hreferences : conditionReferences lead c ⊆ paths) :
    DecidedAt lead paths c := by
  intro a b h
  exact checkCondition_congr c (fun path hpath => h path (hpaths hpath))
    (fun path hpath => h path (hreferences hpath))

/-! ## Leaves that have to hold -/

/-- A leaf that has to hold for a condition to hold: an entry of the condition, or of one that has
to hold itself. -/
inductive RequiresLeaf (path : String) (spec : Value) : Document → Prop
  | entry {c : Document} : (path, spec) ∈ c → RequiresLeaf path spec c
  | under {c child : Document} {children : List Value} :
    ("$and", .array children) ∈ c → .doc child ∈ children → RequiresLeaf path spec child →
      RequiresLeaf path spec c

section

variable {lead : PathLead} {data : Document}

theorem holds_of_mem_of_checkAll {children : List Value} {child : Document}
    (h : checkAll lead data children = .ok true) (hchild : .doc child ∈ children) :
    checkCondition lead data child = .ok true := by
  rw [checkAll_eq_decideBy] at h
  exact forall_of_decideBy h _ (List.mem_map_of_mem hchild)

theorem RequiresLeaf.holds {path : String} {spec : Value} {c : Document}
    (h : RequiresLeaf path spec c) (hc : checkCondition lead data c = .ok true) :
    checkEntry lead data path spec = .ok true := by
  induction h with
  | entry hmem => exact checkCondition_eq_true_iff.mp hc _ hmem
  | under hmem hchild _ ih =>
    have hlist := checkCondition_eq_true_iff.mp hc _ hmem
    rw [checkEntry, if_pos rfl] at hlist
    obtain ⟨-, -, hall⟩ := bind_eq_ok.mp hlist
    exact ih (holds_of_mem_of_checkAll hall hchild)

theorem entryPaths_subset {c : Document} {key : String} {spec : Value} (h : (key, spec) ∈ c) :
    entryPaths lead key spec ⊆ conditionPaths lead c := by
  induction c with
  | nil => cases h
  | cons e rest ih =>
    obtain ⟨k, v⟩ := e
    rw [conditionPaths]
    rcases List.mem_cons.mp h with heq | hmem
    · cases heq
      exact List.subset_append_left _ _
    · exact List.Subset.trans (ih hmem) (List.subset_append_right _ _)

theorem conditionPaths_subset_childPaths {children : List Value} {child : Document}
    (h : .doc child ∈ children) : conditionPaths lead child ⊆ childPaths lead children := by
  induction children with
  | nil => cases h
  | cons first rest ih =>
    cases first with
    | doc c =>
      rw [childPaths]
      rcases List.mem_cons.mp h with heq | hmem
      · cases heq
        exact List.subset_append_left _ _
      · exact List.Subset.trans (ih hmem) (List.subset_append_right _ _)
    | _ => exact ih ((List.mem_cons.mp h).resolve_left Value.noConfusion)

theorem RequiresLeaf.reported {path : String} {spec : Value} {c : Document}
    (h : RequiresLeaf path spec c) (hpath : ¬ (path = "$and" ∨ path = "$or")) :
    resolvePath lead path ∈ conditionPaths lead c := by
  induction h with
  | entry hmem =>
    apply entryPaths_subset hmem
    rw [entryPaths_leaf hpath]
    exact List.mem_singleton_self _
  | under hmem hchild _ ih =>
    apply entryPaths_subset hmem
    rw [entryPaths, if_pos (.inl rfl)]
    exact conditionPaths_subset_childPaths hchild ih

end

/-! ## References -/

/-- What is set under a name is not seen at a path that is not this name and leads past it. -/
theorem Document.getPath_insert_of_past {name path : String} (hne : path ≠ name)
    (hpast : pathLeadsPast name path = true) (d : Document) (v : Value) :
    (d.insert name v).getPath path = d.getPath path := by
  obtain ⟨s, rest, hsegments⟩ := exists_segments path
  have hs : s ≠ name := Ne.symm ((pathLeadsPast_iff hsegments).mp hpast)
  unfold getPath
  rw [get?_insert_of_ne d v hne, hsegments, walk, walk, get?_insert_of_ne d v hs]

/-- For whatever is found, even nothing, there is a value that is not the same. -/
theorem exists_not_same (found : Option Value) : ∃ v, sameValue found (some v) = false := by
  cases found with
  | none => exact ⟨.null, rfl⟩
  | some w =>
    -- a number is the same as numbers only
    cases hnumber : w.number? with
    | none => exact ⟨.int32 0, by simp only [sameValue, hnumber]; rfl⟩
    | some x => exact ⟨.null, by simp only [sameValue, hnumber]; rfl⟩

theorem not_decidedAt_of_reference {lead : PathLead} {paths : List String} {c data : Document}
    {path target : String} (hpath : ¬ (path = "$and" ∨ path = "$or"))
    (hleaf : RequiresLeaf path (.str ("$ref:" ++ target)) c)
    (hnamed : resolvePath lead path ∈ paths)
    (hpast : ∀ p ∈ paths, p ≠ resolvePath lead target ∧
      pathLeadsPast (resolvePath lead target) p = true)
    (hholds : checkCondition lead data c = .ok true) : ¬ DecidedAt lead paths c := by
  intro hdecided
  -- the data are changed at the path referred to alone, so what is compared with it stays
  obtain ⟨v, hv⟩ := exists_not_same (data.getPath (resolvePath lead path))
  let changed := data.insert (resolvePath lead target) v
  have hkept : ∀ p ∈ paths, changed.getPath p = data.getPath p := fun p hp =>
    Document.getPath_insert_of_past (hpast p hp).1 (hpast p hp).2 data v
  have htarget : changed.getPath (resolvePath lead target) = some v :=
    Document.getPath_of_get? (Document.get?_insert_self data _ v)
  have hfails : checkEntry lead changed path (.str ("$ref:" ++ target)) = .ok false := by
    rw [checkEntry_leaf hpath, checkLeaf_reference, htarget, hkept _ hnamed, hv]
  -- were the condition decided at the paths, it would hold of the changed data too
  have hchanged : checkCondition lead changed c = .ok true :=
    (hdecided changed data hkept).trans hholds
  have hstill := hleaf.holds hchanged
  rw [hfails] at hstill
  cases hstill

/-! ## What the reported paths decide -/

/-- The paths that are reported for a condition decide it together with those that it refers to,
and alone if these are among them. They do not decide it if it can hold and requires that some
value is the one at a path past which all of them lead. -/
theorem reported_decide_beside_references (lead : PathLead) (c : Document) :
    pathsRead? lead (.doc c) = some (conditionPaths lead c) ∧
      DecidedAt lead (conditionPaths lead c ++ conditionReferences lead c) c ∧
      (conditionReferences lead c ⊆ conditionPaths lead c →
        DecidedAt lead (conditionPaths lead c) c) ∧
      ∀ path target data, ¬ (path = "$and" ∨ path = "$or") →
        RequiresLeaf path (.str ("$ref:" ++ target)) c →
        (∀ p ∈ conditionPaths lead c, p ≠ resolvePath lead target ∧
          pathLeadsPast (resolvePath lead target) p = true) →
        checkCondition lead data c = .ok true →
        ¬ DecidedAt lead (conditionPaths lead c) c := by
  refine ⟨rfl, ?_, ?_, ?_⟩
  · exact decidedAt_of_references_subset (List.subset_append_left _ _)
      (List.subset_append_right _ _)
  · intro hreferences
    exact decidedAt_of_references_subset (List.Subset.refl _) hreferences
  · intro path target data hpath hleaf hpast hholds
    exact not_decidedAt_of_reference hpath hleaf (hleaf.reported hpath) hpast hholds

/-- Documents that their owner edits: the reported path says nothing about the editor. A demand
that the owner is the owner is decided by it. -/
theorem reported_decide_owner :
    DecidedAt none ["owner", "editor"] [("owner", .str "$ref:editor")] ∧
      conditionReferences none [("owner", .str "$ref:owner")] ⊆ ["owner"] ∧
      DecidedAt none ["owner"] [("owner", .str "$ref:owner")] ∧
      RequiresLeaf "owner" (.str "$ref:editor") [("owner", .str "$ref:editor")] ∧
      (∀ p ∈ ["owner"], p ≠ "editor" ∧ pathLeadsPast "editor" p = true) ∧
      checkCondition none [("owner", .str "u1"), ("editor", .str "u1")]
        [("owner", .str "$ref:editor")] = .ok true ∧
      ¬ DecidedAt none ["owner"] [("owner", .str "$ref:editor")] := by
  have hleaf : RequiresLeaf "owner" (.str "$ref:editor") [("owner", .str "$ref:editor")] :=
    .entry (List.mem_singleton_self _)
  have hpast : ∀ p ∈ ["owner"], p ≠ "editor" ∧ pathLeadsPast "editor" p = true := by decide
  have hself : conditionReferences none [("owner", .str "$ref:owner")] ⊆ ["owner"] := by
    intro path hpath
    exact hpath
  have heditor := reported_decide_beside_references none [("owner", .str "$ref:editor")]
  have howner := reported_decide_beside_references none [("owner", .str "$ref:owner")]
  refine ⟨heditor.2.1, hself, howner.2.2.1 hself, hleaf, hpast, rfl, ?_⟩
  exact heditor.2.2.2 "owner" "editor" [("owner", .str "u1"), ("editor", .str "u1")] (by decide)
    hleaf hpast rfl

/-- Two documents with the same owner, at the only path that is reported: the condition holds of
one and not of the other. -/
theorem reported_overlook_editor :
    pathsRead? none (.doc [("owner", .str "$ref:editor")]) = some ["owner"] ∧
      AgreeOn ["owner"] [("owner", .str "u1"), ("editor", .str "u1")]
        [("owner", .str "u1"), ("editor", .str "u2")] ∧
      checkCondition none [("owner", .str "u1"), ("editor", .str "u1")]
        [("owner", .str "$ref:editor")] = .ok true ∧
      checkCondition none [("owner", .str "u1"), ("editor", .str "u2")]
        [("owner", .str "$ref:editor")] = .ok false := by
  refine ⟨rfl, ?_, rfl, rfl⟩
  intro path hpath
  rw [List.mem_singleton.mp hpath]
  rfl

end DocGuard
