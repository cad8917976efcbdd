import DocGuard.Proofs.AtomicUpdate
import DocGuard.Proofs.Redaction

/-!
# Fields that a role protects from updates

A role without a permission to write leaves writing to its grants for single fields. An update is
judged by the shape that it gives a document: whatever it changes or adds shows in that shape and
has to be granted. What it removes does not show there.
-/

namespace DocGuard

/-- A document equal to the part of it with some property has that property all over. -/
theorem all_of_filter_equal {d : Document} {p : String × Value → Bool}
    (h : Document.equal (d.filter p) d = true) : ∀ e ∈ d, p e = true := by
  unfold Document.equal at h
  rw [Bool.and_eq_true, beq_iff_eq] at h
  exact List.length_filter_eq_length_iff.mp h.1

namespace Guard

theorem winningRole_of_single {role : Role} {user d : Document}
    (happlies : applies role.applyWhen user d = .ok true) :
    winningRole? d user [role] = .ok (some role) := by
  unfold winningRole?
  rw [happlies]
  rfl

/-- Where a role without a permission to write decides, a document that may be written in full has
only granted fields. -/
theorem permitsField_of_passes {g : Guard} {role : Role} {d : Document}
    (hrole : winningRole? d g.user g.roles = .ok (some role)) (hwrite : role.write = none)
    (h : g.Passes .write d) : ∀ e ∈ d, role.permitsField .write e.1 = true := by
  obtain ⟨seen, hseen, hequal⟩ := h
  rcases validate_write_eq_some hrole hseen with ⟨hstated, _⟩ | ⟨_, rfl⟩
  · exact absurd hwrite hstated
  · exact all_of_filter_equal hequal

/-- A role that may write titles and only read secrets. -/
def titleEditor : Role :=
  { Role.bare "editor" with
    fields := [("_id", ⟨none, some true⟩), ("secret", ⟨some true, none⟩),
      ("title", ⟨none, some true⟩)] }

def ofTitles : Guard :=
  underRole titleEditor

def titled : Collection :=
  .ofDocuments "todos" [[("_id", .int32 1), ("title", .str "a"), ("secret", .str "x")]]

def dropSecret : Document :=
  [("$unset", .doc [("secret", .str "")])]

/-- Under a single role that always applies and states no permission to write, an update by
operators that succeeds changes and adds only fields that the role grants for writing. -/
theorem update_sets_granted_fields {g : Guard} {role : Role} {c : Collection}
    {filter operators : Document} {extent : Extent} {count : UpdateCount}
    (hsystem : g.asSystem = false) (hroles : g.roles = [role])
    (happlies : ∀ d, applies role.applyWhen g.user d = .ok true) (hwrite : role.write = none)
    (hok : (g.update filter (.operators operators) extent c).1.result = .ok count) :
    List.Forall₂
      (fun before after => ∀ key v, Document.get? after key = some v →
        Document.get? before key ≠ some v → role.permitsField .write key = true)
      c.documents (g.update filter (.operators operators) extent c).2.documents := by
  obtain ⟨query, stages, visits, -, -, hvisits, hdemanded, -, hstore⟩ :=
    exists_visits_of_update hsystem hok
  rw [hstore, ← hvisits.before]
  refine List.forall₂_map_left_iff.mpr (List.forall₂_map_right_iff.mpr ?_)
  refine List.forall₂_same.mpr fun visit hvisit key v hafter hbefore => ?_
  obtain ⟨before, outcome⟩ := visit
  cases outcome with
  | none => exact absurd hafter hbefore
  | some d =>
    rcases Collection.kept_eq_or before d with hkept | hkept
    · exact absurd (hkept ▸ hafter) hbefore
    · have hrole : winningRole? d g.user g.roles = .ok (some role) := by
        rw [hroles]
        exact winningRole_of_single (happlies d)
      have hpasses := passes_of_demandUnchanged (hdemanded _ hvisit d rfl)
      have hmem : (key, v) ∈ d := Document.mem_of_get? (hkept ▸ hafter)
      exact permitsField_of_passes hrole hwrite hpasses _ hmem

/-- A new title is granted, though the secret goes with the old one. -/
theorem update_renames :
    (ofTitles.update [] (.operators (("$set", .doc [("title", .str "b")]) :: dropSecret)) .first
        titled).1.result = .ok ⟨1, 1⟩ ∧
      List.Forall₂
        (fun before after => ∀ key v, Document.get? after key = some v →
          Document.get? before key ≠ some v → titleEditor.permitsField .write key = true)
        titled.documents
        (ofTitles.update [] (.operators (("$set", .doc [("title", .str "b")]) :: dropSecret)) .first
          titled).2.documents :=
  ⟨rfl, update_sets_granted_fields rfl rfl (fun _ => rfl) rfl rfl⟩

/-- The removal of a field is not held back: the secret, which the role may not write, is gone after
an update that succeeds. -/
theorem update_removes_protected :
    ¬ ∀ (g : Guard) (role : Role) (c : Collection) (filter operators : Document)
      (extent : Extent) (count : UpdateCount), g.asSystem = false → g.roles = [role] →
      (∀ d, applies role.applyWhen g.user d = .ok true) → role.write = none →
      (g.update filter (.operators operators) extent c).1.result = .ok count →
      List.Forall₂
        (fun before after => ∀ key, Document.get? before key ≠ Document.get? after key →
          role.permitsField .write key = true)
        c.documents (g.update filter (.operators operators) extent c).2.documents := by
  intro hall
  have hcut := hall ofTitles titleEditor titled [] dropSecret .every ⟨1, 1⟩ rfl rfl
    (fun _ => rfl) rfl rfl
  have hstored : (ofTitles.update [] (.operators dropSecret) .every titled).2.documents =
      [[("_id", .int32 1), ("title", .str "a")]] := rfl
  have hrefused : titleEditor.permitsField .write "secret" = false := rfl
  rw [hstored] at hcut
  cases hcut with
  | cons hfirst _ =>
    have hgone : some (Value.str "x") ≠ none := Option.some_ne_none _
    have hgranted := hfirst "secret" hgone
    rw [hrefused] at hgranted
    cases hgranted

end Guard

end DocGuard
