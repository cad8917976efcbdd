import DocGuard.Proofs.Redaction

/-!
# Which access grants which

A role decides on the kinds of access one by one, but not independently. Whoever may insert a
document may write it, and whoever may write it may read at least as much of it, unless the role
states a permission to read and none to write.
-/

namespace DocGuard

namespace Judge

variable {j : Judge} {w : Document}

/-- Whether a judge allows the access, and hands on a document or what is left of it. -/
def Allows (j : Judge) (w : Document) : Prop :=
  ∃ v, j.decide.result = .ok v ∧ v.allowed = some true ∧ v.document = some w

theorem decide_eq_ok {v : Verdict} :
    j.decide.result = .ok v ↔ ∃ part, j.roleDecision.result = .ok part ∧ .ofPart part = v := by
  rw [decide_eq_roleDecision]
  exact Traced.map_eq_ok

/-- A judge allows what the role leaves of the document. -/
theorem allows_iff : j.Allows w ↔ j.roleDecision.result = .ok (some w) := by
  constructor
  · rintro ⟨v, hv, hallowed, hdocument⟩
    obtain ⟨part, hpart, rfl⟩ := decide_eq_ok.mp hv
    cases part with
    | none => cases hallowed
    | some seen => cases hdocument; exact hpart
  · intro h
    exact ⟨.granting w, decide_eq_ok.mpr ⟨some w, h, rfl⟩, rfl, rfl⟩

/-! ## Gates -/

theorem passesGates_of_none (h : j.role.filters = none) : j.passesGates = pure true := by
  unfold passesGates
  rw [h]

theorem passesGates_changing {gate : DocumentFilters} (h : j.role.filters = some gate)
    (haccess : j.inquiry.access.isReading = false) : j.passesGates = j.permits gate.write := by
  unfold passesGates
  rw [h]
  cases hkind : j.inquiry.access with
  | read => rw [hkind] at haccess; cases haccess
  | search => rw [hkind] at haccess; cases haccess
  | _ => rfl

theorem passesGates_reading {gate : DocumentFilters} (h : j.role.filters = some gate)
    (haccess : j.inquiry.access = .read) :
    j.passesGates =
      (do if ← j.permits gate.read then return true else j.permits gate.write) := by
  unfold passesGates
  rw [h]
  simp only [haccess]

end Judge

namespace Guard

open Judge (allows_iff gated_eq_some_iff decideWriting_eq_some_iff grantedPart_eq_some_iff)

variable {g : Guard} {role : Role} {d w : Document}

/-! ## What the kinds of access have in common -/

theorem permits_judge (g : Guard) (role : Role) (d : Document) (a b : Access)
    (p : Option Permission) : (g.judge role d a).permits p = (g.judge role d b).permits p := by
  -- a condition is given the document and the user, but not the kind of access
  rcases p with _ | _ | _ <;> rfl

theorem permitsField_read_of_write {field : String} (h : role.permitsField .write field = true) :
    role.permitsField .read field = true := by
  unfold Role.permitsField at h ⊢
  cases hgrant : role.grant? field with
  | none => rw [hgrant] at h; cases h
  | some grant =>
    rw [hgrant] at h
    change (grant.read.getD false || grant.write.getD false) = true
    -- a grant to write covers reading
    rw [Bool.or_eq_true]
    exact .inr h

/-- What the grants to write leave of a document, those to read leave too. -/
theorem grantedPart_read_of_write (h : (g.judge role d .write).grantedPart = some w) :
    ∃ seen, (g.judge role d .read).grantedPart = some seen ∧ w.Sublist seen := by
  obtain ⟨hall, hempty, hpart⟩ := grantedPart_eq_some_iff.mp h
  have hsublist : w.Sublist (d.filter fun e => role.permitsField .read e.1) := by
    rw [hpart]
    exact List.monotone_filter_right d fun e => permitsField_read_of_write
  refine ⟨_, grantedPart_eq_some_iff.mpr ⟨fun hfields e he => ?_, ?_, rfl⟩, hsublist⟩
  · exact permitsField_read_of_write (hall hfields e he)
  · rw [List.isEmpty_eq_false_iff] at hempty ⊢
    intro hnone
    change (d.filter fun e => role.permitsField .read e.1) = [] at hnone
    rw [hnone] at hsublist
    exact hempty (List.sublist_nil.mp hsublist)

/-! ## From one access to the next -/

theorem passesGates_insert (g : Guard) (role : Role) (d : Document) :
    (g.judge role d .insert).passesGates = (g.judge role d .write).passesGates := by
  cases hgates : role.filters with
  | none => rw [Judge.passesGates_of_none hgates, Judge.passesGates_of_none hgates]
  | some gate =>
    rw [Judge.passesGates_changing hgates rfl, Judge.passesGates_changing hgates rfl,
      permits_judge g role d .insert .write]

/-- Reading passes the gates that writing passes. -/
theorem passesGates_read_of_write {opened : Bool}
    (hwrite : (g.judge role d .write).passesGates.result = .ok true)
    (hread : (g.judge role d .read).passesGates.result = .ok opened) : opened = true := by
  cases hgates : role.filters with
  | none =>
    rw [Judge.passesGates_of_none hgates] at hread
    exact (Except.ok.inj hread).symm
  | some gate =>
    rw [Judge.passesGates_changing hgates rfl] at hwrite
    rw [Judge.passesGates_reading hgates rfl, Traced.result_bind] at hread
    obtain ⟨reads, -, hread⟩ := bind_eq_ok.mp hread
    cases reads with
    | true => exact (Except.ok.inj hread).symm
    | false =>
      -- where the reading gate is closed the writing one is asked
      change ((g.judge role d .read).permits gate.write).result = .ok opened at hread
      rw [permits_judge g role d .read .write, hwrite] at hread
      exact (Except.ok.inj hread).symm

theorem allows_write_of_insert (h : (g.judge role d .insert).Allows w) :
    (g.judge role d .write).Allows w := by
  obtain ⟨hgates, hinsert⟩ := gated_eq_some_iff.mp (allows_iff.mp h)
  rw [passesGates_insert] at hgates
  -- inserting asks for more than writing, but nothing else
  have hpart : (g.judge role d .insert).grantedPart = (g.judge role d .write).grantedPart := rfl
  refine allows_iff.mpr (gated_eq_some_iff.mpr ⟨hgates, decideWriting_eq_some_iff.mpr ?_⟩)
  rcases decideWriting_eq_some_iff.mp hinsert with ⟨hgiven, -, hwhole⟩ | ⟨hwrite, hgranted⟩
  · rw [permits_judge g role d .insert .write] at hgiven
    exact .inl ⟨hgiven, rfl, hwhole⟩
  · exact .inr ⟨hwrite, hpart ▸ hgranted⟩

theorem sublist_of_allows_write (h : (g.judge role d .write).Allows w) : w.Sublist d := by
  obtain ⟨-, hwrites⟩ := gated_eq_some_iff.mp (allows_iff.mp h)
  rcases decideWriting_eq_some_iff.mp hwrites with ⟨-, -, rfl⟩ | ⟨-, hgranted⟩
  · exact List.Sublist.refl _
  · rw [(grantedPart_eq_some_iff.mp hgranted).2.2]
    exact List.filter_sublist

theorem allows_read_of_write (hstated : role.write ≠ none ∨ role.read = none)
    (h : (g.judge role d .write).Allows w) {v : Verdict}
    (hread : (g.judge role d .read).decide.result = .ok v) :
    ∃ seen, (g.judge role d .read).Allows seen ∧ w.Sublist seen := by
  obtain ⟨part, hdecided, -⟩ := Judge.decide_eq_ok.mp hread
  suffices hseen : ∃ seen, part = some seen ∧ w.Sublist seen by
    obtain ⟨seen, rfl, hsublist⟩ := hseen
    exact ⟨seen, allows_iff.mpr hdecided, hsublist⟩
  obtain ⟨hgates, hwrites⟩ := gated_eq_some_iff.mp (allows_iff.mp h)
  have hwhole : w.Sublist d := sublist_of_allows_write h
  unfold Judge.roleDecision at hdecided
  rw [Traced.result_bind] at hdecided
  obtain ⟨opened, hopened, hpart⟩ := bind_eq_ok.mp hdecided
  cases passesGates_read_of_write hgates hopened
  change ((g.judge role d .read).decideReading role.read).result = .ok part at hpart
  unfold Judge.decideReading at hpart
  rw [Traced.result_bind] at hpart
  obtain ⟨reads, hreads, hpart⟩ := bind_eq_ok.mp hpart
  cases reads with
  | true => exact ⟨d, (Except.ok.inj hpart).symm, hwhole⟩
  | false =>
    rw [if_neg (by decide), Traced.result_bind] at hpart
    obtain ⟨writes, hgiven, hpart⟩ := bind_eq_ok.mp hpart
    cases writes with
    | true => exact ⟨d, (Except.ok.inj hpart).symm, hwhole⟩
    | false =>
      rw [permits_judge g role d .read .write] at hgiven
      rcases decideWriting_eq_some_iff.mp hwrites with ⟨hpermitted, -, -⟩ | ⟨hwrite, hgranted⟩
      · cases hpermitted.symm.trans hgiven
      · -- without a permission to write the grants for fields decide both
        rw [if_neg (by decide), hstated.resolve_left fun hne => hne hwrite] at hpart
        obtain ⟨seen, hseen, hsublist⟩ := grantedPart_read_of_write hgranted
        exact ⟨seen, (Except.ok.inj hpart).symm.trans hseen, hsublist⟩

/-- Grants grow from one kind of access to the next: what may be inserted may be written, and what
may be written may be read as a part of what is read, if that is decided at all and the role states
a permission to write or none to read. -/
theorem grants_grow (g : Guard) (role : Role) (d w : Document) :
    ((g.judge role d .insert).Allows w → (g.judge role d .write).Allows w) ∧
      (role.write ≠ none ∨ role.read = none → (g.judge role d .write).Allows w →
        ∀ v, (g.judge role d .read).decide.result = .ok v →
          ∃ seen, (g.judge role d .read).Allows seen ∧ w.Sublist seen) :=
  ⟨allows_write_of_insert, fun hstated h _ hread => allows_read_of_write hstated h hread⟩

/-- A role that grants one field for writing and another one for reading. -/
def annotator : Role :=
  { Role.bare "annotator" with
    fields := [("notes", ⟨some true, none⟩), ("title", ⟨none, some true⟩)] }

/-- A document with one field of each kind and one that is not granted. -/
def annotated : Document :=
  [("title", .str "a"), ("secret", .str "x"), ("notes", .str "b")]

/-- Of such a document the role may insert and write the title alone, and read the notes with it. -/
theorem annotator_reads_more :
    let judge := (underRole annotator).judge annotator annotated
    (judge .insert).Allows [("title", .str "a")] ∧ (judge .write).Allows [("title", .str "a")] ∧
      (judge .read).Allows [("title", .str "a"), ("notes", .str "b")] ∧
      ∃ seen, (judge .read).Allows seen ∧
        List.Sublist [("title", .str "a")] seen := by
  intro judge
  have hinsert : (judge .insert).Allows [("title", .str "a")] :=
    ⟨.granting [("title", .str "a")], rfl, rfl, rfl⟩
  have hread : (judge .read).decide.result =
      .ok (.granting [("title", .str "a"), ("notes", .str "b")]) := rfl
  obtain ⟨hwrite, hreads⟩ := grants_grow (underRole annotator) annotator annotated
    [("title", .str "a")]
  exact ⟨hinsert, hwrite hinsert, ⟨_, hread, rfl, rfl⟩,
    hreads (.inr rfl) (hwrite hinsert) _ hread⟩

end Guard

end DocGuard
