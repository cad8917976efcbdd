import DocGuard.Proofs.Decision

/-!
# What is left of a document

A role leaves of a document the whole of it or its granted part: the entries whose fields it grants,
in their order. A user never sees an entry that the document does not have.
-/

namespace DocGuard

namespace Judge

variable {j : Judge} {part : Document}

theorem permits_none (j : Judge) : (j.permits none).result = .ok false := rfl

/-- The granted part holds the entries of granted fields. There is one if some entry is granted, and
every entry where no fields are named. -/
theorem grantedPart_eq_some_iff :
    j.grantedPart = some part ↔
      (j.role.fields.isEmpty = true → ∀ e ∈ j.inquiry.document, j.permitsField e.1 = true) ∧
        part.isEmpty = false ∧ part = j.inquiry.document.filter fun e => j.permitsField e.1 := by
  have hrefused : (j.role.fields.isEmpty && !j.inquiry.document.all fun e => j.permitsField e.1) =
      false ↔
        (j.role.fields.isEmpty = true → ∀ e ∈ j.inquiry.document, j.permitsField e.1 = true) := by
    rw [Bool.and_eq_false_imp, Bool.not_eq_false', List.all_eq_true]
  rw [← hrefused]
  unfold grantedPart
  cases j.role.fields.isEmpty && !j.inquiry.document.all fun e => j.permitsField e.1 with
  | true => exact iff_of_false (fun h => by cases h) (fun h => by cases h.1)
  | false =>
    dsimp only
    cases hempty : (j.inquiry.document.filter fun e => j.permitsField e.1).isEmpty with
    | true =>
      refine iff_of_false (fun h => by cases h) ?_
      rintro ⟨-, hpart, rfl⟩
      rw [hempty] at hpart
      cases hpart
    | false =>
      refine ⟨fun h => ?_, fun h => congrArg some h.2.2.symm⟩
      cases h
      exact ⟨rfl, hempty, rfl⟩

/-- Reading leaves the whole document where the permission to read or the one to write is given, and
the granted part where no permission to read is stated and the one to write is not given. -/
theorem decideReading_eq_some {own : Option Permission}
    (h : (j.decideReading own).result = .ok (some part)) :
    ((j.permits own).result = .ok true ∨ (j.permits j.role.write).result = .ok true) ∧
        part = j.inquiry.document ∨
      own = none ∧ (j.permits j.role.write).result = .ok false ∧ j.grantedPart = some part := by
  unfold decideReading at h
  rw [Traced.result_bind] at h
  obtain ⟨reads, hreads, h⟩ := bind_eq_ok.mp h
  cases reads with
  | true => cases h; exact .inl ⟨.inl hreads, rfl⟩
  | false =>
    rw [if_neg (by decide), Traced.result_bind] at h
    obtain ⟨writes, hwrites, h⟩ := bind_eq_ok.mp h
    cases writes with
    | true => cases h; exact .inl ⟨.inr hwrites, rfl⟩
    | false =>
      cases own with
      | some _ => cases h
      | none => exact .inr ⟨rfl, hwrites, Except.ok.inj h⟩

/-- Writing leaves the whole document where the permission to write is given and nothing else
refuses it, and the granted part where no permission to write is stated. -/
theorem decideWriting_eq_some_iff {further : Traced Bool} :
    (j.decideWriting further).result = .ok (some part) ↔
      (j.permits j.role.write).result = .ok true ∧ further.result = .ok true ∧
          part = j.inquiry.document ∨
        j.role.write = none ∧ j.grantedPart = some part := by
  unfold decideWriting
  cases hwrite : j.role.write with
  | none =>
    have hrefused : ¬ (j.permits none).result = .ok true := fun h => by cases h
    simp only [hrefused, false_and, false_or, true_and, Traced.result_pure, Except.ok.injEq]
  | some write =>
    simp only [Traced.result_bind, bind_eq_ok, reduceCtorEq, false_and, or_false]
    constructor
    · rintro ⟨granted, hgranted, h⟩
      cases granted with
      | false => cases h
      | true =>
        rw [if_pos rfl, Traced.result_bind] at h
        obtain ⟨more, hmore, h⟩ := bind_eq_ok.mp h
        cases more with
        | false => cases h
        | true => cases h; exact ⟨hgranted, hmore, rfl⟩
    · rintro ⟨hgranted, hmore, rfl⟩
      refine ⟨true, hgranted, ?_⟩
      rw [if_pos rfl, Traced.result_bind, hmore]
      rfl

/-- What lies behind a gate shows exactly where the gate is open. -/
theorem gated_eq_some_iff {gate : Traced Bool} {rest : Traced (Option Document)} :
    (do if ← gate then rest else return none : Traced (Option Document)).result =
        .ok (some part) ↔
      gate.result = .ok true ∧ rest.result = .ok (some part) := by
  rw [Traced.result_bind, bind_eq_ok]
  constructor
  · rintro ⟨opened, hopened, h⟩
    cases opened with
    | false => cases h
    | true => exact ⟨hopened, h⟩
  · rintro ⟨hopened, h⟩
    exact ⟨true, hopened, h⟩

/-- What a role leaves of a document that is read: the whole document by the permission to read or
the one to write, or else the granted part. -/
theorem roleDecision_reading (haccess : j.inquiry.access = .read)
    (h : j.roleDecision.result = .ok (some part)) :
    ((j.permits j.role.read).result = .ok true ∨ (j.permits j.role.write).result = .ok true) ∧
        part = j.inquiry.document ∨
      j.role.read = none ∧ (j.permits j.role.write).result = .ok false ∧
        j.grantedPart = some part := by
  unfold roleDecision at h
  rw [haccess] at h
  exact decideReading_eq_some (gated_eq_some_iff.mp h).2

/-- What a role leaves of a document that is written: the whole document by the permission to
write, or else the granted part. -/
theorem roleDecision_writing (haccess : j.inquiry.access = .write)
    (h : j.roleDecision.result = .ok (some part)) :
    j.role.write ≠ none ∧ part = j.inquiry.document ∨
      j.role.write = none ∧ j.grantedPart = some part := by
  unfold roleDecision at h
  rw [haccess] at h
  refine (decideWriting_eq_some_iff.mp (gated_eq_some_iff.mp h).2).imp (fun hwhole => ?_) id
  refine ⟨fun hwrite => ?_, hwhole.2.2⟩
  have hgiven := hwhole.1
  rw [hwrite] at hgiven
  cases hgiven

end Judge

namespace Guard

variable {g : Guard} {d seen : Document} {access : Access}

/-- The first role that applies decides what the user sees. -/
theorem validate_of_winningRole {role : Role}
    (h : winningRole? d g.user g.roles = .ok (some role)) :
    (g.validate d access).result = (g.judge role d access).roleDecision.result := by
  unfold validate
  rw [h]
  change ((g.judge role d access).decide >>= fun verdict => pure verdict.seen).result = _
  rw [Judge.decide_eq_roleDecision, bind_map_left]
  simp only [Verdict.seen_ofPart, bind_pure]

/-- What a role leaves of a document that is read: the whole document by the permission to read or
the one to write, or else the entries of fields granted for reading. -/
theorem validate_read_eq_some {role : Role}
    (hrole : winningRole? d g.user g.roles = .ok (some role))
    (h : (g.validate d .read).result = .ok (some seen)) :
    (((g.judge role d .read).permits role.read).result = .ok true ∨
        ((g.judge role d .read).permits role.write).result = .ok true) ∧ seen = d ∨
      role.read = none ∧ ((g.judge role d .read).permits role.write).result = .ok false ∧
        seen = d.filter fun e => role.permitsField .read e.1 := by
  rw [validate_of_winningRole hrole] at h
  rcases Judge.roleDecision_reading rfl h with ⟨hpermits, hseen⟩ | ⟨hread, hrefused, hpart⟩
  · exact .inl ⟨hpermits, hseen⟩
  · exact .inr ⟨hread, hrefused, (Judge.grantedPart_eq_some_iff.mp hpart).2.2⟩

/-- What a role leaves of a document that is written: the whole document, or the entries of fields
granted for writing where no permission to write is stated. -/
theorem validate_write_eq_some {role : Role}
    (hrole : winningRole? d g.user g.roles = .ok (some role))
    (h : (g.validate d .write).result = .ok (some seen)) :
    role.write ≠ none ∧ seen = d ∨
      role.write = none ∧ seen = d.filter fun e => role.permitsField .write e.1 := by
  rw [validate_of_winningRole hrole] at h
  exact (Judge.roleDecision_writing rfl h).imp id fun hpart =>
    ⟨hpart.1, (Judge.grantedPart_eq_some_iff.mp hpart.2).2.2⟩

/-- A document to which no role applies is seen as it is. -/
theorem validate_of_no_role (h : winningRole? d g.user g.roles = .ok none) :
    (g.validate d access).result = .ok (some d) := by
  unfold validate
  rw [h]
  rfl

/-- Whatever is seen of a document was seen by the role that applies, or no role applies. -/
theorem exists_winningRole_of_validate (h : (g.validate d access).result = .ok (some seen)) :
    ∃ found, winningRole? d g.user g.roles = .ok found := by
  unfold validate at h
  rw [Traced.result_bind] at h
  obtain ⟨found, hfound, _⟩ := bind_eq_ok.mp h
  exact ⟨found, hfound⟩

/-- Reading shows entries of the document as they are and in their order. -/
theorem sublist_of_validate_read (h : (g.validate d .read).result = .ok (some seen)) :
    seen.Sublist d := by
  obtain ⟨found, hfound⟩ := exists_winningRole_of_validate h
  cases found with
  | none =>
    rw [validate_of_no_role hfound] at h
    cases h
    exact List.Sublist.refl d
  | some role =>
    rcases validate_read_eq_some hfound h with ⟨_, rfl⟩ | ⟨_, _, rfl⟩
    · exact List.Sublist.refl _
    · exact List.filter_sublist

/-- Reading shows no entry that the document does not have. -/
theorem subset_of_validate_read (h : (g.validate d .read).result = .ok (some seen)) :
    seen ⊆ d :=
  (sublist_of_validate_read h).subset

end Guard

end DocGuard
