import DocGuard.Guard.Basic
import DocGuard.Proofs.Computation

/-!
# The decision without stages

A decision goes through stages and steps. Here it is written down as one case distinction on the
permissions of a role, in the order in which they are asked, and the staged decision is shown to
be the same computation: same result, same faults, and the same function calls in the same order.
-/

namespace DocGuard

/-! ## The decision as a case distinction -/

namespace Judge

/-- Whether the gates of the role let the access through. Reading may pass through either gate,
searching through the reading one and every change through the writing one. -/
def passesGates (j : Judge) : Traced Bool :=
  match j.role.filters with
  | none => pure true
  | some gate =>
    match j.inquiry.access with
    | .read => do if ← j.permits gate.read then return true else j.permits gate.write
    | .search => j.permits gate.read
    | .write => j.permits gate.write
    | .insert => j.permits gate.write
    | .delete => j.permits gate.write

/-- What the grants for single fields leave of the document. A role without named fields has to
grant every field; a document of which nothing is left is denied. -/
def grantedPart (j : Judge) : Option Document :=
  let granted := j.inquiry.document.filter fun e => j.permitsField e.1
  if j.role.fields.isEmpty && !j.inquiry.document.all fun e => j.permitsField e.1 then none
  else if granted.isEmpty then none
  else some granted

/-- Reading or searching, by the permission for it. -/
def decideReading (j : Judge) (own : Option Permission) : Traced (Option Document) := do
  if ← j.permits own then return some j.inquiry.document
  else if ← j.permits j.role.write then return some j.inquiry.document
  else
    match own with
    | some _ => return none
    | none => return j.grantedPart

/-- Writing or inserting; `further` is what the permission to write does not decide. -/
def decideWriting (j : Judge) (further : Traced Bool) : Traced (Option Document) :=
  match j.role.write with
  | none => return j.grantedPart
  | some write => do
    if ← j.permits (some write) then
      if ← further then return some j.inquiry.document else return none
    else return none

/-- What a role leaves of the document. -/
def roleDecision (j : Judge) : Traced (Option Document) := do
  if ← j.passesGates then
    match j.inquiry.access with
    | .read => j.decideReading j.role.read
    | .search => j.decideReading j.role.search
    | .write => j.decideWriting (pure true)
    | .insert => j.decideWriting (j.permits j.role.insert)
    | .delete => do
      if ← j.permits j.role.delete then return some j.inquiry.document else return none
  else return none

end Judge

/-- What a user sees of a document: the first role that applies decides, and a document to which
no role applies passes as it is. -/
def Guard.decision (g : Guard) (d : Document) (access : Access) : Traced (Option Document) := do
  let found ← Traced.lift (g.roles.findM? fun role => applies role.applyWhen g.user d)
  match found with
  | none => return some d
  | some role => (g.judge role d access).roleDecision

def Guard.underRole (role : Role) : Guard where
  rules := [("todos", ⟨[role], []⟩)]
  collection := "todos"
  user := [("id", .str "ann")]
  asSystem := false
  caller := fun name _ _ => .error (.functionNotFound name)

/-! ## Verdicts -/

namespace Verdict

def seen (v : Verdict) : Option Document :=
  if v.allowed = some true then v.document else none

def granting (d : Document) : Verdict :=
  ⟨some true, some d, none⟩

def denying : Verdict :=
  ⟨some false, none, none⟩

/-- No verdict yet; the next stage starts at a step. -/
def undecided (entry : Option Step) : Verdict :=
  ⟨none, none, entry⟩

def ofPart : Option Document → Verdict
  | some d => granting d
  | none => denying

@[simp] theorem seen_ofPart (part : Option Document) : (ofPart part).seen = part := by
  cases part <;> rfl

@[simp] theorem isSome_allowed_ofPart (part : Option Document) :
    (ofPart part).allowed.isSome = true := by
  cases part <;> rfl

end Verdict

/-! ## What each stage amounts to -/

namespace Judge

def fieldsEntry (j : Judge) : Step :=
  if j.role.fields.isEmpty then .checkAdditionalFields else .checkIsValidFieldName

theorem runStage_opening (j : Judge) : j.runStage .opening none = pure (.undecided none) := rfl

theorem permitsSome_single (j : Judge) (p : Option Permission) :
    j.inquiry.permitsSome j.caller [p] = j.permits p := by
  have hpure : ∀ here : Bool,
      (if here then pure true else pure false : Traced Bool) = pure here := by
    intro here
    cases here <;> rfl
  simp only [Inquiry.permitsSome, hpure, bind_pure]
  rfl

theorem permitsSome_pair (j : Judge) (p q : Option Permission) :
    j.inquiry.permitsSome j.caller [p, q] =
      (do if ← j.permits p then return true else j.permits q) := by
  rw [Inquiry.permitsSome, permitsSome_single]
  rfl

/-- The gates, asked in order up to the first that opens, are the gates of the access. -/
theorem permitsSome_gates (j : Judge) (gate : DocumentFilters) (h : j.role.filters = some gate) :
    j.inquiry.permitsSome j.caller (j.gates gate) = j.passesGates := by
  unfold passesGates gates
  rw [h]
  cases j.inquiry.access with
  | read => exact j.permitsSome_pair gate.read gate.write
  | search => exact j.permitsSome_single gate.read
  | write => exact j.permitsSome_single gate.write
  | insert => exact j.permitsSome_single gate.write
  | delete => exact j.permitsSome_single gate.write

theorem runStage_documentFilters (j : Judge) :
    j.runStage .documentFilters none =
      (do if ← j.passesGates then return .undecided none else return .denying) := by
  change (j.documentFilters >>= _) = _
  cases hfilters : j.role.filters with
  | none =>
    unfold documentFilters passesGates
    rw [hfilters]
    rfl
  | some gate =>
    have hgates := j.permitsSome_gates gate hfilters
    unfold documentFilters
    rw [hfilters]
    simp only [hgates, bind_assoc]
    refine bind_congr fun opened => ?_
    cases opened <;> rfl

theorem runStage_readPermissions (j : Judge) :
    j.runStage .readPermissions none = (do
      if ← j.permits j.readPermission? then return .granting j.inquiry.document
      else if ← j.permits j.role.write then return .granting j.inquiry.document
      else
        match j.readPermission? with
        | some _ => return .denying
        | none => return .undecided (some j.fieldsEntry)) := by
  change (j.readPermission >>= _) = _
  unfold readPermission
  simp only [bind_assoc]
  refine bind_congr fun own => ?_
  cases own with
  | true => rfl
  | false =>
    change (j.writePermission _ >>= _) = _
    unfold writePermission
    simp only [bind_assoc]
    refine bind_congr fun write => ?_
    cases write with
    | true => rfl
    | false => cases j.readPermission? <;> rfl

theorem runStage_deletePermission (j : Judge) (hdelete : j.inquiry.access = .delete) :
    j.runStage .writePermissions none =
      (do
        if ← j.permits j.role.delete then return .granting j.inquiry.document
        else return .denying) := by
  change (j.step .checkOperationType none >>= _) = _
  unfold step
  rw [if_pos hdelete, pure_bind]
  change (j.deletePermission >>= _) = _
  unfold deletePermission
  simp only [bind_assoc]
  refine bind_congr fun granted => ?_
  cases granted <;> rfl

theorem runStage_writePermissions (j : Judge) (hdelete : j.inquiry.access ≠ .delete) :
    j.runStage .writePermissions none =
      (match j.role.write with
      | none => return .undecided (some j.fieldsEntry)
      | some write => do
        if ← j.permits (some write) then
          if j.inquiry.access = .insert then
            if ← j.permits j.role.insert then return .granting j.inquiry.document
            else return .denying
          else return .granting j.inquiry.document
        else return .denying) := by
  change (j.step .checkOperationType none >>= _) = _
  unfold step
  rw [if_neg hdelete, pure_bind]
  change (j.writeOnly >>= _) = _
  unfold writeOnly
  cases j.role.write with
  | none => rfl
  | some write =>
    simp only [bind_assoc]
    refine bind_congr fun granted => ?_
    cases granted with
    | false => rfl
    | true =>
      -- the permission to insert is asked only behind the one to write
      by_cases hinsert : j.inquiry.access = .insert
      · simp only [if_pos hinsert, if_true, pure_bind]
        change (j.insertPermission >>= _) = _
        unfold insertPermission
        simp only [bind_assoc]
        refine bind_congr fun further => ?_
        cases further <;> rfl
      · simp only [if_neg hinsert, if_true, pure_bind]
        rfl

theorem runFrom_checkIsValidFieldName (j : Judge) (left : Nat) :
    j.runFrom .fieldFiltering (left + 1) .checkIsValidFieldName none =
      pure (.ofPart (if j.permittedEntries.isEmpty then none else some j.permittedEntries)) := by
  unfold runFrom
  change (pure j.validFields >>= _) = _
  unfold validFields
  cases j.permittedEntries.isEmpty <;> rfl

theorem runStage_fieldFiltering (j : Judge) :
    j.runStage .fieldFiltering (some j.fieldsEntry) = pure (.ofPart j.grantedPart) := by
  have hkeys : j.inquiry.document.keys.all j.permitsField =
      j.inquiry.document.all fun e => j.permitsField e.1 := List.all_map
  unfold fieldsEntry grantedPart
  -- a role with named fields starts at the second step of the stage
  cases j.role.fields.isEmpty with
  | false => exact j.runFrom_checkIsValidFieldName 1
  | true =>
    change (pure j.additionalFields >>= _) = _
    unfold additionalFields
    rw [hkeys]
    cases j.inquiry.document.all fun e => j.permitsField e.1 with
    | false => rfl
    | true => exact j.runFrom_checkIsValidFieldName 0

/-! ## The whole decision -/

theorem runStages_cons (j : Judge) (stage : Stage) (rest : List Stage) (entry : Option Step) :
    j.runStages (stage :: rest) entry = (do
      let v ← j.runStage stage entry
      if v.allowed.isSome then return v else j.runStages rest v.entry) := rfl

/-- Once the permissions are settled or left to the grants for single fields, one of the last two
stages ends the decision. -/
theorem runStages_fieldFiltering (j : Judge) :
    j.runStages [.fieldFiltering] (some j.fieldsEntry) = pure (.ofPart j.grantedPart) := by
  rw [runStages_cons, runStage_fieldFiltering, pure_bind, if_pos]
  exact Verdict.isSome_allowed_ofPart _

theorem runStages_readPermissions (j : Judge) :
    j.runStages [.readPermissions, .fieldFiltering] none =
      Verdict.ofPart <$> j.decideReading j.readPermission? := by
  rw [runStages_cons, runStage_readPermissions]
  unfold decideReading
  simp only [bind_assoc, map_bind]
  refine bind_congr fun own => ?_
  cases own with
  | true => rfl
  | false =>
    simp only [Bool.false_eq_true, if_false, bind_assoc, map_bind]
    refine bind_congr fun write => ?_
    cases write with
    | true => rfl
    | false =>
      cases j.readPermission? with
      | some _ => rfl
      | none => exact j.runStages_fieldFiltering

theorem runStages_deletePermission (j : Judge) (hdelete : j.inquiry.access = .delete) :
    j.runStages [.writePermissions, .fieldFiltering] none =
      Verdict.ofPart <$> (do
        if ← j.permits j.role.delete then return some j.inquiry.document else return none) := by
  rw [runStages_cons, runStage_deletePermission j hdelete]
  simp only [bind_assoc, map_bind]
  refine bind_congr fun granted => ?_
  cases granted <;> rfl

theorem runStages_writePermissions (j : Judge) (hdelete : j.inquiry.access ≠ .delete) :
    j.runStages [.writePermissions, .fieldFiltering] none =
      Verdict.ofPart <$> j.decideWriting
        (if j.inquiry.access = .insert then j.permits j.role.insert else pure true) := by
  rw [runStages_cons, runStage_writePermissions j hdelete]
  unfold decideWriting
  cases j.role.write with
  | none => exact j.runStages_fieldFiltering
  | some write =>
    simp only [bind_assoc, map_bind]
    refine bind_congr fun granted => ?_
    cases granted with
    | false => rfl
    | true =>
      by_cases hinsert : j.inquiry.access = .insert
      · simp only [if_pos hinsert, if_true, bind_assoc, map_bind]
        refine bind_congr fun further => ?_
        cases further <;> rfl
      · simp only [if_neg hinsert, if_true, pure_bind]
        rfl

/-- The first two stages let the others decide where the gates open. -/
theorem runStages_gates (j : Judge) (stages : List Stage) :
    j.runStages (.opening :: .documentFilters :: stages) none = (do
      if ← j.passesGates then j.runStages stages none else return .denying) := by
  rw [runStages_cons, runStage_opening, pure_bind]
  change j.runStages (.documentFilters :: stages) none = _
  rw [runStages_cons, runStage_documentFilters, bind_assoc]
  refine bind_congr fun opened => ?_
  cases opened <;> rfl

theorem ofPart_map_passesGates (j : Judge) (rest : Traced (Option Document)) :
    (do if ← j.passesGates then Verdict.ofPart <$> rest else return Verdict.denying) =
      Verdict.ofPart <$> (do if ← j.passesGates then rest else return none) := by
  rw [map_bind]
  refine bind_congr fun opened => ?_
  cases opened <;> rfl

/-- The staged decision is the case distinction on the permissions of the role. -/
theorem decide_eq_roleDecision (j : Judge) : j.decide = Verdict.ofPart <$> j.roleDecision := by
  unfold decide roleDecision Stage.forAccess
  cases haccess : j.inquiry.access with
  | read =>
    have hread : j.readPermission? = j.role.read := by rw [readPermission?, haccess]; rfl
    rw [if_pos (by rfl), runStages_gates, runStages_readPermissions, hread, ofPart_map_passesGates]
  | search =>
    have hread : j.readPermission? = j.role.search := by rw [readPermission?, haccess]; rfl
    rw [if_pos (by rfl), runStages_gates, runStages_readPermissions, hread, ofPart_map_passesGates]
  | write =>
    have hdelete : j.inquiry.access ≠ .delete := by rw [haccess]; decide
    rw [if_neg (by decide), runStages_gates, runStages_writePermissions j hdelete, haccess,
      ofPart_map_passesGates]
    rfl
  | insert =>
    have hdelete : j.inquiry.access ≠ .delete := by rw [haccess]; decide
    rw [if_neg (by decide), runStages_gates, runStages_writePermissions j hdelete, haccess,
      ofPart_map_passesGates]
    rfl
  | delete =>
    rw [if_neg (by decide), runStages_gates, runStages_deletePermission j haccess,
      ofPart_map_passesGates]

end Judge

namespace Guard

theorem winningRole_eq_findM (d user : Document) (roles : List Role) :
    winningRole? d user roles = roles.findM? fun role => applies role.applyWhen user d := by
  induction roles with
  | nil => rfl
  | cons role rest ih =>
    unfold winningRole? List.findM?
    rw [ih]
    refine bind_congr fun here => ?_
    cases here <;> rfl

/-- What a user sees of a document is the decision of the first role that applies: the stages,
their steps and what they hand on change neither the result nor the functions that are asked. -/
theorem validate_eq_decision (g : Guard) (d : Document) (access : Access) :
    g.validate d access = g.decision d access := by
  unfold validate decision
  rw [winningRole_eq_findM]
  refine bind_congr fun found => ?_
  cases found with
  | none => rfl
  | some role =>
    change ((g.judge role d access).decide >>= fun verdict => pure verdict.seen) = _
    rw [Judge.decide_eq_roleDecision, bind_map_left]
    simp only [Verdict.seen_ofPart, bind_pure]

end Guard

end DocGuard
