import DocGuard.Decision.Step
import DocGuard.Proofs.AuditedConditions

/-!
# Faults of stages

Conditions fail by their patterns, their operators and their form. So where a permission fails as a
stage does, a function that it asks has answered with that fault.
-/

namespace DocGuard

/-- Whether a computation fails, if at all, otherwise than a stage does. -/
def SparesStages {α : Type} (x : Except Fault α) : Prop :=
  ∀ defect, x ≠ .error (.stage defect)

namespace SparesStages

variable {α β : Type}

theorem of_ok (a : α) : SparesStages (.ok a) := fun _ h => by cases h

theorem of_rule (defect : RuleDefect) : SparesStages (.error (.rule defect) : Except Fault α) :=
  fun _ h => by cases h

theorem of_operatorNotFound (name : String) :
    SparesStages (.error (.operatorNotFound name) : Except Fault α) :=
  fun _ h => by cases h

theorem bind {x : Except Fault α} {f : α → Except Fault β} (hx : SparesStages x)
    (hf : ∀ a, SparesStages (f a)) : SparesStages (x >>= f) := by
  cases x with
  | error e => exact fun defect h => hx defect (congrArg Except.error (Except.error.inj h))
  | ok a => exact hf a

theorem of_failsOnlyByPattern {x : Except Fault α} (h : FailsOnlyByPattern x) :
    SparesStages x := by
  intro defect hx
  obtain ⟨_, he⟩ := h _ hx
  cases he

theorem ofName (text : String) : SparesStages (Operator.ofName text) := by
  unfold Operator.ofName
  split
  · exact of_ok _
  · exact of_operatorNotFound text

theorem ofDocument (d : Document) : SparesStages (Demand.ofDocument d) := by
  unfold Demand.ofDocument
  split
  · exact bind (ofName _) fun _ => of_ok _
  · exact of_rule _
  · split
    · exact of_operatorNotFound _
    · exact bind (ofName _) fun _ => of_ok _

theorem ofValue (v : Value) : SparesStages (Demand.ofValue v) := by
  unfold Demand.ofValue
  split
  case h_2 => split <;> exact of_ok _
  case h_5 => exact ofDocument _
  all_goals exact of_ok _

theorem checkLeaf (lead : PathLead) (data : Document) (path : String) (spec : Value) :
    SparesStages (DocGuard.checkLeaf lead data path spec) :=
  bind (ofValue spec) fun _ => of_failsOnlyByPattern (.apply _ _ _ _)

theorem requireConditions (key : String) (children : List Value) :
    SparesStages (DocGuard.requireConditions key children) := by
  fun_induction DocGuard.requireConditions key children with
  | case1 => exact of_ok ()
  | case2 rest _ ih => exact ih
  | case3 => exact of_rule _

mutual

theorem checkCondition {lead : PathLead} {data : Document} (c : List (String × Value)) :
    SparesStages (DocGuard.checkCondition lead data c) := by
  cases c with
  | nil => exact of_ok true
  | cons e rest =>
    obtain ⟨key, spec⟩ := e
    refine bind (checkEntry key spec) fun here => ?_
    cases here with
    | true => exact checkCondition rest
    | false => exact of_ok false

theorem checkEntry {lead : PathLead} {data : Document} (key : String) (spec : Value) :
    SparesStages (DocGuard.checkEntry lead data key spec) := by
  by_cases hkey : key = "$and" ∨ key = "$or"
  · cases spec with
    | array children =>
      rw [DocGuard.checkEntry]
      by_cases hand : key = "$and"
      · rw [if_pos hand]
        exact bind (requireConditions key children) fun _ => checkAll children
      · rw [if_neg hand, if_pos (hkey.resolve_left hand)]
        refine bind (requireConditions key children) fun _ => ?_
        split
        · exact of_ok true
        · exact checkAny children
    | _ =>
      rw [checkEntry_noList hkey fun _ => Value.noConfusion]
      exact of_rule _
  · rw [checkEntry_leaf hkey]
    exact checkLeaf _ _ _ _

theorem checkAll {lead : PathLead} {data : Document} (children : List Value) :
    SparesStages (DocGuard.checkAll lead data children) := by
  match children with
  | [] => exact of_ok true
  | child :: rest =>
    cases child with
    | doc condition =>
      refine bind (checkCondition condition) fun here => ?_
      cases here with
      | true => exact checkAll rest
      | false => exact of_ok false
    | _ => exact checkAll rest

theorem checkAny {lead : PathLead} {data : Document} (children : List Value) :
    SparesStages (DocGuard.checkAny lead data children) := by
  match children with
  | [] => exact of_ok false
  | child :: rest =>
    cases child with
    | doc condition =>
      refine bind (checkCondition condition) fun here => ?_
      cases here with
      | true => exact of_ok true
      | false => exact checkAny rest
    | _ => exact checkAny rest

end

theorem referencedName (reference : Value) : SparesStages (DocGuard.referencedName reference) := by
  unfold DocGuard.referencedName
  split
  · split
    · split
      · exact of_ok _
      · exact of_rule _
    · exact of_rule _
  · exact of_rule _

end SparesStages

namespace Judge

/-- Whether a fault is that of a permission of the role. -/
def FailsBy (j : Judge) (e : Fault) : Prop :=
  ∃ p, j.role.States p ∧ (j.permits (some p)).result = .error e

/-- A permission fails as a stage does only where a function answers so. -/
theorem FailsBy.of_stage {j : Judge} {defect : StageDefect} (h : j.FailsBy (.stage defect)) :
    ∃ name, j.caller name [.doc j.inquiry.document] (.ofUser j.inquiry.user) =
      .error (.stage defect) := by
  obtain ⟨p, -, hp⟩ := h
  cases p with
  | fixed granted => cases hp
  | condition c =>
    change (j.inquiry.holds j.caller c).result = _ at hp
    unfold Inquiry.holds at hp
    dsimp only at hp
    split at hp
    · next reference expected _ =>
      cases hname : referencedName reference with
      | error e =>
        rw [hname] at hp
        cases hp
        exact absurd hname (SparesStages.referencedName reference defect)
      | ok name =>
        rw [hname] at hp
        refine ⟨name, ?_⟩
        change (Traced.call _ _ _ _ >>= _ : Traced Bool).result = _ at hp
        cases hanswer : j.caller name [.doc j.inquiry.document] (.ofUser j.inquiry.user) with
        | error e =>
          rw [Traced.bind_of_error hanswer] at hp
          exact congrArg Except.error (Except.error.inj hp)
        | ok answer =>
          rw [Traced.bind_of_ok hanswer] at hp
          cases hp
    · exact absurd hp (SparesStages.checkCondition _ defect)

end Judge

end DocGuard
