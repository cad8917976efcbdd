import DocGuard.Proofs.Decision
import DocGuard.Proofs.StageFault
import Mathlib.Data.List.Perm.Subperm

/-!
# Runs of a stage

A stage gives its steps only so many turns as it has steps. Here a run is written down without that
bound, as the steps that it visits and how it ends. Every step continues only at steps from which
the way to an end is shorter, so a run visits no step twice, and the bound, which is the number of
steps of the stage, is never what ends it.
-/

namespace DocGuard

/-! ## The graph of the steps -/

namespace Step

/-- The steps at which a step may continue. -/
def followers : Step → List Step
  | checkReadPermission => [checkWritePermission]
  | checkOperationType => [checkDeletePermission, checkWriteOnly]
  | checkWriteOnly => [checkInsertPermission]
  | checkAdditionalFields => [checkIsValidFieldName]
  | _ => []

/-- How many steps can follow a step at most. -/
def reach : Step → Nat
  | checkReadPermission => 1
  | checkOperationType => 2
  | checkWriteOnly => 1
  | checkAdditionalFields => 1
  | _ => 0

theorem reach_lt_of_mem_followers {s next : Step} (h : next ∈ s.followers) :
    next.reach < s.reach := by
  cases s <;> simp only [followers, List.mem_cons, List.not_mem_nil, or_false] at h
  case checkOperationType => obtain rfl | rfl := h <;> decide
  all_goals subst h; decide

end Step

/-! ## What a step can do -/

namespace Judge

variable {j : Judge} {s : Step}

/-- Whether a computation can be that of a step: it continues only at a follower, and fails only as
a permission of the role does. -/
def Orderly (j : Judge) (s : Step) (x : Traced Outcome) : Prop :=
  match x.result with
  | .ok (.goOn next _) => next ∈ s.followers
  | .ok _ => True
  | .error e => j.FailsBy e

namespace Orderly

theorem permits {p : Option Permission} {f : Bool → Traced Outcome}
    (hp : ∀ q, p = some q → j.role.States q) (hf : ∀ granted, j.Orderly s (f granted)) :
    j.Orderly s (j.permits p >>= f) := by
  cases hresult : (j.permits p).result with
  | ok granted =>
    rw [Traced.bind_of_ok hresult]
    exact hf granted
  | error e =>
    rw [Traced.bind_of_error hresult]
    cases p with
    | none => cases hresult
    | some q => exact ⟨q, hp q rfl, hresult⟩

theorem permitsSome {ps : List (Option Permission)} {f : Bool → Traced Outcome}
    (hps : ∀ q, some q ∈ ps → j.role.States q) (hf : ∀ granted, j.Orderly s (f granted)) :
    j.Orderly s (j.inquiry.permitsSome j.caller ps >>= f) := by
  induction ps with
  | nil => exact hf false
  | cons p rest ih =>
    unfold Inquiry.permitsSome
    rw [bind_assoc]
    refine permits (fun q hq => hps q (hq ▸ List.mem_cons_self)) fun here => ?_
    cases here with
    | true => exact hf true
    | false => exact ih fun q hq => hps q (List.mem_cons_of_mem _ hq)

end Orderly

theorem states_of_mem_gates {gates : DocumentFilters} (hfilters : j.role.filters = some gates)
    {q : Permission} (hq : some q ∈ j.gates gates) : j.role.States q := by
  unfold Judge.gates at hq
  rcases List.mem_append.mp hq with hread | hwrite
  · split at hread
    · exact .readGate hfilters (List.mem_singleton.mp hread).symm
    · cases hread
  · split at hwrite
    · cases hwrite
    · exact .writeGate hfilters (List.mem_singleton.mp hwrite).symm

/-- Every step, in whatever state of the decision, continues at a follower if it continues in its
stage, and fails only as a permission of the role does. -/
theorem orderly_step (j : Judge) (s : Step) (carry : Option Bool) :
    j.Orderly s (j.step s carry) := by
  cases s with
  | noop => trivial
  | checkDocumentFilters =>
    change j.Orderly _ j.documentFilters
    unfold documentFilters
    cases hfilters : j.role.filters with
    | none => trivial
    | some gates =>
      refine .permitsSome (fun q hq => states_of_mem_gates hfilters hq) fun opened => ?_
      cases opened <;> trivial
  | checkReadPermission =>
    have hstates : ∀ q, j.readPermission? = some q → j.role.States q := by
      intro q hq
      unfold readPermission? at hq
      split at hq
      · exact .search hq
      · exact .read hq
    refine .permits hstates fun granted => ?_
    cases granted with
    | true => trivial
    | false => exact List.mem_singleton_self _
  | checkWritePermission =>
    refine .permits (fun q hq => .write hq) fun granted => ?_
    cases granted with
    | true => trivial
    | false =>
      by_cases hcarry : carry = some false
      · rw [if_neg Bool.false_ne_true, if_pos hcarry]
        trivial
      · rw [if_neg Bool.false_ne_true, if_neg hcarry]
        trivial
  | checkOperationType =>
    change (if _ then _ else _) ∈ Step.followers _
    split <;> decide
  | checkDeletePermission => exact .permits (fun q hq => .delete hq) fun granted => trivial
  | checkWriteOnly =>
    change j.Orderly _ j.writeOnly
    unfold writeOnly
    cases hwrite : j.role.write with
    | none => trivial
    | some write =>
      refine .permits (fun q hq => .write (hwrite.trans hq)) fun granted => ?_
      cases granted with
      | false => trivial
      | true =>
        by_cases hinsert : j.inquiry.access = .insert
        · simp only [if_pos hinsert]
          exact List.mem_singleton_self _
        · simp only [if_neg hinsert]
          trivial
  | checkInsertPermission =>
    refine .permits (fun q hq => .insert hq) fun granted => ?_
    cases granted <;> trivial
  | checkAdditionalFields =>
    change j.Orderly _ (pure j.additionalFields)
    unfold additionalFields
    split
    · exact List.mem_singleton_self _
    · trivial
  | checkIsValidFieldName =>
    change j.Orderly _ (pure j.validFields)
    unfold validFields
    split <;> trivial

end Judge

/-! ## Runs without a bound -/

/-- A stage with steps starts at one of them. -/
theorem Stage.exists_start (stage : Stage) (entry : Option Step) (hsteps : stage.steps ≠ []) :
    ∃ first, stage.start? entry = some first ∧ first ∈ stage.steps := by
  have hhead : ∃ first, stage.steps.head? = some first ∧ first ∈ stage.steps :=
    ⟨_, List.head?_eq_some_head hsteps, List.head_mem hsteps⟩
  cases entry with
  | none => exact hhead
  | some s =>
    by_cases hs : s ∈ stage.steps
    · exact ⟨s, if_pos hs, hs⟩
    · rw [start?, if_neg hs]
      exact hhead

namespace Judge

variable {j : Judge} {stage : Stage} {s : Step} {carry : Option Bool} {visited : List Step}
  {outcome : Traced Verdict}

/-- The runs of a stage from a step on, with the steps that they visit, the calls that they make and
how they end. Only the steps say when a run is over. -/
inductive Run (j : Judge) (stage : Stage) :
    Step → Option Bool → List Step → Traced Verdict → Prop
  | fails {s : Step} {carry : Option Bool} {e : Fault}
      (h : (j.step s carry).result = .error e) :
    Run j stage s carry [s] ⟨(j.step s carry).calls, .error e⟩
  | decides {s : Step} {carry : Option Bool} {allowed : Bool} {document : Option Document}
      (h : (j.step s carry).result = .ok (.done allowed document)) :
    Run j stage s carry [s] ⟨(j.step s carry).calls,
      .ok ⟨some allowed, if allowed then document.or (some j.inquiry.document) else document, none⟩⟩
  | handsOver {s : Step} {carry : Option Bool} {entry : Option Step}
      (h : (j.step s carry).result = .ok (.advance entry)) :
    Run j stage s carry [s] ⟨(j.step s carry).calls, .ok ⟨none, none, entry⟩⟩
  | strays {s next : Step} {carry found : Option Bool}
      (h : (j.step s carry).result = .ok (.goOn next found)) (hnext : next ∉ stage.steps) :
    Run j stage s carry [s]
      ⟨(j.step s carry).calls, .error (.stage (.foreignStep next.name stage.name))⟩
  | goesOn {s next : Step} {carry found : Option Bool} {visited : List Step}
      {outcome : Traced Verdict}
      (h : (j.step s carry).result = .ok (.goOn next found)) (hnext : next ∈ stage.steps)
      (rest : Run j stage next found visited outcome) :
    Run j stage s carry (s :: visited) ⟨(j.step s carry).calls ++ outcome.calls, outcome.result⟩

/-- The ways in which a stage can end: with a verdict, by handing over to the next stage, with the
fault of a permission of the role, or at a step that it does not have. -/
inductive Settled (j : Judge) (stage : Stage) : Except Fault Verdict → Prop
  | verdict (allowed : Bool) (document : Option Document) :
    Settled j stage (.ok ⟨some allowed, document, none⟩)
  | handOver (entry : Option Step) : Settled j stage (.ok ⟨none, none, entry⟩)
  | permission {e : Fault} (h : j.FailsBy e) : Settled j stage (.error e)
  | foreign {next : Step} (h : next ∉ stage.steps) :
    Settled j stage (.error (.stage (.foreignStep next.name stage.name)))

/-- Where a step continues, the way to an end is shorter. -/
theorem reach_lt_of_step {next : Step} {found : Option Bool}
    (h : (j.step s carry).result = .ok (.goOn next found)) : next.reach < s.reach := by
  have horderly := j.orderly_step s carry
  unfold Orderly at horderly
  rw [h] at horderly
  exact Step.reach_lt_of_mem_followers horderly

/-- From every step there is a run. -/
theorem exists_run (j : Judge) (stage : Stage) (s : Step) (carry : Option Bool) :
    ∃ visited outcome, j.Run stage s carry visited outcome := by
  -- the induction is on how many steps can still follow
  induction hreach : s.reach using Nat.strongRecOn generalizing s carry with
  | ind reach ih =>
    cases hstep : (j.step s carry).result with
    | error e => exact ⟨_, _, .fails hstep⟩
    | ok o =>
      cases o with
      | done allowed document => exact ⟨_, _, .decides hstep⟩
      | advance entry => exact ⟨_, _, .handsOver hstep⟩
      | goOn next found =>
        by_cases hnext : next ∈ stage.steps
        · have hless : next.reach < reach := hreach ▸ reach_lt_of_step hstep
          obtain ⟨visited, outcome, hrest⟩ := ih _ hless next found rfl
          exact ⟨_, _, .goesOn hstep hnext hrest⟩
        · exact ⟨_, _, .strays hstep hnext⟩

namespace Run

/-- The way to an end gets shorter from each step of a run to the steps behind it. -/
theorem pairwise_reach (h : j.Run stage s carry visited outcome) :
    (visited.Pairwise fun a b => b.reach < a.reach) ∧ ∀ t ∈ visited, t.reach ≤ s.reach := by
  induction h with
  | goesOn hstep _ _ ih =>
    obtain ⟨hpairwise, hbound⟩ := ih
    have hless := reach_lt_of_step hstep
    refine ⟨List.pairwise_cons.mpr ⟨fun t ht => ?_, hpairwise⟩, List.forall_mem_cons.mpr ⟨?_, ?_⟩⟩
    · exact Nat.lt_of_le_of_lt (hbound t ht) hless
    · exact Nat.le_refl _
    · exact fun t ht => Nat.le_of_lt (Nat.lt_of_le_of_lt (hbound t ht) hless)
  | _ =>
    refine ⟨List.pairwise_singleton _ _, fun t ht => ?_⟩
    exact Nat.le_of_eq (congrArg Step.reach (List.mem_singleton.mp ht))

theorem nodup (h : j.Run stage s carry visited outcome) : visited.Nodup :=
  h.pairwise_reach.1.imp fun hless heq => Nat.ne_of_gt hless (congrArg Step.reach heq)

theorem subset (h : j.Run stage s carry visited outcome) (hs : s ∈ stage.steps) :
    visited ⊆ stage.steps := by
  induction h with
  | goesOn _ hnext _ ih => exact List.cons_subset.mpr ⟨hs, ih hnext⟩
  | _ => exact List.cons_subset.mpr ⟨hs, List.nil_subset _⟩

/-- A run that visits different steps of the stage only has turns enough. -/
theorem length_le (h : j.Run stage s carry visited outcome) (hs : s ∈ stage.steps) :
    visited.length ≤ stage.steps.length :=
  (List.subperm_of_subset h.nodup (h.subset hs)).length_le

theorem settled (h : j.Run stage s carry visited outcome) : j.Settled stage outcome.result := by
  induction h with
  | @fails s carry e hstep =>
    have horderly := j.orderly_step s carry
    unfold Orderly at horderly
    rw [hstep] at horderly
    exact .permission horderly
  | decides => exact .verdict _ _
  | handsOver => exact .handOver _
  | strays _ hnext => exact .foreign hnext
  | goesOn _ _ _ ih => exact ih

/-- With turns enough the stage goes the way of the run, to its end. -/
theorem runFrom_eq (h : j.Run stage s carry visited outcome) {turns : Nat}
    (hturns : visited.length ≤ turns) : j.runFrom stage turns s carry = outcome := by
  induction h generalizing turns with
  | fails hstep =>
    obtain ⟨left, rfl⟩ := Nat.exists_eq_add_of_le' hturns
    rw [List.length_singleton, runFrom, Traced.bind_of_error hstep]
  | decides hstep
  | handsOver hstep =>
    obtain ⟨left, rfl⟩ := Nat.exists_eq_add_of_le' hturns
    rw [List.length_singleton, runFrom, Traced.bind_of_ok hstep]
    exact congrArg (Traced.mk · _) (List.append_nil _)
  | strays hstep hnext =>
    obtain ⟨left, rfl⟩ := Nat.exists_eq_add_of_le' hturns
    rw [List.length_singleton, runFrom, Traced.bind_of_ok hstep]
    simp only [if_neg hnext]
    exact congrArg (Traced.mk · _) (List.append_nil _)
  | goesOn hstep hnext _ ih =>
    obtain ⟨left, rfl⟩ := Nat.exists_eq_add_of_le' hturns
    rw [List.length_cons, ← Nat.add_assoc, runFrom, Traced.bind_of_ok hstep]
    simp only [if_pos hnext]
    rw [ih (Nat.le_add_left _ _)]

end Run

/-- A stage with steps settles. It starts at one of its steps and goes the way of a run without a
bound; every such run visits different steps of the stage only, and has the calls and the end of the
stage. This end is a verdict, a hand-over, the fault of a permission of the role, or a step that the
stage does not have. That a stage ran for too long is said only where a function of the user says so
itself. -/
theorem runStage_settles (j : Judge) (stage : Stage) (entry : Option Step)
    (hsteps : stage.steps ≠ []) :
    ∃ first, stage.start? entry = some first ∧ first ∈ stage.steps ∧
      (∃ visited, j.Run stage first none visited (j.runStage stage entry)) ∧
      (∀ visited outcome, j.Run stage first none visited outcome →
        visited.Nodup ∧ visited ⊆ stage.steps ∧ outcome = j.runStage stage entry) ∧
      j.Settled stage (j.runStage stage entry).result ∧
      ∀ name, (j.runStage stage entry).result = .error (.stage (.endless name)) →
        ∃ function, j.caller function [.doc j.inquiry.document] (.ofUser j.inquiry.user) =
          .error (.stage (.endless name)) := by
  obtain ⟨first, hstart, hfirst⟩ := stage.exists_start entry hsteps
  have hstage : j.runStage stage entry = j.runFrom stage stage.steps.length first none := by
    rw [runStage, hstart]
  have hruns : ∀ visited outcome, j.Run stage first none visited outcome →
      outcome = j.runStage stage entry := by
    intro visited outcome hrun
    rw [hstage, hrun.runFrom_eq (hrun.length_le hfirst)]
  obtain ⟨visited, outcome, hrun⟩ := j.exists_run stage first none
  obtain rfl := hruns visited outcome hrun
  refine ⟨first, hstart, hfirst, ⟨visited, hrun⟩, ?_, hrun.settled, ?_⟩
  · exact fun _ _ h => ⟨h.nodup, h.subset hfirst, hruns _ _ h⟩
  · intro name hendless
    have hsettled := hrun.settled
    rw [hendless] at hsettled
    cases hsettled with
    | permission hfails => exact hfails.of_stage

/-- A stage that names a step twice, entered in its middle, visits it once. -/
theorem runStage_repeatedStep :
    let stage : Stage := ⟨"writing", [.checkWriteOnly, .checkOperationType, .checkWriteOnly]⟩
    let role : Role := { Role.bare "editor" with write := some (.fixed true) }
    let j : Judge := (Guard.underRole role).judge role [("title", .str "a")] .write
    stage.steps ≠ [] ∧
      j.Run stage .checkOperationType none [.checkOperationType, .checkWriteOnly]
        (j.runStage stage (some .checkOperationType)) := by
  intro stage role j
  have hsteps : stage.steps ≠ [] := List.cons_ne_nil _ _
  have hrun : ∃ outcome, j.Run stage .checkOperationType none
      [.checkOperationType, .checkWriteOnly] outcome :=
    ⟨_, .goesOn rfl (by decide) (.decides rfl)⟩
  obtain ⟨outcome, hrun⟩ := hrun
  obtain ⟨first, hstart, -, -, hruns, -⟩ := runStage_settles j stage (some .checkOperationType) hsteps
  obtain rfl : .checkOperationType = first := Option.some.inj hstart
  obtain ⟨-, -, rfl⟩ := hruns _ _ hrun
  exact ⟨hsteps, hrun⟩

end Judge

end DocGuard
