import DocGuard.Decision.Step

/-!
# Stages of a decision

A stage is a list of steps, the first of which is its usual entry. Stages run one after another
until one of them reaches a verdict. Within a stage no more steps run than it has, so every run
ends.
-/

namespace DocGuard

structure Stage where
  name : String
  steps : List Step
deriving DecidableEq, Repr

/-- How a stage or a whole decision ended. `allowed` is missing where no verdict was reached;
`entry` is then the step at which the next stage is to start. -/
structure Verdict where
  allowed : Option Bool
  document : Option Document
  entry : Option Step

namespace Stage

/-- The stage that every decision begins with. -/
def opening : Stage := ⟨"A", [.noop]⟩

def documentFilters : Stage := ⟨"documentFilters", [.checkDocumentFilters]⟩

def readPermissions : Stage :=
  ⟨"readPermissions", [.checkReadPermission, .checkWritePermission]⟩

def writePermissions : Stage :=
  ⟨"writePermissions",
    [.checkOperationType, .checkDeletePermission, .checkWriteOnly, .checkInsertPermission]⟩

def fieldFiltering : Stage :=
  ⟨"fieldFiltering", [.checkAdditionalFields, .checkIsValidFieldName]⟩

def forAccess (access : Access) : List Stage :=
  if access.isReading then [opening, documentFilters, readPermissions, fieldFiltering]
  else [opening, documentFilters, writePermissions, fieldFiltering]

/-- The step at which a stage starts: the one asked for if it has it, else its first. -/
def start? (stage : Stage) (entry : Option Step) : Option Step :=
  match entry with
  | some s => if s ∈ stage.steps then some s else stage.steps.head?
  | none => stage.steps.head?

end Stage

namespace Judge

/-- Runs a stage from a step on, for at most as many steps as the first argument says. -/
def runFrom (j : Judge) (stage : Stage) : Nat → Step → Option Bool → Traced Verdict
  | 0, _, _ => .fail (.stage (.endless stage.name))
  | left + 1, s, carry => do
    match ← j.step s carry with
    | .goOn next carry =>
      if next ∈ stage.steps then j.runFrom stage left next carry
      else .fail (.stage (.foreignStep next.name stage.name))
    | .done allowed document =>
      -- an allowed decision always yields a document
      let document := if allowed then document.or (some j.inquiry.document) else document
      return ⟨some allowed, document, none⟩
    | .advance entry => return ⟨none, none, entry⟩

def runStage (j : Judge) (stage : Stage) (entry : Option Step) : Traced Verdict :=
  match stage.start? entry with
  | some s => j.runFrom stage stage.steps.length s none
  | none => .fail (.stage (.noSteps stage.name))

/-- Runs stages in order until one reaches a verdict. -/
def runStages (j : Judge) : List Stage → Option Step → Traced Verdict
  | [], entry => pure ⟨none, none, entry⟩
  | stage :: rest, entry => do
    let v ← j.runStage stage entry
    -- the entry that one stage names is for the next one alone
    if v.allowed.isSome then return v else j.runStages rest v.entry

def decide (j : Judge) : Traced Verdict :=
  j.runStages (Stage.forAccess j.inquiry.access) none

end Judge

end DocGuard
