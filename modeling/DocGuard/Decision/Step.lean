import DocGuard.Rules.Evaluation

/-!
# Steps of a decision

A decision about a document goes through named steps. A step continues at another step, ends the
whole decision, or ends its stage and may say where the next one starts.
-/

namespace DocGuard

inductive Step where
  | noop
  | checkDocumentFilters
  | checkReadPermission
  | checkWritePermission
  | checkOperationType
  | checkDeletePermission
  | checkWriteOnly
  | checkInsertPermission
  | checkAdditionalFields
  | checkIsValidFieldName
deriving DecidableEq, Repr

namespace Step

def list : List Step :=
  [noop, checkDocumentFilters, checkReadPermission, checkWritePermission, checkOperationType,
    checkDeletePermission, checkWriteOnly, checkInsertPermission, checkAdditionalFields,
    checkIsValidFieldName]

def name : Step → String
  | noop => "noop"
  | checkDocumentFilters => "checkDocumentFilters"
  | checkReadPermission => "checkReadPermission"
  | checkWritePermission => "checkWritePermission"
  | checkOperationType => "checkOperationType"
  | checkDeletePermission => "checkDeletePermission"
  | checkWriteOnly => "checkWriteOnly"
  | checkInsertPermission => "checkInsertPermission"
  | checkAdditionalFields => "checkAdditionalFields"
  | checkIsValidFieldName => "checkIsValidFieldName"

def ofName? (text : String) : Option Step :=
  list.find? fun s => s.name = text

end Step

inductive Outcome where
  /-- On to another step of the stage, which is told what this one found. -/
  | goOn (step : Step) (carry : Option Bool)
  /-- To the end of the decision; an allowed document stands for the one asked about if it is not
  given. -/
  | done (allowed : Bool) (document : Option Document)
  | advance (entry : Option Step)

def Outcome.allow : Outcome :=
  .done true none

def Outcome.deny : Outcome :=
  .done false none

structure Judge where
  role : Role
  inquiry : Inquiry
  caller : Caller

namespace Judge

def permits (j : Judge) (p : Option Permission) : Traced Bool :=
  j.inquiry.permits j.caller p

def permitsField (j : Judge) (field : String) : Bool :=
  j.role.permitsField j.inquiry.access field

/-- The entry into the stage of single fields: without named fields every field is checked
first. -/
def toFields (j : Judge) : Outcome :=
  .advance (some (if j.role.fields.isEmpty then .checkAdditionalFields else .checkIsValidFieldName))

/-- The gates that apply to the access: reading passes through either gate, searching through the
reading one, and every change through the writing one. -/
def gates (j : Judge) (filters : DocumentFilters) : List (Option Permission) :=
  let read := if j.inquiry.access.isReading then [filters.read] else []
  let write := if j.inquiry.access = .search then [] else [filters.write]
  read ++ write

def documentFilters (j : Judge) : Traced Outcome :=
  match j.role.filters with
  | none => pure (.advance none)
  | some filters => do
    if ← j.inquiry.permitsSome j.caller (j.gates filters) then return .advance none
    else return .deny

def readPermission? (j : Judge) : Option Permission :=
  if j.inquiry.access = .search then j.role.search else j.role.read

def readPermission (j : Judge) : Traced Outcome := do
  if ← j.permits j.readPermission? then return .allow
  -- a permission that is not stated refuses nothing: only one that was found wanting is carried
  else return .goOn .checkWritePermission (j.readPermission?.map fun _ => false)

/-- The permission to write, which allows reading too; `read` tells what the permission to read
gave. -/
def writePermission (j : Judge) (read : Option Bool) : Traced Outcome := do
  if ← j.permits j.role.write then return .allow
  else if read = some false then return .deny
  else return j.toFields

def deletePermission (j : Judge) : Traced Outcome := do
  return .done (← j.permits j.role.delete) none

def writeOnly (j : Judge) : Traced Outcome :=
  match j.role.write with
  -- a permission that is not stated leaves the decision to the single fields
  | none => pure j.toFields
  | some write => do
    if ← j.permits (some write) then
      -- an insertion needs both permissions
      return if j.inquiry.access = .insert then .goOn .checkInsertPermission none else .allow
    else return .deny

def insertPermission (j : Judge) : Traced Outcome := do
  return if ← j.permits j.role.insert then .allow else .deny

def additionalFields (j : Judge) : Outcome :=
  if j.inquiry.document.keys.all j.permitsField then .goOn .checkIsValidFieldName none else .deny

def permittedEntries (j : Judge) : Document :=
  j.inquiry.document.filter fun e => j.permitsField e.1

/-- The document cut down to the fields that may be accessed, if any is left. -/
def validFields (j : Judge) : Outcome :=
  if j.permittedEntries.isEmpty then .deny else .done true (some j.permittedEntries)

/-- Where a step leads; `carry` is what the step before it found. -/
def step (j : Judge) (s : Step) (carry : Option Bool) : Traced Outcome :=
  match s with
  | .noop => pure (.advance none)
  | .checkDocumentFilters => j.documentFilters
  | .checkReadPermission => j.readPermission
  | .checkWritePermission => j.writePermission carry
  | .checkOperationType =>
    pure (.goOn
      (if j.inquiry.access = .delete then .checkDeletePermission else .checkWriteOnly) none)
  | .checkDeletePermission => j.deletePermission
  | .checkWriteOnly => j.writeOnly
  | .checkInsertPermission => j.insertPermission
  | .checkAdditionalFields => pure j.additionalFields
  | .checkIsValidFieldName => pure j.validFields

end Judge

end DocGuard
