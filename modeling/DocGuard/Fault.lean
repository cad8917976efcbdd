import DocGuard.Document.Display

/-!
# Faults

Everything that can go wrong, by cause. A fault has a message, a stable code and the status with
which a service answers it. The wording of all causes stands in this module alone.
-/

namespace DocGuard

inductive RuleDefect where
  /-- A logical key of a condition holds no list. -/
  | listExpected (key : String)
  /-- A logical key of an audited condition holds no list. -/
  | listExpectedGot (key : String) (got : Value)
  | conditionExpected (key : String) (got : Value)
  | operatorNameExpected (got : Value)
  | malformedReference (got : Value)
  | unknownAccess (name : String)
  | other (text : String)

def RuleDefect.message : RuleDefect → String
  | .listExpected key => key ++ " expects an array"
  | .listExpectedGot key got => key ++ " expects an array, got " ++ got.display
  | .conditionExpected key got => key ++ " entries must be documents, got " ++ got.display
  | .operatorNameExpected got => "op must be a string, got " ++ got.display
  | .malformedReference got => "malformed function reference " ++ got.display
  | .unknownAccess name => "unknown validation type '" ++ name ++ "'"
  | .other text => text

inductive StoreDefect where
  | filterListExpected (key : String)
  | filterExpected (key : String)
  /-- A stage does not have exactly one field. -/
  | stageShape
  | unknownStage (name : String)
  | documentExpected (name : String)
  | countExpected (name : String)
  /-- The list of names to unset holds something else than names. -/
  | unsetNames
  /-- What is to be unset is neither a name nor a list. -/
  | unsetShape
  /-- The element under test is used where no element is tested. -/
  | elementOutsideFilter
  | unknownExpression (name : String)
  | pairExpected (name : String)
  | argumentsExpected (name : String)
  | numberExpected (got : Value)
  | concatListExpected (got : Value)
  | unionListExpected
  /-- The arguments of an element filter are no document. -/
  | elementFilterShape
  | elementFilterNeeds (argument : String)
  | elementFilterInput (got : Value)
  | emptyUpdate
  /-- An update with a key that is no operator. -/
  | atomicOperatorsRequired
  | unknownUpdate (name : String)
  /-- A stored document has this id already. -/
  | duplicateKey (collection : String) (id : Value)
  /-- Two documents of one batch have the same id. -/
  | repeatedKey (collection : String)
  /-- The stages of an update left nothing of the document. -/
  | updateRemovedDocument
  /-- A change stream is opened with a stage that does not match. -/
  | streamStage
  /-- A change stream was read too late. -/
  | lagged (skipped : Nat)
  | other (text : String)

def StoreDefect.message : StoreDefect → String
  | .filterListExpected key => key ++ " must be an array"
  | .filterExpected key => key ++ " entries must be documents"
  | .stageShape => "a pipeline stage must have exactly one field"
  | .unknownStage name => "unsupported pipeline stage " ++ name
  | .documentExpected name => name ++ " expects a document"
  | .countExpected name => name ++ " expects a non-negative integer"
  | .unsetNames => "$unset expects field names"
  | .unsetShape => "$unset expects a field name or a list of field names"
  | .elementOutsideFilter => "$$this used outside $filter"
  | .unknownExpression name => "unsupported expression operator " ++ name
  | .pairExpected name => name ++ " expects two arguments"
  | .argumentsExpected name => name ++ " expects an array"
  | .numberExpected got => "$add only supports numbers, got " ++ got.display
  | .concatListExpected got => "$concatArrays only supports arrays, got " ++ got.display
  | .unionListExpected => "$setUnion only supports arrays"
  | .elementFilterShape => "$filter expects a document"
  | .elementFilterNeeds argument => "$filter requires " ++ argument
  | .elementFilterInput got => "$filter input must be an array, got " ++ got.display
  | .emptyUpdate => "update document must not be empty"
  | .atomicOperatorsRequired => "update document requires atomic operators"
  | .unknownUpdate name => "unsupported update operator " ++ name
  | .duplicateKey collection id =>
    "duplicate key in " ++ collection ++ ": _id " ++ id.display
  | .repeatedKey collection => "duplicate key in " ++ collection ++ ": batch repeats an _id"
  | .updateRemovedDocument => "update pipeline removed the document"
  | .streamStage => "change streams only support $match stages"
  | .lagged skipped => "change stream lagged, " ++ toString skipped ++ " events skipped"
  | .other text => text

inductive PatternDefect where
  | unsupported (got : Value)
  | malformed (reason : String)

def PatternDefect.message : PatternDefect → String
  | .unsupported got => "unsupported pattern value " ++ got.display
  | .malformed reason => reason

inductive StageDefect where
  | noSteps (stage : String)
  /-- A step continues at one that the stage does not have. -/
  | foreignStep (step stage : String)
  /-- The stage ran for as many steps as it has without an end. -/
  | endless (stage : String)
  | other (text : String)

def StageDefect.message : StageDefect → String
  | .noSteps stage => "stage " ++ stage ++ " has no states"
  | .foreignStep step stage => step ++ " is not a state of stage " ++ stage
  | .endless stage => "stage " ++ stage ++ " did not terminate"
  | .other text => text

inductive ConfigDefect where
  /-- Functions are to run in an external program, and none is named. -/
  | commandRequired
  | other (text : String)

def ConfigDefect.message : ConfigDefect → String
  | .commandRequired => "subprocess runtime requires a command"
  | .other text => text

inductive Fault where
  | insertNotPermitted
  | updateNotPermitted
  | deleteNotPermitted
  | operatorNotFound (name : String)
  | pattern (defect : PatternDefect)
  | rule (defect : RuleDefect)
  | functionNotFound (name : String)
  | function (text : String)
  /-- A function answered with JSON that stands for no value. -/
  | functionAnswer (reason : String)
  | functionTimeout (name : String)
  | collectionNotFound (name : String)
  | store (defect : StoreDefect)
  | config (defect : ConfigDefect)
  | stage (defect : StageDefect)
  | io (text : String)
  | json (text : String)
  | encoding (text : String)
  | decoding (text : String)

namespace Fault

def message : Fault → String
  | insertNotPermitted => "Insert not permitted"
  | updateNotPermitted => "Update not permitted"
  | deleteNotPermitted => "Delete not permitted"
  | operatorNotFound name => "Operator not found: " ++ name
  | pattern defect => "Invalid regular expression: " ++ defect.message
  | rule defect => "Invalid rule: " ++ defect.message
  | functionNotFound name => "Function not found: " ++ name
  | function text => "Function error: " ++ text
  | functionAnswer reason => "Function error: " ++ reason
  | functionTimeout name => "Function timed out: " ++ name
  | collectionNotFound name => "Collection not found: " ++ name
  | store defect => "Database error: " ++ defect.message
  | config defect => "Configuration error: " ++ defect.message
  | stage defect => "Internal error: " ++ defect.message
  | io text => "IO error: " ++ text
  | json text => "JSON error: " ++ text
  | encoding text => "BSON serialization error: " ++ text
  | decoding text => "BSON deserialization error: " ++ text

/-- The status with which a service answers a fault. -/
def status : Fault → Nat
  | pattern _ => 400
  | insertNotPermitted => 403
  | updateNotPermitted => 403
  | deleteNotPermitted => 403
  | functionNotFound _ => 404
  | collectionNotFound _ => 404
  | functionTimeout _ => 504
  | _ => 500

/-- The stable code of a fault in answers to programs. -/
def code : Fault → String
  | insertNotPermitted => "permission_denied"
  | updateNotPermitted => "permission_denied"
  | deleteNotPermitted => "permission_denied"
  | operatorNotFound _ => "operator_not_found"
  | pattern _ => "invalid_regex"
  | rule _ => "invalid_rule"
  | functionNotFound _ => "function_not_found"
  | function _ => "function_error"
  | functionAnswer _ => "function_error"
  | functionTimeout _ => "function_timeout"
  | collectionNotFound _ => "collection_not_found"
  | store _ => "database_error"
  | config _ => "config_error"
  | stage _ => "internal_error"
  | io _ => "io_error"
  | json _ => "json_error"
  | encoding _ => "bson_error"
  | decoding _ => "bson_error"

def isDenial (f : Fault) : Bool :=
  f.status == 403

end Fault

end DocGuard
