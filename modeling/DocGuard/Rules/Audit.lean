import DocGuard.Function.Registry
import DocGuard.Rules.Evaluation

/-!
# Auditing rules

An audit looks at rules without any document: it reports operators and lists that could only fail,
and, where the functions are known, references to unknown ones. Of a row filter it looks at the
condition alone and not at the query.
-/

namespace DocGuard

/-- A fault found in the rules of a collection, with the role or filter that holds it. -/
structure RuleIssue where
  collection : String
  location : String
  fault : Fault

def leafFaults (spec : Value) : List Fault :=
  match Demand.ofValue spec with
  | .ok _ => []
  | .error e => [e]

mutual

def conditionFaults : List (String × Value) → List Fault
  | [] => []
  | (key, spec) :: rest => entryFaults key spec ++ conditionFaults rest

def entryFaults (key : String) : Value → List Fault
  | .array children =>
    if key = "$and" ∨ key = "$or" then childFaults key children else leafFaults (.array children)
  | spec =>
    if key = "$and" ∨ key = "$or" then [.rule (.listExpectedGot key spec)] else leafFaults spec

def childFaults (key : String) : List Value → List Fault
  | [] => []
  | .doc condition :: rest => conditionFaults condition ++ childFaults key rest
  | other :: rest => .rule (.conditionExpected key other) :: childFaults key rest

end

/-- The faults of a permission. A function reference has to name a known function, if the
functions are known. -/
def Permission.faults (registry : Option Registry) : Permission → List Fault
  | .fixed _ => []
  | .condition c =>
    match functionReference? c with
    | none => conditionFaults c
    | some (reference, _) =>
      match referencedName reference with
      | .error e => [e]
      | .ok name =>
        match registry with
        | none => []
        | some r => if (r.find? name).isSome then [] else [.functionNotFound name]

def Role.issues (registry : Option Registry) (r : Role) : List (String × Fault) :=
  (conditionFaults r.applyWhen).map (("role " ++ r.name ++ ": apply_when", ·)) ++
    (r.permissions.flatMap (Permission.faults registry)).map (("role " ++ r.name, ·))

def RowFilter.issues (f : RowFilter) : List (String × Fault) :=
  (conditionFaults f.applyWhen).map (("filter " ++ f.name ++ ": apply_when", ·))

/-- The located faults of a collection's rules, those of the filters first. -/
def CollectionRules.issues (registry : Option Registry) (rules : CollectionRules) :
    List (String × Fault) :=
  rules.filters.flatMap RowFilter.issues ++ rules.roles.flatMap (Role.issues registry)

/-- The faults of all rules, by collection in ascending order of names. -/
def RuleBook.issues (registry : Option Registry) (book : RuleBook) : List RuleIssue :=
  book.flatMap fun (name, rules) =>
    (rules.issues registry).map fun (location, fault) => ⟨name, location, fault⟩

end DocGuard
