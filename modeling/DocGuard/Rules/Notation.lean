import DocGuard.ExtendedJson.Members
import DocGuard.Function.Registry
import DocGuard.Json.Reader
import DocGuard.Rules.Basic

/-!
# Rule files

The written form of rules and of declared functions. A record is an object, whose unknown members
are skipped, or the list of its fields from the first on. A field that is not there takes its
default, but null stands only where a field may be absent.
-/

namespace DocGuard

namespace Json

/-- Whether no known name stands twice among members. -/
def noRepeats (names : List String) : List (String × Json) → Bool
  | [] => true
  | (k, _) :: rest => !(k ∈ names && (member? rest k).isSome) && noRepeats names rest

def looseRecord (names : List String) : Json → Reasoned (List (String × Json))
  | .object members => if noRepeats names members then .ok members else wrongValue
  | .array items => if items.length ≤ names.length then .ok (names.zip items) else wrongValue
  | _ => wrongKind

def fieldOr {α : Type} (default : α) (record : List (String × Json)) (name : String)
    (read : Json → Reasoned α) : Reasoned α :=
  match member? record name with
  | some j => read j
  | none => .ok default

/-- What may be absent: null stands for nothing. -/
def orAbsent {α : Type} (read : Json → Reasoned α) : Json → Reasoned (Option α)
  | .null => .ok none
  | j => (read j).map some

def asBool : Json → Reasoned Bool
  | .bool b => .ok b
  | _ => wrongKind

def asList {α : Type} (read : Json → Reasoned α) : Json → Reasoned (List α)
  | .array items => items.mapM read
  | _ => wrongKind

/-- The members of an object as a table; of two with one name the last counts. -/
def asTable {α : Type} (read : Json → Reasoned α) : Json → Reasoned (Table α)
  | .object members => do
    return Table.ofEntries (← members.mapM fun (k, j) => do return (k, ← read j))
  | _ => wrongKind

end Json

/-- A document in a file, with some arrays and objects around it. -/
def fileDocument (around : Nat) : Json → Reasoned Document :=
  Document.ofJson around Json.maxHeight

def Permission.ofJson (around : Nat) : Json → Reasoned Permission
  | .bool b => .ok (.fixed b)
  | j => (fileDocument around j).map .condition

def FieldGrant.ofJson (j : Json) : Reasoned FieldGrant := do
  let record ← Json.looseRecord ["read", "write"] j
  return {
    read := ← Json.fieldOr none record "read" (Json.orAbsent Json.asBool)
    write := ← Json.fieldOr none record "write" (Json.orAbsent Json.asBool) }

def DocumentFilters.ofJson (j : Json) : Reasoned DocumentFilters := do
  let record ← Json.looseRecord ["read", "write"] j
  let gate (name : String) : Reasoned (Option Permission) :=
    Json.fieldOr none record name (Json.orAbsent (Permission.ofJson 4))
  return { read := ← gate "read", write := ← gate "write" }

/-- The names of a role's fields, in the order of its list form. -/
def Role.fieldNames : List String :=
  ["name", "apply_when", "search", "document_filters", "read", "write", "insert", "delete",
    "fields", "additional_fields"]

def Role.ofJson (j : Json) : Reasoned Role := do
  let record ← Json.looseRecord Role.fieldNames j
  let permission (name : String) : Reasoned (Option Permission) :=
    Json.fieldOr none record name (Json.orAbsent (Permission.ofJson 3))
  let grants (name : String) : Reasoned (Table FieldGrant) :=
    Json.fieldOr [] record name (Json.asTable FieldGrant.ofJson)
  return {
    name := ← Json.fieldOr "" record "name" Json.asText
    applyWhen := ← Json.fieldOr [] record "apply_when" (fileDocument 3)
    search := ← permission "search"
    filters := ← Json.fieldOr none record "document_filters"
      (Json.orAbsent DocumentFilters.ofJson)
    read := ← permission "read"
    write := ← permission "write"
    insert := ← permission "insert"
    delete := ← permission "delete"
    fields := ← grants "fields"
    additionalFields := ← grants "additional_fields" }

def RowFilter.ofJson (j : Json) : Reasoned RowFilter := do
  let record ← Json.looseRecord ["name", "apply_when", "query"] j
  return {
    name := ← Json.fieldOr "" record "name" Json.asText
    applyWhen := ← Json.fieldOr [] record "apply_when" (fileDocument 3)
    query := ← Json.fieldOr none record "query" (Json.orAbsent (fileDocument 3)) }

def CollectionRules.ofJson (j : Json) : Reasoned CollectionRules := do
  let record ← Json.looseRecord ["roles", "filters"] j
  return {
    roles := ← Json.fieldOr [] record "roles" (Json.asList Role.ofJson)
    filters := ← Json.fieldOr [] record "filters" (Json.asList RowFilter.ofJson) }

/-- A declared function. It has to have a name. -/
def StoredFunction.ofJson (j : Json) : Reasoned StoredFunction := do
  let record ← Json.looseRecord ["name", "source", "private", "run_as_system"] j
  return {
    name := ← Json.field record "name" Json.asText
    source := ← Json.fieldOr "" record "source" Json.asText
    hidden := ← Json.fieldOr false record "private" Json.asBool
    asSystem := ← Json.fieldOr false record "run_as_system" Json.asBool }

def ofJsonText {α : Type} (read : Json → Reasoned α) (text : String) : Reasoned α :=
  match Json.read? text.toList with
  | some j => read j
  | none => .error "no JSON value"

end DocGuard
