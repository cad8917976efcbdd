import DocGuard.Access
import DocGuard.Naming

/-!
# Rules

The rules of a collection: roles, each with permissions for the kinds of access and grants for
single fields, and row filters, which narrow every query.
-/

namespace DocGuard

/-- A permission: given or refused outright, or subject to a condition. A condition may refer to a
function instead. -/
inductive Permission where
  | fixed (granted : Bool)
  | condition (c : Document)

/-- The entry under which a function reference expects a true answer. -/
def trueKey : String := "%%true"

/-- The entry under which a function reference expects a false answer. -/
def falseKey : String := "%%false"

/-- The permission that a function decides: it is given when the function's answer is as
expected. -/
def Permission.ofFunction (name : String) (expected : Bool) : Permission :=
  .condition [(if expected then trueKey else falseKey,
    .doc [("%function", .doc [("name", .str name)])])]

def Permission.toValue : Permission → Value
  | .fixed granted => .bool granted
  | .condition c => .doc c

/-- What is granted for a field; an absent grant is none. -/
structure FieldGrant where
  read : Option Bool
  write : Option Bool
deriving DecidableEq, Repr

/-- Whether a grant covers an access: fields that can be written can be read, and every access
that does not only read needs the right to write. -/
def FieldGrant.permits (g : FieldGrant) (access : Access) : Bool :=
  let write := g.write.getD false
  if access.isReading then g.read.getD false || write else write

/-- Permissions that gate whole documents before fields are looked at. -/
structure DocumentFilters where
  read : Option Permission
  write : Option Permission

structure Role where
  name : String
  applyWhen : Document
  search : Option Permission
  filters : Option DocumentFilters
  read : Option Permission
  write : Option Permission
  insert : Option Permission
  delete : Option Permission
  fields : Table FieldGrant
  additionalFields : Table FieldGrant

/-- A role that always applies and grants nothing. -/
def Role.bare (name : String) : Role :=
  { name, applyWhen := [], search := none, filters := none, read := none, write := none
    insert := none, delete := none, fields := [], additionalFields := [] }

/-- The grant for a field; named fields go before additional ones. -/
def Role.grant? (r : Role) (field : String) : Option FieldGrant :=
  (r.fields.find? field).or (r.additionalFields.find? field)

def Role.permitsField (r : Role) (access : Access) (field : String) : Bool :=
  match r.grant? field with
  | some g => g.permits access
  | none => false

/-- The permissions of a role, in the order in which they are audited. -/
def Role.permissions (r : Role) : List Permission :=
  let gates : List Permission := match r.filters with
    | some f => f.read.toList ++ f.write.toList
    | none => []
  r.search.toList ++ r.read.toList ++ r.write.toList ++ r.insert.toList ++ r.delete.toList ++ gates

/-- A query that narrows what a user can reach. -/
structure RowFilter where
  name : String
  applyWhen : Document
  query : Option Document

structure CollectionRules where
  roles : List Role
  filters : List RowFilter

abbrev RuleBook := Table CollectionRules

def RuleBook.roles (book : RuleBook) (collection : String) : List Role :=
  match book.find? collection with
  | some rules => rules.roles
  | none => []

def RuleBook.filters (book : RuleBook) (collection : String) : List RowFilter :=
  match book.find? collection with
  | some rules => rules.filters
  | none => []

end DocGuard
