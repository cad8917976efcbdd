import DocGuard.Decision.Stage
import DocGuard.Store.Stream

/-!
# Guards

A guard stands between a user and a collection. It narrows every query by the row filter that
applies to the user, and judges every document that is read or written by the first role that
applies to it. A document to which no role applies passes as it is.
-/

namespace DocGuard

/-- The rules under which a user reaches a collection. A guard for the system applies none. -/
structure Guard where
  rules : RuleBook
  collection : String
  user : Document
  asSystem : Bool
  caller : Caller

def Access.denial : Access → Fault
  | .insert => .insertNotPermitted
  | .delete => .deleteNotPermitted
  | _ => .updateNotPermitted

namespace Guard

def roles (g : Guard) : List Role :=
  g.rules.roles g.collection

def filters (g : Guard) : List RowFilter :=
  g.rules.filters g.collection

/-- A query narrowed to what the user can reach; the row filter stands in front. -/
def narrow (g : Guard) (query : Document) : Except Fault Document := do
  return conjoin (← queryParts g.filters query g.user)

def judge (g : Guard) (role : Role) (d : Document) (access : Access) : Judge :=
  ⟨role, .of d g.user access, g.caller⟩

/-- What the user sees of a document: a part of it, or nothing. -/
def validate (g : Guard) (d : Document) (access : Access) : Traced (Option Document) := do
  match ← winningRole? d g.user g.roles with
  | none => return some d
  | some role =>
    let verdict ← (g.judge role d access).decide
    return if verdict.allowed = some true then verdict.document else none

/-- Demands that a document may be written in full. -/
def demandUnchanged (g : Guard) (access : Access) (d : Document) : Traced Unit := do
  match ← g.validate d access with
  | some seen => if seen.equal d then return () else .fail access.denial
  | none => .fail access.denial

def demandDeletion (g : Guard) (d : Document) : Traced Unit := do
  if (← g.validate d .delete).isSome then return () else .fail .deleteNotPermitted

end Guard

end DocGuard
