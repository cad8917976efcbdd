import DocGuard.Function.Call
import DocGuard.Rules.Selection

/-!
# Evaluating permissions

A permission is evaluated for one document and one user. Its condition is expanded first and then
checked against the substitutions themselves, so that it reaches the document through `%%root`.
A condition with a function reference is decided by the function alone.
-/

namespace DocGuard

/-- The entry under which substitutions hold the document. -/
def rootKey : String := "%%root"

/-- What is to be decided: may this user access this document in this way? -/
structure Inquiry where
  document : Document
  user : Document
  access : Access
  expansions : Document

def Inquiry.of (document user : Document) (access : Access) : Inquiry :=
  ⟨document, user, access, [(userKey, .doc user), (rootKey, .doc document)]⟩

/-- The reference to a function in a condition, and the answer it expects. -/
def functionReference? (condition : Document) : Option (Value × Bool) :=
  match condition.get? trueKey with
  | some reference => some (reference, true)
  | none => (condition.get? falseKey).map fun reference => (reference, false)

def referencedName : Value → Except Fault String
  | .doc entries =>
    match Document.get? entries "%function" with
    | some (.doc inner) =>
      match Document.get? inner "name" with
      | some (.str name) => .ok name
      | _ => .error (.rule (.malformedReference (.doc entries)))
    | _ => .error (.rule (.malformedReference (.doc entries)))
  | v => .error (.rule (.malformedReference v))

def Inquiry.substitutions (q : Inquiry) : Document :=
  q.expansions.insert trueKey (.bool true)

def Inquiry.holds (q : Inquiry) (caller : Caller) (condition : Document) : Traced Bool :=
  let expanded := condition.expand q.substitutions
  match functionReference? expanded with
  -- whatever else the condition demands is not looked at
  | some (reference, expected) => do
    let name ← referencedName reference
    let answer ← Traced.call caller name [.doc q.document] (.ofUser q.user)
    return truthy (some answer) == expected
  | none => Traced.lift (checkCondition none q.substitutions expanded)

/-- Whether a permission is given; an absent one is not. -/
def Inquiry.permits (q : Inquiry) (caller : Caller) : Option Permission → Traced Bool
  | none => pure false
  | some (.fixed granted) => pure granted
  | some (.condition c) => q.holds caller c

/-- Whether one of several permissions is given; those after the first are not evaluated. -/
def Inquiry.permitsSome (q : Inquiry) (caller : Caller) :
    List (Option Permission) → Traced Bool
  | [] => pure false
  | p :: rest => do
    if ← q.permits caller p then return true else q.permitsSome caller rest

end DocGuard
