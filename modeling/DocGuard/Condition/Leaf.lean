import DocGuard.Condition.Operator
import DocGuard.Document.Path

/-!
# Leaves of conditions

A leaf pairs a path with a value that says what to expect there. A document names an operator, in
a short or a long form; any other value stands for the operator that suits its kind. Paths may be
read under a lead, and an expected text can refer to another path of the same data.
-/

namespace DocGuard

open DocGuard.Text

/-- The place in the data at which plain paths start, if it is not the top. -/
abbrev PathLead := Option String

/-- The path that a written path stands for: behind a caret it starts at the top, with a dollar it
is taken as it is, and any other path starts at the lead. -/
def resolvePath (lead : PathLead) (path : String) : String :=
  match afterLead? path "^" with
  | some top => top
  | none =>
    if beginsWith path "$" then path
    else
      match lead with
      | some l => if l = "" then path else l ++ "." ++ path
      | none => path

structure Demand where
  operator : Operator
  expected : Option Value
  flags : Option Value

/-- The demand of a document: the long form with `op`, `value` and `opt`, or the short form whose
first key is the operator. -/
def Demand.ofDocument (d : Document) : Except Fault Demand :=
  match d.get? "op" with
  | some (.str name) => do
    return ⟨← Operator.ofName name, d.get? "value", d.get? "opt"⟩
  | some other => .error (.rule (.operatorNameExpected other))
  | none =>
    match d with
    | [] => .error (.operatorNotFound "<empty>")
    | (name, expected) :: _ => do
      return ⟨← Operator.ofName name, some expected, (d.get? "$options").or (d.get? "opt")⟩

/-- The demand that a value makes before references are followed. -/
def Demand.ofValue : Value → Except Fault Demand
  | .bool b => .ok ⟨.present, some (.bool b), none⟩
  | .str s =>
    if s = "$required" ∨ s = "$exists" then .ok ⟨.present, some (.bool true), none⟩
    else .ok ⟨.eq, some (.str s), none⟩
  | .array items => .ok ⟨.within, some (.array items), none⟩
  | .regex source letters => .ok ⟨.pattern, some (.regex source letters), none⟩
  | .doc entries => Demand.ofDocument entries
  | v => .ok ⟨.eq, some v, none⟩

/-- An expected value with a reference followed: a text that begins with `$ref:` stands for the
value at the path behind it. -/
def followReference (lead : PathLead) (data : Document) : Option Value → Option Value
  | some (.str s) =>
    match afterLead? s "$ref:" with
    | some path => data.getPath (resolvePath lead path)
    | none => some (.str s)
  | other => other

def checkLeaf (lead : PathLead) (data : Document) (path : String) (spec : Value) :
    Except Fault Bool := do
  let demand ← Demand.ofValue spec
  demand.operator.apply (data.getPath (resolvePath lead path))
    (followReference lead data demand.expected) demand.flags

end DocGuard
