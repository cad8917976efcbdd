import DocGuard.Condition.Check
import DocGuard.Condition.Template
import DocGuard.Rules.Basic

/-!
# Selecting roles and row filters

Which roles and filters apply depends on the user and, where there is one, on the document. Of the
filters that apply only the first one narrows a query.
-/

namespace DocGuard

/-- The entry under which data holds the user. -/
def userKey : String := "%%user"

def ruleContext (user : Document) : Document :=
  [(userKey, .doc user), (trueKey, .bool true)]

/-- Whether the condition of a role or filter applies; an empty one always does. Paths are read
from the document with the user beside its entries. -/
def applies (condition user document : Document) : Except Fault Bool :=
  if condition.isEmpty then .ok true
  else
    checkCondition none (document.insert userKey (.doc user))
      (condition.expand (ruleContext user))

def applicableFilters (user document : Document) : List RowFilter → Except Fault (List RowFilter)
  | [] => .ok []
  | f :: rest => do
    let here ← applies f.applyWhen user document
    -- the filters behind one that applies are looked at too, and their faults count
    let others ← applicableFilters user document rest
    return if here then f :: others else others

/-- The parts of a narrowed query: the query of the first filter that applies, if it has one, and
the query asked. -/
def queryParts (filters : List RowFilter) (query user : Document) :
    Except Fault (List Document) := do
  match ← applicableFilters user [] filters with
  | { query := some narrow, .. } :: _ => return [narrow.expand (ruleContext user), query]
  | _ => return [query]

/-- The query that asks for all parts; a single part stands for itself. -/
def conjoin : List Document → Document
  | [part] => part
  | parts => [("$and", .array (parts.map .doc))]

def winningRole? (document user : Document) : List Role → Except Fault (Option Role)
  | [] => .ok none
  | role :: rest => do
    if ← applies role.applyWhen user document then return some role
    else winningRole? document user rest

end DocGuard
