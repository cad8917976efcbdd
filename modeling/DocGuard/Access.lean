import DocGuard.Fault

/-!
# Access kinds

The kinds of access for which a document is judged.
-/

namespace DocGuard

inductive Access where
  | insert
  | read
  | delete
  | search
  | write
deriving DecidableEq, Repr

namespace Access

def isReading : Access → Bool
  | read => true
  | search => true
  | _ => false

def name : Access → String
  | insert => "insert"
  | read => "read"
  | delete => "delete"
  | search => "search"
  | write => "write"

/-- The access kind with a name, written in letters of either case. -/
def ofName (text : String) : Except Fault Access :=
  match String.ofList (text.toList.map Decimal.lowerLetter) with
  | "insert" => .ok insert
  | "read" => .ok read
  | "delete" => .ok delete
  | "search" => .ok search
  | "write" => .ok write
  | other => .error (.rule (.unknownAccess other))

end Access

end DocGuard
