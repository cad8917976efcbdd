import DocGuard.Application
import DocGuard.CommandLine.Arguments

/-!
# Answers of the command line

The command line is a function from files and arguments to an exit code and the text written. Only
good answers and the list of issues are written; the code tells the rest.
-/

namespace DocGuard

open DocGuard.Text

structure ToolAnswer where
  code : Nat
  written : String
deriving DecidableEq, Repr

def usageText : String :=
  "Usage: flowerbase [--config FILE] [--log-level LEVEL] check\n" ++
  "       flowerbase [--config FILE] [--log-level LEVEL] eval --collection NAME\n" ++
  "           --document JSON [--type KIND] [--user JSON]\n"

/-- The settings in a file, or those without one if there is no such file. -/
def configAt (top : FileNode) (path : String) : Except Fault Config :=
  match top.find? path with
  | some _ => Config.load top path
  | none => .ok Config.default

def Application.overview (a : Application) : String :=
  toString a.rules.length ++ " collections, " ++ toString a.functions.registry.length ++
    " functions, " ++ toString a.issues.length ++ " issues\n" ++
    String.join (a.rules.map fun (name, rules) =>
      "  " ++ name ++ ": " ++ toString rules.roles.length ++ " roles, " ++
        toString rules.filters.length ++ " filters\n")

def RuleIssue.line (i : RuleIssue) : String :=
  i.collection ++ ": " ++ i.location ++ ": " ++ i.fault.message ++ "\n"

/-- The audit of an application; any issue makes it fail. -/
def Application.audit (a : Application) : ToolAnswer where
  code := if a.issues.isEmpty then 0 else 1
  written := a.overview ++ String.join (a.issues.map RuleIssue.line)

def argDocument (text : String) : Except Fault Document :=
  match ofJsonText (fileDocument 0) text with
  | .ok d => .ok d
  | .error reason => .error (.json reason)

def decisionText (seen : Option Document) : String :=
  (Json.object [
    ("status", .bool seen.isSome),
    ("document", match seen with
      | some d => (Value.doc d).relaxed
      | none => .null)]).pretty ++ "\n"

def Application.answer (a : Application) : Command → Except Fault ToolAnswer
  | .check => .ok a.audit
  | .decide collection access user document => do
    let access ← Access.ofName access
    let user ← argDocument user
    let document ← argDocument document
    let seen ← (a.evaluate collection access user document).result
    return ⟨0, decisionText seen⟩

def Request.answer (r : Request) (top : FileNode) : Except Fault ToolAnswer := do
  let config ← configAt top r.config
  let a ← Application.load config top
  a.answer r.command

def runTool (top : FileNode) (args : List String) : ToolAnswer :=
  match Request.ofArgs args with
  | .error .help => ⟨0, usageText⟩
  | .error .misuse => ⟨2, ""⟩
  | .ok request =>
    match request.answer top with
    | .ok answer => answer
    | .error _ => ⟨1, ""⟩

end DocGuard
