import DocGuard.Files.Config
import DocGuard.Files.Load
import DocGuard.Function.External
import DocGuard.Guard.Basic
import DocGuard.Rules.Audit

/-!
# Applications

An application is a configuration with the rules and functions that it names, and the runtime for
the functions. It audits its rules and guards collections with them.
-/

namespace DocGuard

structure Application where
  config : Config
  rules : RuleBook
  functions : Executor

/-- The runtime that a configuration asks for. The program itself provides no functions. -/
def Config.chosenRuntime (c : Config) : Except Fault Runtime :=
  match c.runtime with
  | .native => .ok (Runtime.ofHandlers [])
  | .command => Runtime.ofCommand c.command c.timeoutSeconds

namespace Application

def loadWith (config : Config) (runtime : Runtime) (top : FileNode) :
    Except Fault Application := do
  let rules ← loadRules top config.rulesPath
  let registry ← loadFunctions top config.functionsPath
  return ⟨config, rules, ⟨registry, runtime⟩⟩

def load (config : Config) (top : FileNode) : Except Fault Application := do
  loadWith config (← config.chosenRuntime) top

def issues (a : Application) : List RuleIssue :=
  a.rules.issues (some a.functions.registry)

def guard (a : Application) (collection : String) (user : Document) (asSystem : Bool) : Guard where
  rules := a.rules
  collection := collection
  user := user
  asSystem := asSystem
  caller := a.functions.caller

/-- What a user may see or write of a document: a part of it, or nothing. The collection has to
have rules. -/
def evaluate (a : Application) (collection : String) (access : Access) (user d : Document) :
    Traced (Option Document) :=
  if (a.rules.find? collection).isSome then (a.guard collection user false).validate d access
  else .fail (.collectionNotFound collection)

end Application

end DocGuard
