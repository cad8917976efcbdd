import DocGuard.Files.Tree
import DocGuard.Rules.Notation

/-!
# Loading rules and functions

Each collection has a folder with its rules. The functions share a folder with one file that
declares them and a source file for each.
-/

namespace DocGuard

def rulesFile : String := "rules.json"

def folderRules (name : String) (folder : FileNode) : Except Fault (Option CollectionRules) :=
  match folder.find? rulesFile with
  | some (.file text) =>
    match ofJsonText CollectionRules.ofJson text with
    | .ok rules => .ok (some rules)
    | .error reason => .error (.rule (.other (name ++ "/" ++ rulesFile ++ ": " ++ reason)))
  | _ => .ok none

def foldersRules : List (String × FileNode) → Except Fault (List (String × CollectionRules))
  | [] => .ok []
  | (name, folder) :: rest => do
    let here ← folderRules name folder
    let others ← foldersRules rest
    match here with
    | some rules => return (name, rules) :: others
    | none => return others

/-- The rules of all collections in a folder; without the folder there are none. -/
def loadRules (top : FileNode) (path : String) : Except Fault RuleBook :=
  match top.find? path with
  | some (.folder entries) => do return Table.ofEntries (← foldersRules entries)
  | _ => .ok []

def readText : FileNode → Except Fault String
  | .file text => .ok text
  | .folder _ => .error (.io "is a folder")

def withSource (top : FileNode) (path : String) (f : StoredFunction) :
    Except Fault StoredFunction :=
  match top.find? (FileNode.joinPath path (f.name ++ ".js")) with
  | some node => do return { f with source := ← readText node }
  | none => .ok f

def withSources (top : FileNode) (path : String) :
    List StoredFunction → Except Fault (List StoredFunction)
  | [] => .ok []
  | f :: rest => do
    let f ← withSource top path f
    return f :: (← withSources top path rest)

/-- The functions that a folder declares; without a declaration there are none. -/
def loadFunctions (top : FileNode) (path : String) : Except Fault Registry :=
  match top.find? (FileNode.joinPath path "config.json") with
  | none => .ok []
  | some node => do
    match ofJsonText (Json.asList StoredFunction.ofJson) (← readText node) with
    | .error reason => .error (.json reason)
    | .ok declared => return Registry.ofList (← withSources top path declared)

end DocGuard
