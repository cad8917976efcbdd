import DocGuard.Fault
import DocGuard.Files.Tree
import DocGuard.Toml.Reader

/-!
# Configuration

The settings of an application. A configuration file may leave out any of them; what it does not
know is skipped.
-/

namespace DocGuard

inductive RuntimeKind where
  | native
  | command
deriving DecidableEq, Repr

def RuntimeKind.name : RuntimeKind → String
  | .native => "native"
  | .command => "subprocess"

structure Config where
  name : String
  database : String
  rulesPath : String
  functionsPath : String
  enableLog : Bool
  runtime : RuntimeKind
  command : List String
  timeoutSeconds : Nat
  level : String
  json : Bool
deriving DecidableEq, Repr

def Config.default : Config where
  name := "flowerbase"
  database := "flowerbase"
  rulesPath := "./data_sources/mongodb-atlas"
  functionsPath := "./functions"
  enableLog := false
  runtime := .native
  command := ["node", "runner.js"]
  timeoutSeconds := 30
  level := "info"
  json := false

namespace Toml

/-- The fields of a record: the entries of a table, or the items of a list in the order of the
fields. -/
def fields? (names : List String) : Toml → Option Entries
  | .table _ entries => some entries
  | .moment => some []
  | .array items => some (names.zip items)
  | .tables items => some (names.zip (items.map (.table .header)))
  | _ => none

def asText : Toml → Option String
  | .text s => some s
  | _ => none

def asBool : Toml → Option Bool
  | .bool b => some b
  | _ => none

def asNat : Toml → Option Nat
  | .integer n => if 0 ≤ n then some n.toNat else none
  | _ => none

def asTexts : Toml → Option (List String)
  | .array items => items.mapM asText
  | _ => none

def runtimeNamed (name : String) : Option RuntimeKind :=
  [RuntimeKind.native, RuntimeKind.command].find? fun k => k.name = name

/-- A kind of runtime: its name, alone or with nothing behind it. -/
def asRuntime : Toml → Option RuntimeKind
  | .text s => runtimeNamed s
  | .table _ [(s, .table _ [])] => runtimeNamed s
  | .table _ [(s, .array [])] => runtimeNamed s
  | _ => none

def setting {α : Type} (entries : Entries) (name : String) (read : Toml → Option α)
    (otherwise : α) : Option α :=
  match Table.find? entries name with
  | some t => read t
  | none => some otherwise

def section? (entries : Entries) (name : String) (names : List String) : Option Entries :=
  setting entries name (fields? names) []

end Toml

def Config.ofEntries (entries : Toml.Entries) : Option Config := do
  let d := Config.default
  let app ← Toml.section? entries "app" ["name", "database", "rules_path", "functions_path"]
  let rules ← Toml.section? entries "rules" ["enable_log"]
  let functions ← Toml.section? entries "functions" ["runtime", "command", "timeout_seconds"]
  let logging ← Toml.section? entries "logging" ["level", "json"]
  return {
    name := ← Toml.setting app "name" Toml.asText d.name
    database := ← Toml.setting app "database" Toml.asText d.database
    rulesPath := ← Toml.setting app "rules_path" Toml.asText d.rulesPath
    functionsPath := ← Toml.setting app "functions_path" Toml.asText d.functionsPath
    enableLog := ← Toml.setting rules "enable_log" Toml.asBool d.enableLog
    runtime := ← Toml.setting functions "runtime" Toml.asRuntime d.runtime
    command := ← Toml.setting functions "command" Toml.asTexts d.command
    timeoutSeconds := ← Toml.setting functions "timeout_seconds" Toml.asNat d.timeoutSeconds
    level := ← Toml.setting logging "level" Toml.asText d.level
    json := ← Toml.setting logging "json" Toml.asBool d.json }

def Config.ofText (text : String) : Except Fault Config :=
  match (Toml.read? text.toList).bind Config.ofEntries with
  | some c => .ok c
  | none => .error (.config (.other "malformed configuration"))

/-- The settings in a configuration file, which has to be there. -/
def Config.load (top : FileNode) (path : String) : Except Fault Config :=
  match top.find? path with
  | some (.file text) => Config.ofText text
  | some (.folder _) => .error (.io "is a folder")
  | none => .error (.io "no such file")

end DocGuard
