import DocGuard.Text.Split

/-!
# Arguments of the command line

Options come before the command that they belong to. An option is written with its long name or
its letter, and its value is attached or is the next argument. Each option is given once at most.
-/

namespace DocGuard

open DocGuard.Text

structure ArgOption where
  name : String
  letter : Option Char
  mayBeEmpty : Bool

inductive Refusal where
  | help
  | misuse
deriving DecidableEq, Repr

abbrev Given := List (String × String)

def Given.value? : Given → String → Option String
  | [], _ => none
  | (k, v) :: rest, name => if k = name then some v else Given.value? rest name

/-- Gives an option its value, once. -/
def Given.add (given : Given) (option : ArgOption) (value : String) : Except Refusal Given :=
  if (given.value? option.name).isSome ∨ (value = "" ∧ option.mayBeEmpty = false) then
    .error .misuse
  else .ok ((option.name, value) :: given)

inductive ArgShape where
  | word
  /-- The end of all options. -/
  | separator
  | help
  | full (option : ArgOption) (value : String)
  /-- An option whose value comes next. -/
  | half (option : ArgOption)
  | unknown

/-- Whether an argument can be a value, which does not look like an option. -/
def isArgValue (arg : String) : Bool :=
  !beginsWith arg "-" || arg = "-"

def longShape (options : List ArgOption) (body : List Char) : ArgShape :=
  let (name, value) := match cutAt '=' body with
    | some (name, value) => (name, some (String.ofList value))
    | none => (body, none)
  match options.find? fun o => o.name = String.ofList name, value with
  | some o, some v => .full o v
  | some o, none => .half o
  | none, none => if String.ofList name = "help" then .help else .unknown
  | none, some _ => .unknown

def letterShape (options : List ArgOption) (letter : Char) (attached : List Char) : ArgShape :=
  match options.find? fun o => o.letter = some letter with
  | none => if letter = 'h' then .help else .unknown
  | some o =>
    match attached with
    | [] => .half o
    | '=' :: value => .full o (String.ofList value)
    | value => .full o (String.ofList value)

def argShape (options : List ArgOption) (arg : String) : ArgShape :=
  match arg.toList with
  | ['-', '-'] => .separator
  | '-' :: '-' :: body => longShape options body
  | '-' :: letter :: attached => letterShape options letter attached
  | _ => .word

/-- Reads options up to the first word, and gives back the arguments from there on. Behind the end
of all options nothing is understood. -/
def readOptions (options : List ArgOption) :
    List String → Given → Except Refusal (Given × List String)
  | [], given => .ok (given, [])
  | arg :: rest, given =>
    match argShape options arg with
    | .word => .ok (given, arg :: rest)
    | .separator => if rest.isEmpty then .ok (given, []) else .error .misuse
    | .help => .error .help
    | .unknown => .error .misuse
    | .full option value =>
      match given.add option value with
      | .ok given => readOptions options rest given
      | .error e => .error e
    | .half option =>
      match rest with
      | [] => .error .misuse
      | value :: rest =>
        if isArgValue value then
          match given.add option value with
          | .ok given => readOptions options rest given
          | .error e => .error e
        else .error .misuse

inductive Command where
  | check
  | decide (collection access user document : String)
deriving DecidableEq, Repr

structure Request where
  config : String
  command : Command
deriving DecidableEq, Repr

def generalOptions : List ArgOption :=
  [⟨"config", some 'c', false⟩, ⟨"log-level", some 'l', true⟩]

def decisionOptions : List ArgOption :=
  [⟨"collection", none, true⟩, ⟨"type", none, true⟩, ⟨"user", none, true⟩,
    ⟨"document", none, true⟩]

/-- The options behind a command, where no word may follow. -/
def closingOptions (options : List ArgOption) (args : List String) : Except Refusal Given := do
  let (given, rest) ← readOptions options args []
  if rest.isEmpty then return given else throw .misuse

def helpTopics : List String := ["check", "eval", "help"]

def readCommand : List String → Except Refusal Command
  | "check" :: args => do
    let _ ← closingOptions [] args
    return .check
  | "eval" :: args => do
    let given ← closingOptions decisionOptions args
    match given.value? "collection", given.value? "document" with
    | some collection, some document =>
      return .decide collection ((given.value? "type").getD "read")
        ((given.value? "user").getD "\x7b\x7d") document
    | _, _ => throw .misuse
  | ["help"] => throw .help
  | ["help", topic] => throw (if topic ∈ helpTopics then .help else .misuse)
  | _ => throw .misuse

def Request.ofArgs (args : List String) : Except Refusal Request := do
  let (given, rest) ← readOptions generalOptions args []
  return ⟨(given.value? "config").getD "flowerbase.toml", ← readCommand rest⟩

end DocGuard
