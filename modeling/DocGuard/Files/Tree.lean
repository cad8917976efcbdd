import DocGuard.Text.Split

/-!
# Trees of files

The files that an application is loaded from, as a value. Paths lead through folders from the top;
what lies outside of the tree is not there.
-/

namespace DocGuard

open DocGuard.Text

inductive FileNode where
  | file (text : String)
  | folder (entries : List (String × FileNode))

namespace FileNode

def named? : List (String × FileNode) → String → Option FileNode
  | [], _ => none
  | (k, node) :: rest, name => if k = name then some node else named? rest name

def pathNames (path : String) : List String :=
  (splitAt '/' path.toList).map String.ofList

/-- The node at the end of names, from the folder at the head of a list, behind which stand the
folders around it. -/
def descend : List String → FileNode → List FileNode → Option FileNode
  | [], here, _ => some here
  | name :: rest, here, around =>
    match here with
    | .file _ => none
    | .folder entries =>
      if name = "" ∨ name = "." then descend rest here around
      else if name = ".." then
        match around with
        | [] => none
        | up :: outer => descend rest up outer
      else (named? entries name).bind fun node => descend rest node (here :: around)

/-- The node at a path, which may not be empty or start outside of the tree. -/
def find? (top : FileNode) (path : String) : Option FileNode :=
  if path = "" ∨ beginsWith path "/" then none else descend (pathNames path) top []

/-- A path continued by another one, unless that starts at the top of all. -/
def joinPath (path next : String) : String :=
  if beginsWith next "/" ∨ path = "" then next
  else if path.toList.getLast? = some '/' then path ++ next
  else path ++ "/" ++ next

/-- Puts a node at the end of names, making the folders on the way. -/
def place (node : FileNode) : List String → List (String × FileNode) → List (String × FileNode)
  | [], entries => entries
  | [name], entries =>
    match named? entries name, node with
    | some (.folder _), .folder _ => entries
    | some _, _ => entries.map fun e => if e.1 = name then (name, node) else e
    | none, _ => entries ++ [(name, node)]
  | name :: next :: rest, entries =>
    match named? entries name with
    | some (.folder inner) =>
      entries.map fun e =>
        if e.1 = name then (name, .folder (place node (next :: rest) inner)) else e
    | some (.file _) => entries
    | none => entries ++ [(name, .folder (place node (next :: rest) []))]

/-- The tree of files and folders at paths; a folder is given without a text. -/
def ofList (files : List (String × Option String)) : FileNode :=
  .folder (files.foldl (fun entries f =>
    let node := match f.2 with
      | some text => FileNode.file text
      | none => .folder []
    place node ((pathNames f.1).filter (· ≠ "")) entries) [])

end FileNode

end DocGuard
