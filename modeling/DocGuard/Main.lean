import DocGuard.CommandLine.Answer

/-!
# The command

Reads the files below the current folder and hands them, with the arguments, to the tool.
-/

namespace DocGuard

/-- Folders deeper than this are taken for empty. -/
def maxFolders : Nat := 32

/-- A file or a folder with all that is in it. What cannot be read counts as empty. -/
def readNode (levels : Nat) (entry : IO.FS.DirEntry) : IO (String × FileNode) := do
  let isFolder ← entry.path.isDir
  match levels, isFolder with
  | levels + 1, true =>
    let inner ← entry.path.readDir
    return (entry.fileName, .folder (← inner.toList.mapM (readNode levels)))
  | 0, true => return (entry.fileName, .folder [])
  | _, false =>
    let text ← try IO.FS.readFile entry.path catch _ => pure ""
    return (entry.fileName, .file text)

end DocGuard

def main (args : List String) : IO UInt32 := do
  let here ← (← IO.currentDir).readDir
  let top := DocGuard.FileNode.folder (← here.toList.mapM (DocGuard.readNode DocGuard.maxFolders))
  let answer := DocGuard.runTool top args
  IO.print answer.written
  return answer.code.toUInt32
