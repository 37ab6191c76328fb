import ContractAudit.CommandLine.Run

/-!
# The program

Loads the part of the disk that a command line speaks of into a tree, runs the command on the tree,
prints what it prints and writes the report that it saved.
-/

namespace ContractAudit.Main

open CommandLine

def lexicalLocation (path : Path) : Location :=
  path.parts.foldl (fun here name => if name = ".." then here.dropLast else here ++ [name]) []

def loadFile (tree : FileTree) (location : Location) (entry : IO.FS.DirEntry) : IO FileTree := do
  return tree.place location (.file (← IO.FS.readBinFile entry.path).toList)

/-- Puts what lies in a directory, or under it, into a tree. What is no source is known by its name
only. -/
partial def loadSources (recursive : Bool) (tree : FileTree) (location : Location)
    (entry : IO.FS.DirEntry) : IO FileTree := do
  let mut tree := tree.place location .directory
  for inner in ← entry.path.readDir do
    let place := location ++ [inner.fileName]
    if ← inner.path.isDir then
      if recursive then tree ← loadSources recursive tree place inner
      else tree := tree.place place .directory
    else if isSourceName inner.fileName then
      tree ← loadFile tree place inner
    else tree := tree.place place (.file [])
  return tree

def loadTarget (recursive : Bool) (tree : FileTree) (text : String) : IO FileTree := do
  let path := Path.ofText text
  let entry : IO.FS.DirEntry := ⟨".", path.display⟩
  if ← entry.path.isDir then loadSources recursive tree (lexicalLocation path) entry
  else if ← entry.path.pathExists then loadFile tree (lexicalLocation path) entry
  else return tree

def loadReportPlace (tree : FileTree) (text : String) : IO FileTree := do
  let path := Path.ofText text
  let directory := { path with parts := path.parts.dropLast }
  let around : IO.FS.DirEntry := ⟨".", directory.display⟩
  let entry : IO.FS.DirEntry := ⟨".", path.display⟩
  let tree := if ← around.path.isDir then tree.place (lexicalLocation directory) .directory else tree
  if ← entry.path.isDir then return tree.place (lexicalLocation path) .directory
  else if ← entry.path.pathExists then loadFile tree (lexicalLocation path) entry
  else return tree

def loadTree (invocation : Invocation) : IO FileTree := do
  let settings := invocation.settings
  let tree ←
    if invocation.command = .patterns || hasNull settings.target then pure {}
    else loadTarget settings.recursive {} settings.target
  match settings.save with
  | some path => if hasNull path then pure tree else loadReportPlace tree path
  | none => pure tree

end ContractAudit.Main

open ContractAudit in
def main (words : List String) : IO UInt32 := do
  let out ← IO.getStdout
  let err ← IO.getStderr
  let env : CommandLine.Environment :=
    { terminal := some (← out.isTty), noColor := ← IO.getEnv "NO_COLOR" }
  let read := CommandLine.readInvocation words
  let tree ← match read with
    | .ok invocation => Main.loadTree invocation
    | .error _ => pure {}
  let outcome := CommandLine.run env tree words
  out.putStr outcome.out
  err.putStr outcome.err
  for (_, bytes) in outcome.tree.changedSince tree do
    if let .ok { settings := { save := some path, .. }, .. } := read then
      IO.FS.writeBinFile path ⟨bytes.toArray⟩
  match outcome.ending with
  | .exit status => return status.toUInt32
  | .escaped error =>
    err.putStr (error.message ++ "\n")
    return 1
