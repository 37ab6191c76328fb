import ContractAudit.FileTree.Access

/-!
# Finding the sources under a target

A file is its own source, whatever its name. A directory gives the source files in it, or, on
request, all those under it, in the order of their paths.
-/

namespace ContractAudit.FileTree

def entriesUnder (t : FileTree) (directory : Location) (recursive : Bool) :
    List (Location × Node) :=
  t.entries.filterMap fun (location, node) =>
    let inner := location.drop directory.length
    if directory.isPrefixOf location ∧ inner ≠ [] ∧ (recursive ∨ inner.length = 1) then
      some (inner, node)
    else none

def sourcesUnder (t : FileTree) (directory : Location) (recursive : Bool) : List Location :=
  (t.entriesUnder directory recursive).filterMap fun (inner, node) => match node with
    | .file _ => if inner.getLast?.any isSourceName then some inner else none
    | .directory => none

def sorted (texts : List String) : List String :=
  texts.mergeSort fun a b => !decide (b < a)

/-- The paths of the sources that a target stands for. Whatever lies in a directory is looked up by
its path, also if it turns out to be no source, so a path that is too long ends the search. -/
def discover (t : FileTree) (target : String) (recursive : Bool) :
    Except AccessError (List String) :=
  let path := Path.ofText target
  let notFound : Except AccessError (List String) := .error (.notFound path.display)
  let shown (inner : Location) : String := (path.append inner).display
  if hasNull target then notFound
  else match t.locate path with
    | .error .nameTooLong => .error (.unusableName path.display)
    | .error _ => notFound
    | .ok location => match t.get? location with
      | none => notFound
      | some (.file _) => .ok [path.display]
      | some .directory =>
        let candidates := (t.entriesUnder location recursive).map fun entry => shown entry.1
        match sorted (candidates.filter (pathLimit < ·.utf8ByteSize)) with
        | tooLong :: _ => .error (.unusableName tooLong)
        | [] => .ok (sorted ((t.sourcesUnder location recursive).map shown))

end ContractAudit.FileTree
