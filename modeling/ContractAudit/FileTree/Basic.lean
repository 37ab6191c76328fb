import ContractAudit.FileTree.Path

/-!
# File trees

A tree maps locations to files and directories. A location is the list of names that leads to it
from the root. The root itself is always a directory, and it is where relative paths start.
-/

namespace ContractAudit

abbrev Location := List String

inductive Node where
  | file (bytes : List UInt8)
  | directory
  deriving DecidableEq, Repr

structure FileTree where
  entries : List (Location × Node) := []
  deriving DecidableEq, Repr

inductive Reason where
  | missing
  | isDirectory
  | notDirectory
  | nameTooLong
  deriving DecidableEq, Repr

def Reason.message : Reason → String
  | missing => "No such file or directory"
  | isDirectory => "Is a directory"
  | notDirectory => "Not a directory"
  | nameTooLong => "File name too long"

namespace FileTree

def get? (t : FileTree) (location : Location) : Option Node :=
  if location = [] then some .directory else t.entries.lookup location

def insert (t : FileTree) (location : Location) (node : Node) : FileTree :=
  ⟨(location, node) :: t.entries.filter (·.1 ≠ location)⟩

def erase (t : FileTree) (location : Location) : FileTree :=
  ⟨t.entries.filter fun entry => !location.isPrefixOf entry.1⟩

def nameLimit : Nat := 255

def pathLimit : Nat := 4095

/-- Follows names from a location on. Each name needs a directory to stand in, also `..`; what
stands at the end is left open. -/
def follow (t : FileTree) : Location → List String → Except Reason Location
  | here, [] => .ok here
  | here, name :: rest =>
    match t.get? here with
    | none => .error .missing
    | some (.file _) => .error .notDirectory
    | some .directory =>
      if name = ".." then t.follow here.dropLast rest
      else if nameLimit < name.utf8ByteSize then .error .nameTooLong
      else t.follow (here ++ [name]) rest

def locate (t : FileTree) (path : Path) : Except Reason Location :=
  if pathLimit < path.display.utf8ByteSize then .error .nameTooLong else t.follow [] path.parts

def read (t : FileTree) (path : Path) : Except Reason (List UInt8) := do
  match t.get? (← t.locate path) with
  | none => .error .missing
  | some .directory => .error .isDirectory
  | some (.file bytes) => .ok bytes

/-- The tree in which the file that a path leads to has a new content. The file is created where
there is none. -/
def write (t : FileTree) (path : Path) (bytes : List UInt8) : Except Reason FileTree := do
  let location ← t.locate path
  match t.get? location with
  | some .directory => .error .isDirectory
  | _ => .ok (t.insert location (.file bytes))

def place (t : FileTree) (location : Location) (node : Node) : FileTree :=
  let around := (List.range location.length).drop 1 |>.map location.take
  let withDirectories := around.foldl (fun t l => if (t.get? l).isSome then t else
    t.insert l .directory) t
  match node, withDirectories.get? location with
  | .directory, some .directory => withDirectories
  | _, _ => if location = [] then withDirectories else withDirectories.insert location node

def files (t : FileTree) : List (Location × List UInt8) :=
  t.entries.filterMap fun (location, node) => match node with
    | .file bytes => some (location, bytes)
    | .directory => none

def changedSince (t earlier : FileTree) : List (Location × List UInt8) :=
  t.files.filter fun (location, bytes) => earlier.get? location ≠ some (.file bytes)

@[simp] theorem get?_nil (t : FileTree) : t.get? [] = some .directory := rfl

theorem get?_insert_self (t : FileTree) {location : Location} (node : Node)
    (h : location ≠ []) : (t.insert location node).get? location = some node := by
  simp [get?, insert, h]

end FileTree

end ContractAudit
