import ContractAudit.FileTree.Basic
import ContractAudit.Text.Newline
import ContractAudit.Text.Quoted
import ContractAudit.Text.Utf8

/-!
# Reading sources and writing reports

Sources are read as UTF-8 with unified line ends, and reports are written as UTF-8. Errors show a
source's path as it was given and a report's path as it is normally written.
-/

namespace ContractAudit

inductive AccessError where
  | unreadable (path : String) (reason : Reason)
  | notFound (path : String)
  | unwritable (path : String) (reason : Reason)
  /-- A target whose name is too long to be looked up at all. -/
  | unusableName (path : String)
  | nullInPath
  deriving DecidableEq, Repr

namespace AccessError

def message : AccessError → String
  | unreadable path reason => "Cannot read '" ++ path ++ "': " ++ reason.message
  | notFound path => "Cannot read '" ++ path ++ "': no such file or directory"
  | unwritable path reason => "Cannot write '" ++ path ++ "': " ++ reason.message
  | unusableName path => "[Errno 36] " ++ Reason.nameTooLong.message ++ ": " ++ Text.quote path
  | nullInPath => "embedded null byte"

/-- The errors that a command reports itself; the others end it. -/
def isReported : AccessError → Bool
  | unreadable .. | notFound .. | unwritable .. => true
  | unusableName .. | nullInPath => false

end AccessError

def hasNull (path : String) : Bool :=
  path.toList.contains '\x00'

namespace FileTree

def readSource (t : FileTree) (path : String) : Except AccessError String :=
  if hasNull path then .error .nullInPath
  else match t.read (.ofText path) with
    | .ok bytes => .ok (String.ofList (Text.unifyNewlines (Text.Utf8.decode bytes)))
    | .error reason => .error (.unreadable path reason)

/-- Writes a report; gives the path as it is normally written, and the tree afterwards. -/
def saveReport (t : FileTree) (text path : String) : Except AccessError (String × FileTree) :=
  let shown := Path.normalize path
  if hasNull path then .error .nullInPath
  else match t.write (.ofText path) (Text.Utf8.encode text.toList) with
    | .ok after => .ok (shown, after)
    | .error reason => .error (.unwritable shown reason)

end FileTree

end ContractAudit
