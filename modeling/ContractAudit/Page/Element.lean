/-!
# Elements of the web page
-/

namespace ContractAudit.Page

inductive ButtonStyle where
  | primary
  | wide
  deriving DecidableEq, Repr

inductive Element where
  | frame (title layout sidebar : String)
  | sidebarStart
  | sidebarEnd
  | title (text : String)
  | header (text : String)
  | subheader (text : String)
  | caption (text : String)
  | markdown (text : String)
  | info (text : String)
  | success (text : String)
  | warning (text : String)
  | error (text : String)
  | radio (label : String) (options : List String) (index : Nat)
  | selection (label : String) (options : List String) (index : Nat)
  | checkbox (label : String) (value : Bool)
  | uploader (label : String) (types : List String) (key : String)
  | button (label : String) (style : ButtonStyle)
  | textArea (label value : String) (height : Nat) (placeholder : String)
  | columns (count : Nat)
  | metric (column : Nat) (label : String) (value : Int)
  | code (text language : String)
  | download (label data fileName mime : String)
  deriving DecidableEq, Repr

end ContractAudit.Page
