import ContractAudit.Text.Quoted

/-!
# Values that come in without a type

Rows of a catalogue and settings of an audit hold cells. What a cell holds is passed on as it is, or
shown as a text.
-/

namespace ContractAudit

inductive Cell where
  | absent
  | flag (value : Bool)
  | number (value : Int)
  | text (value : String)
  deriving DecidableEq, Repr

namespace Cell

instance : Coe String Cell := ⟨text⟩

def display : Cell → String
  | absent => "None"
  | flag true => "True"
  | flag false => "False"
  | number n => toString n
  | text s => s

def quoted : Cell → String
  | text s => Text.quote s
  | cell => cell.display

def kindName : Cell → String
  | absent => "NoneType"
  | flag _ => "bool"
  | number _ => "int"
  | text _ => "str"

def isText : Cell → Bool
  | text _ => true
  | _ => false

/-- The cell's value as a number. A flag counts as one or zero. -/
def number? : Cell → Option Int
  | number n => some n
  | flag b => some (if b then 1 else 0)
  | _ => none

@[simp] theorem display_text (s : String) : (text s).display = s := rfl

end Cell

end ContractAudit
