import ContractAudit.Severity

/-!
# Styles of text on a terminal
-/

namespace ContractAudit

inductive Style where
  | bold
  | dim
  | red
  | green
  | yellow
  | blue
  | cyan
  | brightCyan
  | grey
  deriving DecidableEq, Repr

namespace Style

def code : Style → Nat
  | bold => 1
  | dim => 2
  | red => 31
  | green => 32
  | yellow => 33
  | blue => 34
  | cyan => 36
  | brightCyan => 96
  | grey => 90

def sequence (n : Nat) : String :=
  "\x1b[" ++ toString n ++ "m"

end Style

/-- The text between the control sequences of its styles and the one that switches all styles off.
Without colour the text stands as it is. -/
def paint (color : Bool) (styles : List Style) (text : String) : String :=
  if color ∧ styles ≠ [] then
    String.join (styles.map fun s => Style.sequence s.code) ++ text ++ Style.sequence 0
  else text

def Severity.styles : Severity → List Style
  | .critical => [.red, .bold]
  | .high => [.yellow]
  | .medium => [.blue]
  | .low => [.grey]

@[simp] theorem paint_false (styles : List Style) (text : String) :
    paint false styles text = text := by
  simp [paint]

end ContractAudit
