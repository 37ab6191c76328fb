/-!
# Category of a finding
-/

namespace ContractAudit

inductive Category where
  | security
  | bestPractice
  | gas
  deriving DecidableEq, Repr, Inhabited

namespace Category

def all : List Category :=
  [security, bestPractice, gas]

def name : Category → String
  | security => "security"
  | bestPractice => "best-practice"
  | gas => "gas"

def banner : Category → String
  | security => "SECURITY"
  | bestPractice => "BEST-PRACTICE"
  | gas => "GAS"

def ofName? (text : String) : Option Category :=
  all.find? (·.name = text)

theorem ofName?_name (category : Category) : ofName? category.name = some category := by
  cases category <;> decide

theorem ofName?_eq_some_iff {text : String} {category : Category} :
    ofName? text = some category ↔ text = category.name := by
  constructor
  · intro h
    have hName := List.find?_some h
    exact (of_decide_eq_true hName).symm
  · rintro rfl
    exact ofName?_name category

end Category

end ContractAudit
