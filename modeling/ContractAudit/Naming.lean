import ContractAudit.Category
import ContractAudit.Cell
import ContractAudit.Severity

/-!
# Names of severities and categories in cells

A cell that should name a severity or a category may hold anything, and the message about it shows
what it holds.
-/

namespace ContractAudit

inductive NamingError where
  | notSeverity (cell : Cell)
  | notCategory (cell : Cell)
  deriving DecidableEq, Repr

def NamingError.message : NamingError → String
  | notSeverity cell => cell.quoted ++ " is not a valid Severity"
  | notCategory cell => cell.quoted ++ " is not a valid Category"

def Severity.ofCell (cell : Cell) : Except NamingError Severity :=
  let named := match cell with
    | .text s => Severity.ofName? s
    | _ => none
  match named with
  | some level => .ok level
  | none => .error (.notSeverity cell)

def Category.ofCell (cell : Cell) : Except NamingError Category :=
  let named := match cell with
    | .text s => Category.ofName? s
    | _ => none
  match named with
  | some category => .ok category
  | none => .error (.notCategory cell)

@[simp] theorem Severity.ofCell_name (level : Severity) :
    Severity.ofCell (.text level.name) = .ok level := by
  simp [Severity.ofCell, Severity.ofName?_name]

@[simp] theorem Category.ofCell_name (category : Category) :
    Category.ofCell (.text category.name) = .ok category := by
  simp [Category.ofCell, Category.ofName?_name]

theorem Severity.ofCell_eq_ok_iff {cell : Cell} {level : Severity} :
    Severity.ofCell cell = .ok level ↔ cell = .text level.name := by
  cases cell with
  | text s =>
    rw [Cell.text.injEq, ← Severity.ofName?_eq_some_iff, Severity.ofCell]
    cases Severity.ofName? s <;> simp
  | absent | flag | number => simp [Severity.ofCell]

theorem Severity.ofCell_eq_error_iff {cell : Cell} {error : NamingError} :
    Severity.ofCell cell = .error error ↔
      (∀ level : Severity, cell ≠ .text level.name) ∧ error = .notSeverity cell := by
  simp only [ne_eq, ← Severity.ofCell_eq_ok_iff, Severity.ofCell]
  split <;> simp [eq_comm]

theorem Category.ofCell_eq_ok_iff {cell : Cell} {category : Category} :
    Category.ofCell cell = .ok category ↔ cell = .text category.name := by
  cases cell with
  | text s =>
    rw [Cell.text.injEq, ← Category.ofName?_eq_some_iff, Category.ofCell]
    cases Category.ofName? s <;> simp
  | absent | flag | number => simp [Category.ofCell]

theorem Category.ofCell_eq_error_iff {cell : Cell} {error : NamingError} :
    Category.ofCell cell = .error error ↔
      (∀ category : Category, cell ≠ .text category.name) ∧ error = .notCategory cell := by
  simp only [ne_eq, ← Category.ofCell_eq_ok_iff, Category.ofCell]
  split <;> simp [eq_comm]

end ContractAudit
