import ContractAudit.Text.LetterCase

/-!
# Letters that count as the same

Where an expression is to ignore the case of letters, a character is compared through its small
form. Either all letters have one, or those of ASCII alone.
-/

namespace ContractAudit.Regex

inductive CaseMode where
  | exact
  | ascii
  | full
  deriving DecidableEq, Repr

namespace CaseMode

def small : CaseMode → Char → Char
  | exact, c => c
  | ascii, c => c.toLower
  | full, c => Text.small c

def smallCode : CaseMode → Nat → Nat
  | exact, n => n
  | ascii, n => if 0x41 ≤ n ∧ n ≤ 0x5A then n + 32 else n
  | full, n => Text.smallCode n

def kin : CaseMode → Nat → List Nat
  | full, n => Text.kin n
  | _, n => [n]

def forms : CaseMode → Nat → List Nat
  | exact, n => [n]
  | ascii, n => if 0x61 ≤ n ∧ n ≤ 0x7A then [n, n - 32] else [n]
  | full, n => (Text.kin n).flatMap Text.formsOf

@[simp] theorem small_exact (c : Char) : small exact c = c := rfl

end CaseMode

/-- The form of a character that a set looks at. -/
inductive LetterForm where
  | small (mode : CaseMode)
  | capital
  deriving DecidableEq, Repr

def LetterForm.of : LetterForm → Char → Char
  | small mode, c => mode.small c
  | capital, c => Text.capital c

end ContractAudit.Regex
