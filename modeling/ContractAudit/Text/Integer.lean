import ContractAudit.Text.Blank
import ContractAudit.Text.Digit

/-!
# Whole numbers in words of a command line

A sign is optional, digits may be those of any script, a single underscore may stand between two
digits, and white space around the number is ignored. The separators U+001C to U+001F are not white
space here.
-/

namespace ContractAudit.Text

def isNumberBlank (c : Char) : Bool :=
  isBlank c && !(0x1C ≤ c.toNat && c.toNat ≤ 0x1F)

/-- The values of digits that may have single underscores between them. -/
def readDigits : List Char → Option (List Nat)
  | [] => none
  | [c] => (digitValue? c).map ([·])
  | c :: '_' :: rest => do return (← digitValue? c) :: (← readDigits rest)
  | c :: d :: rest => do return (← digitValue? c) :: (← readDigits (d :: rest))

def digitLimit : Nat := 4300

def readNatural (text : List Char) : Option Nat := do
  let digits ← readDigits text
  if digitLimit < digits.length then none
  else return digits.foldl (fun n d => n * 10 + d) 0

def readInteger (text : String) : Option Int :=
  let inner := (text.toList.dropWhile isNumberBlank).reverse.dropWhile isNumberBlank |>.reverse
  match inner with
  | '+' :: digits => (readNatural digits).map Int.ofNat
  | '-' :: digits => (readNatural digits).map fun n => -Int.ofNat n
  | digits => (readNatural digits).map Int.ofNat

end ContractAudit.Text
