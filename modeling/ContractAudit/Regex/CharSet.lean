import ContractAudit.Regex.LetterForm
import ContractAudit.Text.Blank
import ContractAudit.Text.Digit
import ContractAudit.Text.Word

/-!
# Sets of characters in a regular expression
-/

namespace ContractAudit.Regex

inductive CharSet where
  | empty
  | single (c : Char)
  | range (lo hi : Nat)
  | blank
  | digit
  | word
  | union (s t : CharSet)
  | compl (s : CharSet)
  | form (f : LetterForm) (s : CharSet)
  /-- The small letters that count as the same as a code point of an inclusive range. -/
  | anyCase (mode : CaseMode) (lo hi : Nat)
  deriving DecidableEq, Repr

namespace CharSet

def contains : CharSet → Char → Bool
  | empty, _ => false
  | single c, x => x == c
  | range lo hi, x => lo ≤ x.toNat && x.toNat ≤ hi
  | blank, x => Text.isBlank x
  | digit, x => Text.isDecimal x
  | word, x => Text.isWord x
  | union s t, x => s.contains x || t.contains x
  | compl s, x => !s.contains x
  | form f s, x => s.contains (f.of x)
  | anyCase mode lo hi, x =>
    (lo ≤ x.toNat && x.toNat ≤ hi) || (mode.forms x.toNat).any fun n => lo ≤ n && n ≤ hi

def any : CharSet :=
  compl empty

def dot : CharSet :=
  compl (single '\n')

def other (c : Char) : CharSet :=
  compl (single c)

def ofCode (code : Nat) : CharSet :=
  if code.isValidChar then single (Char.ofNat code) else empty

def ofList : List CharSet → CharSet
  | [] => empty
  | [s] => s
  | s :: rest => union s (ofList rest)

/-- White space of ASCII. The separators from U+001C on are none. -/
def asciiBlank : CharSet :=
  union (range 0x09 0x0D) (single ' ')

def asciiDigit : CharSet :=
  range 0x30 0x39

def asciiWord : CharSet :=
  ofList [asciiDigit, range 0x41 0x5A, single '_', range 0x61 0x7A]

@[simp] theorem contains_single (c x : Char) : (single c).contains x = (x == c) := rfl

@[simp] theorem contains_compl (s : CharSet) (x : Char) : (compl s).contains x = !s.contains x := rfl

@[simp] theorem contains_union (s t : CharSet) (x : Char) :
    (union s t).contains x = (s.contains x || t.contains x) := rfl

@[simp] theorem contains_form (f : LetterForm) (s : CharSet) (x : Char) :
    (form f s).contains x = s.contains (f.of x) := rfl

theorem contains_any (x : Char) : any.contains x = true := rfl

theorem contains_other (c x : Char) : (other c).contains x = (x != c) := rfl

end CharSet

end ContractAudit.Regex
