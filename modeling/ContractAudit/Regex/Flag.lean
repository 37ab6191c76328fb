import ContractAudit.Regex.LetterForm

/-!
# Flags of a regular expression

A flag changes what the parts of an expression mean. The flags of a whole expression stand at its
start, and a group can have flags of its own.
-/

namespace ContractAudit.Regex

inductive Flag where
  | ascii
  | ignoreCase
  | locale
  | multiline
  | dotAll
  | template
  | unicode
  | verbose
  deriving DecidableEq, Repr

namespace Flag

def ofLetter? : Char → Option Flag
  | 'a' => some ascii
  | 'i' => some ignoreCase
  | 'L' => some locale
  | 'm' => some multiline
  | 's' => some dotAll
  | 't' => some template
  | 'u' => some unicode
  | 'x' => some verbose
  | _ => none

/-- The flag chooses the alphabet. At most one such flag is in force. -/
def isAlphabet : Flag → Bool
  | ascii | locale | unicode => true
  | _ => false

end Flag

abbrev Flags := List Flag

namespace Flags

/-- The flags inside a group that turns some on and others off. A new alphabet replaces the old
one. -/
def change (flags on off : Flags) : Flags :=
  let kept := if on.any Flag.isAlphabet then flags.filter (!·.isAlphabet) else flags
  (kept ++ on).filter (· ∉ off)

def caseMode (flags : Flags) : CaseMode :=
  if .ignoreCase ∉ flags then .exact
  else if .ascii ∈ flags then .ascii
  else .full

end Flags

end ContractAudit.Regex
