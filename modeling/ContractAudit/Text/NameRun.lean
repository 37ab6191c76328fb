import ContractAudit.Text.Lines

/-!
# Lists of names that share words

Characters that follow each other often have names that start with the same words. A list of such
names says only how many words a name takes over from the one before it.
-/

namespace ContractAudit.Text

/-- The names of characters with consecutive code points, several on a line. Each name starts with
a small letter that gives the number of words to take over: `a` for none, `b` for one, and so on. -/
structure NameRun where
  first : Nat
  lines : List String
  deriving DecidableEq, Repr

namespace NameRun

def taken (letter : Char) : Nat :=
  letter.toNat - 'a'.toNat

def wordsAfter (before : List (List Char)) : List Char → List (List Char)
  | [] => []
  | letter :: rest => before.take (taken letter) ++ split ' ' rest

def indexIn? (name before : List (List Char)) : List (List Char) → Option Nat
  | [] => none
  | entry :: rest =>
    let words := wordsAfter before entry
    if words = name then some 0 else (indexIn? name words rest).map (· + 1)

def entries (line : String) : List (List Char) :=
  line.toList.splitBy fun _ c => !c.isLower

def find? (name : List (List Char)) (run : NameRun) : Option Nat :=
  (indexIn? name [] (run.lines.flatMap entries)).map (run.first + ·)

end NameRun

end ContractAudit.Text
