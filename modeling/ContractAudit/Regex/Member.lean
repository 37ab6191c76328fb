import ContractAudit.Regex.CharSet
import ContractAudit.Regex.Flag

/-!
# Members of a written set

A set is written as a list of members. What characters they stand for depends on the flags in force.
-/

namespace ContractAudit.Regex

inductive CharClass where
  | digit
  | blank
  | word
  deriving DecidableEq, Repr

def CharClass.set (flags : Flags) : CharClass → CharSet
  | digit => if .ascii ∈ flags then .asciiDigit else .digit
  | blank => if .ascii ∈ flags then .asciiBlank else .blank
  | word => if .ascii ∈ flags then .asciiWord else .word

inductive Member where
  | code (point : Nat)
  | range (lo hi : Nat)
  | named (c : CharClass) (inside : Bool)
  deriving DecidableEq, Repr

namespace Member

/-- The greatest code point of the first plane. Behind it, a set takes its members as they are
written instead of their small forms. -/
def planeEnd : Nat := 0xFFFF

def smallSet (flags : Flags) : Member → CharSet
  | code point =>
    let mode := flags.caseMode
    let small := mode.smallCode point
    if small ≤ planeEnd then .ofList ((mode.kin small).map .ofCode) else .ofCode point
  | range lo hi =>
    let mode := flags.caseMode
    if hi ≤ planeEnd then .anyCase mode lo hi
    else .ofList [.anyCase mode lo planeEnd, .range lo hi, .form .capital (.range lo hi)]
  | named c inside => if inside then c.set flags else .compl (c.set flags)

def exactSet (flags : Flags) : Member → CharSet
  | code point => .ofCode point
  | range lo hi => .range lo hi
  | named c inside => if inside then c.set flags else .compl (c.set flags)

end Member

namespace Flags

def literal (flags : Flags) (point : Nat) : CharSet :=
  let mode := flags.caseMode
  if mode = .exact then .ofCode point
  else .form (.small mode) (.ofList ((mode.kin (mode.smallCode point)).map .ofCode))

/-- The characters that a set of members stands for. A set of one code point is that code point. -/
def setOf (flags : Flags) (members : List Member) : CharSet :=
  match members.eraseDups with
  | [.code point] => flags.literal point
  | members =>
    let mode := flags.caseMode
    if mode = .exact then .ofList (members.map (Member.exactSet flags))
    else .form (.small mode) (.ofList (members.map (Member.smallSet flags)))

end Flags

end ContractAudit.Regex
