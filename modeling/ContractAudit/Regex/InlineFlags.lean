import ContractAudit.Regex.Flag
import ContractAudit.Regex.Token
import ContractAudit.Text.Name

/-!
# Written flags

Behind `(?` stand the letters of flags to turn on, then, behind a hyphen, those to turn off. A colon
ends them and starts a group. Flags for the whole expression are ended by a parenthesis and turn
nothing off.
-/

namespace ContractAudit.Regex

inductive FlagChange where
  | whole (on : Flags)
  | scoped (on off : Flags)
  deriving DecidableEq, Repr

namespace FlagChange

/-- The flag that a token stands for. A token that stands for none is an unknown flag if it is a
letter, and otherwise shows that `missing` is missing. -/
def flagOf (missing : Cause) (position : Nat) : Token → Except Fault Flag
  | .plain c =>
    match Flag.ofLetter? c with
    | some flag => .ok flag
    | none => .error (.atPosition (if Text.isLetter c then .unknownFlag else missing) position)
  | .escaped _ => .error (.atPosition missing position)

def readOff (on : Flags) : Nat → Cause → Flags → Source → Except Fault (FlagChange × Source)
  | 0, missing, _, s => .error (.atPosition missing s.position)
  | fuel + 1, missing, off, s => do
    let some token := s.peek? | throw (.atPosition missing s.position)
    let rest ← s.advance
    if token = .plain ':' ∧ off ≠ [] then
      if .template ∈ off then throw (.atPosition .wholeFlagTurnedOff s.position)
      if on.any (· ∈ off) then throw (.atPosition .flagTurnedOnAndOff s.position)
      return (.scoped on off, rest)
    let flag ← flagOf missing s.position token
    if flag.isAlphabet then throw (.atPosition .alphabetTurnedOff rest.position)
    readOff on fuel .missingColon (flag :: off) rest

def readOn : Nat → Flags → Source → Except Fault (FlagChange × Source)
  | 0, _, s => .error (.atPosition .unfinishedFlags s.position)
  | fuel + 1, on, s => do
    let some token := s.peek? | throw (.atPosition .unfinishedFlags s.position)
    let rest ← s.advance
    if token = .plain ')' ∧ on ≠ [] then return (.whole on, rest)
    if token = .plain ':' ∧ on ≠ [] ∨ token = .plain '-' then
      if .template ∈ on then throw (.atPosition .wholeFlagTurnedOn s.position)
      if token = .plain ':' then return (.scoped on [], rest)
      return ← readOff on fuel .missingFlag [] rest
    let flag ← flagOf .unfinishedFlags s.position token
    if flag = .locale then throw (.atPosition .localeFlag rest.position)
    if flag.isAlphabet ∧ on.any (fun f => f.isAlphabet && f ≠ flag) then
      throw (.atPosition .incompatibleFlags rest.position)
    readOn fuel (flag :: on) rest

def read (s : Source) : Except Fault (FlagChange × Source) :=
  readOn s.rest.length [] s

end FlagChange

end ContractAudit.Regex
