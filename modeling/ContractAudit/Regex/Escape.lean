import ContractAudit.Regex.Member
import ContractAudit.Regex.Token
import ContractAudit.Text.CharacterName

/-!
# Escapes and character sets of the written form
-/

namespace ContractAudit.Regex

def numeral (base : Nat) (digits : List Char) : Nat :=
  digits.foldl (fun n c => n * base + digit c) 0
where
  digit (c : Char) : Nat :=
    if c.isDigit then c.toNat - 48 else c.toLower.toNat - 87

def isHex (c : Char) : Bool :=
  c.isDigit || ('a' ≤ c && c ≤ 'f') || ('A' ≤ c && c ≤ 'F')

def isOctal (c : Char) : Bool :=
  '0' ≤ c && c ≤ '7'

def escapeText (letter : Char) (digits : List Char) : String :=
  String.ofList ('\\' :: letter :: digits)

/-- The code points with a letter of their own. The letter `b` is one only inside a set. -/
def controlCode? : Char → Option Nat
  | 'a' => some 7
  | 'f' => some 12
  | 'n' => some 10
  | 'r' => some 13
  | 't' => some 9
  | 'v' => some 11
  | '\\' => some 92
  | _ => none

/-- The classes with a letter of their own; the capital letter stands for everything else. -/
def namedClass? : Char → Option Member
  | 'd' => some (.named .digit true)
  | 'D' => some (.named .digit false)
  | 's' => some (.named .blank true)
  | 'S' => some (.named .blank false)
  | 'w' => some (.named .word true)
  | 'W' => some (.named .word false)
  | _ => none

def hexDigits? : Char → Option Nat
  | 'x' => some 2
  | 'u' => some 4
  | 'U' => some 8
  | _ => none

def readHex (start : Nat) (letter : Char) (count : Nat) (s : Source) :
    Except Fault (Nat × Source) := do
  let (digits, rest) ← s.takeWhile isHex count
  let text := escapeText letter digits
  let code := numeral 16 digits
  if digits.length ≠ count then throw (.atPosition (.incompleteEscape text) start)
  if 0x10FFFF < code then throw (.atPosition (.badEscape text) start)
  return (code, rest)

def readNamed (start : Nat) (s : Source) : Except Fault (Nat × Source) := do
  let (opened, s) ← s.accept '\x7b'
  if !opened then throw (.atPosition .missingBrace s.position)
  let (name, s) ← s.takeName '\x7d' "character name"
  match Text.characterNamed? name with
  | some code => return (code, s)
  | none => throw (.atPosition (.unknownCharacterName name) start)

def octalCode (start : Nat) (letter : Char) (digits : List Char) : Except Fault Nat :=
  let code := numeral 8 (letter :: digits)
  if 0o377 < code then .error (.atPosition (.largeOctal (escapeText letter digits)) start)
  else .ok code

/-- An escape that has no meaning of its own: letters are reserved, and all else stands for
itself. -/
def literalEscape (start : Nat) (letter : Char) : Except Fault Nat :=
  if letter.isAlpha then .error (.atPosition (.badEscape (escapeText letter [])) start)
  else .ok letter.toNat

def readSetEscape (start : Nat) (letter : Char) (s : Source) : Except Fault (Member × Source) := do
  if letter = 'b' then return (.code 8, s)
  if let some code := controlCode? letter then return (.code code, s)
  if let some member := namedClass? letter then return (member, s)
  if let some count := hexDigits? letter then
    let (code, rest) ← readHex start letter count s
    return (.code code, rest)
  if letter = 'N' then
    let (code, rest) ← readNamed start s
    return (.code code, rest)
  if isOctal letter then
    let (digits, rest) ← s.takeWhile isOctal 2
    return (.code (← octalCode start letter digits), rest)
  if letter.isDigit then throw (.atPosition (.badEscape (escapeText letter [])) start)
  return (.code (← literalEscape start letter), s)

def readMember (start : Nat) (token : Token) (s : Source) : Except Fault (Member × Source) :=
  match token with
  | .plain c => .ok (.code c.toNat, s)
  | .escaped c => readSetEscape start c s

/-- Reads the members of a set up to its closing bracket. A bracket that comes first and a hyphen
that comes last are members. -/
def readMembers (start : Nat) : Nat → List Member → Source → Except Fault (List Member × Source)
  | 0, _, _ => .error (.atPosition .unterminatedSet start)
  | fuel + 1, members, s => do
    let some first := s.peek? | throw (.atPosition .unterminatedSet start)
    let behind ← s.advance
    if first = .plain ']' ∧ members ≠ [] then return (members, behind)
    let (low, s) ← readMember s.position first behind
    if !s.sees '-' then return ← readMembers start fuel (low :: members) s
    let s ← s.advance
    let some last := s.peek? | throw (.atPosition .unterminatedSet start)
    let behind ← s.advance
    if last = .plain ']' then return (.code '-'.toNat :: low :: members, behind)
    let (high, s) ← readMember s.position last behind
    let bad := Fault.atPosition (.badRange first.text last.text)
      (s.position - (first.width + 1 + last.width))
    match low, high with
    | .code lo, .code hi =>
      if hi < lo then throw bad else readMembers start fuel (.range lo hi :: members) s
    | _, _ => throw bad

structure Bracket where
  negated : Bool
  members : List Member
  deriving DecidableEq, Repr

def Bracket.set (flags : Flags) (b : Bracket) : CharSet :=
  if b.negated then .compl (flags.setOf b.members) else flags.setOf b.members

def readBracket (start : Nat) (s : Source) : Except Fault (Bracket × Source) := do
  let (negated, s) ← s.accept '^'
  let (members, s) ← readMembers start s.rest.length [] s
  return (⟨negated, members.reverse⟩, s)

end ContractAudit.Regex
