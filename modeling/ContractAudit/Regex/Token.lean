import ContractAudit.Regex.Fault

/-!
# Tokens of the written form

A token is a character, or a backslash with the character behind it. A backslash that ends the
text is a fault; it is noticed as soon as the token before it is taken.
-/

namespace ContractAudit.Regex

inductive Token where
  | plain (c : Char)
  | escaped (c : Char)
  deriving DecidableEq, Repr

namespace Token

def chars : Token → List Char
  | plain c => [c]
  | escaped c => ['\\', c]

def text (t : Token) : String :=
  String.ofList t.chars

def width (t : Token) : Nat :=
  t.chars.length

end Token

structure Source where
  rest : List Char
  position : Nat
  deriving DecidableEq, Repr

namespace Source

def checked (s : Source) : Except Fault Source :=
  if s.rest = ['\\'] then .error (.atPosition .trailingBackslash s.position) else .ok s

def ofText (pattern : String) : Except Fault Source :=
  checked ⟨pattern.toList, 0⟩

def peek? (s : Source) : Option Token :=
  match s.rest with
  | [] => none
  | '\\' :: c :: _ => some (.escaped c)
  | c :: _ => some (.plain c)

def sees (s : Source) (c : Char) : Bool :=
  s.peek? = some (.plain c)

def advance (s : Source) : Except Fault Source :=
  match s.peek? with
  | none => .ok s
  | some t => checked ⟨s.rest.drop t.width, s.position + t.width⟩

def accept (s : Source) (c : Char) : Except Fault (Bool × Source) :=
  if s.sees c then do
    return (true, ← s.advance)
  else return (false, s)

def takeWhile (p : Char → Bool) : (limit : Nat) → Source → Except Fault (List Char × Source)
  | 0, s => .ok ([], s)
  | limit + 1, s =>
    match s.peek? with
    | some (.plain c) =>
      if p c then do
        let (cs, rest) ← takeWhile p limit (← s.advance)
        return (c :: cs, rest)
      else return ([], s)
    | _ => return ([], s)

def takeUntil? (terminator : Char) : Nat → Source → Except Fault (Option (List Char × Source))
  | 0, _ => .ok none
  | fuel + 1, s =>
    match s.peek? with
    | none => .ok none
    | some token => do
      let rest ← s.advance
      if token = .plain terminator then return some ([], rest)
      return (← takeUntil? terminator fuel rest).map fun (cs, rest) => (token.chars ++ cs, rest)

def takeName (terminator : Char) (subject : String) (s : Source) :
    Except Fault (String × Source) := do
  match ← s.takeUntil? terminator s.rest.length with
  | some ([], _) => throw (.atPosition (.missingName subject) s.position)
  | some (name, rest) => return (String.ofList name, rest)
  | none => throw (.atPosition
      (if s.rest = [] then .missingName subject else .unterminatedName terminator) s.position)

def toEnd (s : Source) : Source :=
  ⟨[], s.position + s.rest.length⟩

end Source

end ContractAudit.Regex
