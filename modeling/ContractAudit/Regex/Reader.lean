import ContractAudit.Regex.Frame
import ContractAudit.Regex.InlineFlags

/-!
# Reading regular expressions

The reader takes one item after the other and keeps the groups that are still open on a stack, the
innermost first. Every step consumes at least one character, so a text of `n` characters is read
in `n` steps.
-/

namespace ContractAudit.Regex

structure Reader where
  source : Source
  inner : Frame := { opener := .whole, start := 0 }
  outer : List Frame := []
  nextGroup : Nat := 1
  names : List (String × Nat) := []
  widths : List (Nat × Width) := []
  conditions : List (Nat × Nat) := []
  deriving DecidableEq, Repr

namespace Reader

def flags (r : Reader) : Flags :=
  r.inner.flags

def push (r : Reader) (s : Source) (item : Item) : Reader :=
  { r with source := s, inner := r.inner.push item }

def pushMember (r : Reader) (s : Source) (member : Member) : Reader :=
  r.push s (.ofMembers r.flags [member])

def pushCode (r : Reader) (s : Source) (code : Nat) : Reader :=
  r.pushMember s (.code code)

def pushAnchor (r : Reader) (s : Source) (a : Anchor) : Reader :=
  r.push s (.ofAnchor a)

def openFrame (r : Reader) (s : Source) (opener : Opener) (start : Nat) (flags : Flags) : Reader :=
  { r with source := s, inner := { opener, start, flags }, outer := r.inner :: r.outer }

def openCapture (r : Reader) (s : Source) (start : Nat) : Reader :=
  { r.openFrame s (.capture r.nextGroup) start r.flags with nextGroup := r.nextGroup + 1 }

def isClosed (r : Reader) (index : Nat) : Bool :=
  r.widths.any (·.1 = index)

/-- The number of the first group that can stand inside the outermost open look-behind. -/
def lookBehindLimit? (r : Reader) : Option Nat :=
  (r.inner :: r.outer).reverse.findSome? fun f =>
    match f.opener with
    | .behind _ firstInner => some firstInner
    | _ => none

/-- Inside a look-behind, only groups that were closed before it can be asked for. -/
def checkLookBehind (r : Reader) (index position : Nat) : Except Fault Unit :=
  match r.lookBehindLimit? with
  | none => .ok ()
  | some firstInner =>
    if !r.isClosed index then .error (.atPosition .openReference position)
    else if firstInner ≤ index then .error (.atPosition .innerReference position)
    else .ok ()

def pushReference (r : Reader) (s : Source) (start index : Nat) : Except Fault Reader := do
  if !r.isClosed index then throw (.atPosition .openReference start)
  r.checkLookBehind index s.position
  return r.push s { expr := .backref index r.flags.caseMode }

/-- Reads an escape that starts with a digit other than zero: a reference to a group of one or two
digits, unless there are three octal digits. -/
def readReference (r : Reader) (s : Source) (start : Nat) (digit : Char) :
    Except Fault Reader := do
  let (more, t) ← s.takeWhile Char.isDigit 1
  let digits := digit :: more
  if more ≠ [] ∧ digits.all isOctal then
    let (third, u) ← t.takeWhile isOctal 1
    if third ≠ [] then
      return r.pushCode u (← octalCode start digit (more ++ third))
  let index := numeral 10 digits
  if r.nextGroup ≤ index then throw (.atPosition (.invalidReference index) (start + 1))
  r.pushReference t start index

def namedAnchor? (flags : Flags) : Char → Option Anchor
  | 'A' => some .textStart
  | 'Z' => some .textEnd
  | 'b' => some (if .ascii ∈ flags then .asciiWordEdge else .wordEdge)
  | 'B' => some (if .ascii ∈ flags then .noAsciiWordEdge else .noWordEdge)
  | _ => none

def readEscape (r : Reader) (s : Source) (start : Nat) (letter : Char) :
    Except Fault Reader := do
  if let some anchor := namedAnchor? r.flags letter then return r.pushAnchor s anchor
  if let some member := namedClass? letter then return r.pushMember s member
  if let some code := controlCode? letter then return r.pushCode s code
  if let some count := hexDigits? letter then
    let (code, s) ← readHex start letter count s
    return r.pushCode s code
  if letter = 'N' then
    let (code, s) ← readNamed start s
    return r.pushCode s code
  if letter = '0' then
    let (digits, s) ← s.takeWhile isOctal 2
    return r.pushCode s (numeral 8 digits)
  if letter.isDigit then return ← r.readReference s start letter
  return r.pushCode s (← literalEscape start letter)

def repetitionLimit : Nat := 4294967295

def repetition (digits : List Char) : Except Fault Nat := do
  if Text.digitLimit < digits.length then throw (.excess (.digits digits.length))
  let n := numeral 10 digits
  if repetitionLimit ≤ n then throw (.excess .repetition)
  return n

/-- Reads the numbers of a repetition whose opening brace has been taken. There is none where the
brace stands for itself. -/
def readBounds (s : Source) : Except Fault (Option ((Nat × Option Nat) × Source)) := do
  if s.sees '\x7d' then return none
  let (low, t) ← s.takeWhile Char.isDigit s.rest.length
  let (comma, t) ← t.accept ','
  let (high, t) ← if comma then t.takeWhile Char.isDigit t.rest.length else pure (low, t)
  let (closed, t) ← t.accept '\x7d'
  if !closed then return none
  let least ← repetition low
  if high = [] then return some ((least, none), t)
  let most ← repetition high
  if most < least then throw (.atPosition .reversedRepeat s.position)
  return some ((least, some most), t)

def readPreference (s : Source) : Except Fault (Preference × Source) := do
  if s.sees '?' then return (.shortest, ← s.advance)
  if s.sees '+' then return (.possessive, ← s.advance)
  return (.longest, s)

def quantify (r : Reader) (s : Source) (start least : Nat) (most : Option Nat) :
    Except Fault Reader := do
  match r.inner.items with
  | [] => throw (.atPosition .nothingToRepeat start)
  | item :: items =>
    match item.kind with
    | .anchor => throw (.atPosition .nothingToRepeat start)
    | .repeated => throw (.atPosition .multipleRepeat start)
    | .ordinary =>
      let (preference, s) ← readPreference s
      let item := item.repeated r.flags ⟨least, most, preference⟩
      return { r with source := s, inner := { r.inner with items := item :: items } }

def readGroupName (terminator : Char) (s : Source) : Except Fault (String × Source) := do
  let (name, rest) ← s.takeName terminator "group name"
  if !Text.isName name.toList then throw (.atPosition (.badGroupName name) s.position)
  return (name, rest)

def readNamedGroup (r : Reader) (s : Source) (start : Nat) : Except Fault Reader := do
  let (name, rest) ← readGroupName '>' s
  if let some previous := r.names.lookup name then
    throw (.atPosition (.redefinedGroup name r.nextGroup previous) s.position)
  return { r.openCapture rest start with names := (name, r.nextGroup) :: r.names }

def groupNamed (r : Reader) (name : String) (position : Nat) : Except Fault Nat :=
  match r.names.lookup name with
  | some index => .ok index
  | none => .error (.atPosition (.unknownGroupName name) position)

def readNamedReference (r : Reader) (s : Source) : Except Fault Reader := do
  let (name, rest) ← readGroupName ')' s
  r.pushReference rest s.position (← r.groupNamed name s.position)

def groupLimit : Nat := 2147483647

def conditionNumber (text : String) (position : Nat) : Except Fault Nat :=
  match Text.readInteger text with
  | some (.ofNat 0) => .error (.atPosition .badGroupNumber position)
  | some (.ofNat index) =>
    if groupLimit ≤ index then .error (.atPosition (.invalidReference index) position)
    else .ok index
  | _ => .error (.atPosition (.badGroupName text) position)

/-- Opens a choice that depends on a group. A group that is asked for by number may come later. -/
def readCondition (r : Reader) (s : Source) (start : Nat) : Except Fault Reader := do
  let (text, rest) ← s.takeName ')' "group name"
  if Text.isName text.toList then
    let index ← r.groupNamed text s.position
    r.checkLookBehind index rest.position
    return r.openFrame rest (.condition index) start r.flags
  let index ← conditionNumber text s.position
  r.checkLookBehind index rest.position
  let r :=
    if r.conditions.any (·.1 = index) then r
    else { r with conditions := (index, s.position) :: r.conditions }
  return r.openFrame rest (.condition index) start r.flags

def readFlags (r : Reader) (s : Source) (start : Nat) : Except Fault Reader := do
  let (change, rest) ← FlagChange.read s
  match change with
  | .scoped on off => return r.openFrame rest .scoped start (r.flags.change on off)
  | .whole on =>
    if r.inner.opener ≠ .whole ∨ r.inner.alternatives ≠ [] ∨ r.inner.items ≠ [] then
      throw (.atPosition .lateFlags start)
    return { r with source := rest, inner := { r.inner with flags := r.flags ++ on } }

def skipComment (r : Reader) (s : Source) (start : Nat) : Except Fault Reader := do
  match ← s.takeUntil? ')' s.rest.length with
  | some (_, rest) => return { r with source := rest }
  | none => throw (.atPosition .unterminatedComment start)

def expectToken (s : Source) : Except Fault (Token × Source) := do
  let some token := s.peek? | throw (.atPosition .unexpectedEnd s.position)
  return (token, ← s.advance)

def readOpener (r : Reader) (s : Source) (start : Nat) : Except Fault Reader := do
  let (extended, s) ← s.accept '?'
  if !extended then return r.openCapture s start
  let (kind, rest) ← expectToken s
  match kind with
  | .plain ':' => return r.openFrame rest .plain start r.flags
  | .plain '>' => return r.openFrame rest .atomic start r.flags
  | .plain '=' => return r.openFrame rest (.ahead true) start r.flags
  | .plain '!' => return r.openFrame rest (.ahead false) start r.flags
  | .plain '#' => r.skipComment rest start
  | .plain '(' => r.readCondition rest start
  | .plain '<' =>
    let (sign, behind) ← expectToken rest
    match sign with
    | .plain '=' => return r.openFrame behind (.behind true r.nextGroup) start r.flags
    | .plain '!' => return r.openFrame behind (.behind false r.nextGroup) start r.flags
    | _ => throw (.atPosition (.unknownExtension ("?<" ++ sign.text)) (start + 1))
  | .plain 'P' =>
    let (sign, behind) ← expectToken rest
    match sign with
    | .plain '<' => r.readNamedGroup behind start
    | .plain '=' => r.readNamedReference behind
    | _ => throw (.atPosition (.unknownExtension ("?P" ++ sign.text)) (start + 1))
  | .plain c =>
    if (Flag.ofLetter? c).isSome ∨ c = '-' then r.readFlags s start
    else throw (.atPosition (.unknownExtension ("?" ++ kind.text)) (start + 1))
  | .escaped _ => throw (.atPosition (.unknownExtension ("?" ++ kind.text)) (start + 1))

def groupWidth (r : Reader) (index : Nat) : Width :=
  (r.widths.lookup index).getD (.exactly 0)

def close (r : Reader) (s : Source) (around : Frame) (outer : List Frame) : Reader :=
  let content := r.inner.content
  let width := content.expr.width r.groupWidth
  let handOver (item : Item) : Reader := { r with source := s, inner := around.push item, outer }
  let wrapped (expr : Expr) : Item := { expr, fault := content.fault }
  match r.inner.opener with
  | .whole | .plain => handOver content
  | .scoped => handOver (wrapped content.expr)
  | .atomic => handOver (wrapped (.atomic content.expr))
  | .capture index =>
    { handOver (wrapped (.group index content.expr)) with widths := (index, width) :: r.widths }
  | .ahead positive => handOver (wrapped (.look 0 positive content.expr))
  | .behind positive _ =>
    let item := wrapped (.look width.least positive content.expr)
    handOver (if width.fixed?.isSome then item else { item with fault := some .variableLookBehind })
  | .condition index =>
    match r.inner.branchExprs with
    | [yes, no] => handOver (wrapped (.cond index yes no))
    | _ => handOver (wrapped (.cond index content.expr .empty))

def readItem (r : Reader) (s : Source) (start : Nat) : Token → Except Fault Reader
  | .escaped c => r.readEscape s start c
  | .plain '.' => return r.push s (.ofSet (if .dotAll ∈ r.flags then .any else .dot))
  | .plain '^' =>
    return r.pushAnchor s (if .multiline ∈ r.flags then .lineStart else .textStart)
  | .plain '$' =>
    return r.pushAnchor s (if .multiline ∈ r.flags then .lineEnd else .lastLineEnd)
  | .plain '*' => r.quantify s start 0 none
  | .plain '+' => r.quantify s start 1 none
  | .plain '?' => r.quantify s start 0 (some 1)
  | .plain '(' => r.readOpener s start
  | .plain '[' => do
    let (bracket, s) ← readBracket start s
    return r.push s
      (if bracket.negated then .ofSet (bracket.set r.flags)
        else .ofMembers r.flags bracket.members)
  | .plain c => do
    if c = '\x7b' then
      if let some ((least, most), t) ← readBounds s then return ← r.quantify t start least most
    return r.pushCode s c.toNat

def skipIgnored? (s : Source) : Token → Except Fault (Option Source)
  | .plain '#' => do
    match ← s.takeUntil? '\n' s.rest.length with
    | some (_, rest) => return some rest
    | none => return some s.toEnd
  | .plain c => return if CharSet.asciiBlank.contains c then some s else none
  | .escaped _ => return none

def checkAlphabet (r : Reader) : Except Fault Unit :=
  if .ascii ∈ r.flags ∧ .unicode ∈ r.flags then .error (.excess .alphabets) else .ok ()

/-- Starts the next alternative. A choice has two of them at most. -/
def bar (r : Reader) (start : Nat) : Except Fault Reader := do
  match r.inner.opener, r.inner.alternatives with
  | .condition _, _ :: _ => throw (.atPosition .thirdBranch start)
  | _, _ => return { r with source := ← r.source.advance, inner := r.inner.bar }

/-- Reads one item, bar or closing parenthesis. At the end of the text nothing happens. -/
def step (r : Reader) : Except Fault Reader := do
  let start := r.source.position
  match r.source.peek? with
  | none => return r
  | some (.plain '|') => r.bar start
  | some (.plain ')') =>
    match r.outer with
    | [] =>
      r.checkAlphabet
      throw (.atPosition .unbalancedParenthesis start)
    | around :: outer => return r.close (← r.source.advance) around outer
  | some token =>
    let s ← r.source.advance
    if .verbose ∈ r.flags then
      if let some rest ← skipIgnored? s token then return { r with source := rest }
    r.readItem s start token

def steps : Nat → Reader → Except Fault Reader
  | 0, r => .ok r
  | n + 1, r => do steps n (← r.step)

def finish (r : Reader) : Except Fault Expr := do
  if r.outer ≠ [] then throw (.atPosition .missingParenthesis r.inner.start)
  r.checkAlphabet
  if let some (index, position) := r.conditions.reverse.find? (r.nextGroup ≤ ·.1) then
    throw (.atPosition (.invalidReference index) position)
  let content := r.inner.content
  if let some fault := content.fault then throw fault
  return content.expr

end Reader

def parse (pattern : String) : Except Fault Expr := do
  let source ← Source.ofText pattern
  (← Reader.steps source.rest.length { source }).finish

end ContractAudit.Regex
