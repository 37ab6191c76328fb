/-!
# UTF-8

Decoding never fails: each longest piece that starts a character and does not finish it, and each
byte that starts none, becomes one replacement character.
-/

namespace ContractAudit.Text.Utf8

def replacement : Char := '\uFFFD'

def encode (text : List Char) : List UInt8 :=
  text.flatMap String.utf8EncodeChar

/-- A character that has started: how many bytes it still needs besides the next one, the range of
the next one, and the bits so far. -/
structure Pending where
  more : Nat
  lo : Nat
  hi : Nat
  bits : Nat
  deriving DecidableEq, Repr

/-- What a byte gives at the start of a character: finished characters, and one that has begun. The
ranges of the second byte keep out overlong forms, surrogates and what lies beyond the last code
point. -/
def start (b : Nat) : List Char × Option Pending :=
  if b ≤ 0x7F then ([Char.ofNat b], none)
  else if 0xC2 ≤ b ∧ b ≤ 0xDF then ([], some ⟨0, 0x80, 0xBF, b - 0xC0⟩)
  else if b = 0xE0 then ([], some ⟨1, 0xA0, 0xBF, 0⟩)
  else if b = 0xED then ([], some ⟨1, 0x80, 0x9F, b - 0xE0⟩)
  else if 0xE1 ≤ b ∧ b ≤ 0xEF then ([], some ⟨1, 0x80, 0xBF, b - 0xE0⟩)
  else if b = 0xF0 then ([], some ⟨2, 0x90, 0xBF, 0⟩)
  else if b = 0xF4 then ([], some ⟨2, 0x80, 0x8F, b - 0xF0⟩)
  else if 0xF1 ≤ b ∧ b ≤ 0xF3 then ([], some ⟨2, 0x80, 0xBF, b - 0xF0⟩)
  else ([replacement], none)

/-- What a byte gives. One that does not continue a started character replaces it and starts
anew. -/
def step : Option Pending → Nat → List Char × Option Pending
  | none, b => start b
  | some p, b =>
    if p.lo ≤ b ∧ b ≤ p.hi then
      let bits := p.bits * 64 + (b - 0x80)
      match p.more with
      | 0 => ([Char.ofNat bits], none)
      | more + 1 => ([], some ⟨more, 0x80, 0xBF, bits⟩)
    else
      let (out, next) := start b
      (replacement :: out, next)

def decodeFrom : Option Pending → List UInt8 → List Char
  | none, [] => []
  | some _, [] => [replacement]
  | state, b :: rest =>
    let (out, next) := step state b.toNat
    out ++ decodeFrom next rest

def decode (bytes : List UInt8) : List Char :=
  decodeFrom none bytes

end ContractAudit.Text.Utf8
