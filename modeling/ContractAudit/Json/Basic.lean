import ContractAudit.Text.Quoted

/-!
# JSON documents

Documents and their layout: two blanks of indentation a level, and nothing but printable ASCII
characters inside a text. Numbers are whole.
-/

namespace ContractAudit.Json

inductive Value where
  | null
  | flag (value : Bool)
  | number (value : Int)
  | text (value : String)
  | list (items : List Value)
  | object (fields : List (String × Value))

def unitEscape (n : Nat) : List Char :=
  '\\' :: 'u' :: Text.hexDigits 4 n

/-- A code point as one escape, or as the escapes of its two surrogates. -/
def codeEscape (n : Nat) : List Char :=
  if n < 0x10000 then unitEscape n
  else unitEscape (0xD800 + (n - 0x10000) / 0x400) ++ unitEscape (0xDC00 + (n - 0x10000) % 0x400)

def encodeChar (c : Char) : List Char :=
  if c = '"' ∨ c = '\\' then ['\\', c]
  else if c = '\n' then ['\\', 'n']
  else if c = '\r' then ['\\', 'r']
  else if c = '\t' then ['\\', 't']
  else if c = '\x0c' then ['\\', 'f']
  else if c = '\x08' then ['\\', 'b']
  else if 0x20 ≤ c.toNat ∧ c.toNat ≤ 0x7E then [c]
  else codeEscape c.toNat

def encode (text : String) : List Char :=
  '"' :: text.toList.flatMap encodeChar ++ ['"']

def newLine (level : Nat) : List Char :=
  '\n' :: List.replicate (2 * level) ' '

mutual

def layout (level : Nat) : Value → List Char
  | .null => ['n', 'u', 'l', 'l']
  | .flag true => ['t', 'r', 'u', 'e']
  | .flag false => ['f', 'a', 'l', 's', 'e']
  | .number n => (toString n).toList
  | .text s => encode s
  | .list [] => ['[', ']']
  | .list (v :: rest) =>
    '[' :: newLine (level + 1) ++ layout (level + 1) v ++ layoutItems (level + 1) rest ++
      newLine level ++ [']']
  | .object [] => ['\x7b', '\x7d']
  | .object ((key, v) :: rest) =>
    '\x7b' :: newLine (level + 1) ++ encode key ++ [':', ' '] ++ layout (level + 1) v ++
      layoutFields (level + 1) rest ++ newLine level ++ ['\x7d']

def layoutItems (level : Nat) : List Value → List Char
  | [] => []
  | v :: rest => ',' :: newLine level ++ layout level v ++ layoutItems level rest

def layoutFields (level : Nat) : List (String × Value) → List Char
  | [] => []
  | (key, v) :: rest =>
    ',' :: newLine level ++ encode key ++ [':', ' '] ++ layout level v ++ layoutFields level rest

end

def render (v : Value) : String :=
  String.ofList (layout 0 v)

end ContractAudit.Json
