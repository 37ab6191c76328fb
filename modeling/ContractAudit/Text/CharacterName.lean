import ContractAudit.Text.CharacterName.Aliases
import ContractAudit.Text.CharacterName.EastAsia
import ContractAudit.Text.CharacterName.GeneralScripts
import ContractAudit.Text.CharacterName.HistoricScripts
import ContractAudit.Text.CharacterName.Notations
import ContractAudit.Text.CharacterName.Pictographs
import ContractAudit.Text.CharacterName.Symbols
import ContractAudit.Text.Ranges

/-!
# Characters by name

Most characters have a name in a list. The names of Hangul syllables are spelt from the names of
their parts, and those of ideographs end in the code point. Listed names may be written with small
letters, the names of syllables and of unified ideographs may not.
-/

namespace ContractAudit.Text

def hangulParts : List (List String) :=
  [["G", "GG", "N", "D", "DD", "R", "M", "B", "BB", "S", "SS", "", "J", "JJ", "C", "K", "T", "P",
      "H"],
    ["A", "AE", "YA", "YAE", "EO", "E", "YEO", "YE", "O", "WA", "WAE", "OE", "YO", "U", "WEO", "WE",
      "WI", "YU", "EU", "YI", "I"],
    ["", "G", "GG", "GS", "N", "NJ", "NH", "D", "L", "LG", "LM", "LB", "LS", "LT", "LP", "LH", "M",
      "B", "BS", "S", "SS", "NG", "J", "C", "K", "T", "P", "H"]]

def longestStart? (names : List String) (text : List Char) : Option (Nat × Nat) :=
  let found := ((List.range names.length).zip names).filterMap fun (place, name) =>
    if name.toList.isPrefixOf text then some (place, name.length) else none
  found.foldl (fun best next => if best.all (·.2 < next.2) then some next else best) none

/-- The places of a syllable's parts, each part taken as long as possible. -/
def hangulPlaces? : List (List String) → List Char → Option (List Nat)
  | [], [] => some []
  | [], _ :: _ => none
  | names :: rest, text => do
    let (place, length) ← longestStart? names text
    return place :: (← hangulPlaces? rest (text.drop length))

def hangulNamed? (name : List Char) : Option Nat := do
  match ← hangulPlaces? hangulParts name with
  | [first, second, third] => return 0xAC00 + (first * 21 + second) * 28 + third
  | _ => none

def codeOf? (digits : List Char) : Option Nat :=
  let isDigit := fun c : Char => c.isDigit || ('A' ≤ c && c ≤ 'F')
  if (digits.length = 4 ∨ digits.length = 5) ∧ digits.all isDigit then
    some (digits.foldl (fun n c => n * 16 + if c.isDigit then c.toNat - 48 else c.toNat - 55) 0)
  else none

def behind? (stem : String) (name : List Char) : Option (List Char) :=
  if stem.toList.isPrefixOf name then some (name.drop stem.length) else none

def unifiedIdeographs : Ranges :=
  [(0x3400, 0x4DBF), (0x4E00, 0x9FFF), (0x20000, 0x2A6DF), (0x2A700, 0x2B738), (0x2B740, 0x2B81D),
    (0x2B820, 0x2CEA1), (0x2CEB0, 0x2EBE0), (0x30000, 0x3134A)]

def numberedNames : List (String × Ranges) :=
  [("CJK COMPATIBILITY IDEOGRAPH-", [(0xF900, 0xFA6D), (0xFA70, 0xFAD9), (0x2F800, 0x2FA1D)]),
    ("KHITAN SMALL SCRIPT CHARACTER-", [(0x18B00, 0x18CD5)]),
    ("NUSHU CHARACTER-", [(0x1B170, 0x1B2FB)])]

def codeIn? (ranges : Ranges) (digits : List Char) : Option Nat :=
  (codeOf? digits).filter fun n => ranges.any fun r => r.1 ≤ n && n ≤ r.2

def listedNames : List (List NameRun) :=
  [generalScriptsNames, symbolsNames, eastAsiaNames, historicScriptsNames, notationsNames,
    pictographsNames]

/-- The code point of the character with a listed name, written in capitals. A code point at the end
of such a name has no needless zero. -/
def listedNamed? (name : List Char) : Option Nat :=
  let numbered := numberedNames.findSome? fun (stem, ranges) =>
    ((behind? stem name).filter (·.head? ≠ some '0')).bind (codeIn? ranges)
  let further := (aliasNames.find? (·.2.toList = name)).map Prod.fst
  let words := split ' ' name
  numbered.or (further.or (listedNames.findSome? fun runs => runs.findSome? (NameRun.find? words)))

def characterNamed? (name : String) : Option Nat :=
  let chars := name.toList
  match behind? "HANGUL SYLLABLE " chars, behind? "CJK UNIFIED IDEOGRAPH-" chars with
  | some syllable, _ => hangulNamed? syllable
  | _, some digits => codeIn? unifiedIdeographs digits
  | none, none => listedNamed? (chars.map Char.toUpper)

end ContractAudit.Text
