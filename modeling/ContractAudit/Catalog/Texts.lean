import ContractAudit.Catalog.Rows

/-!
# Rows of the default catalogue

The default catalogue as rows, with its patterns as they are usually written.
-/

namespace ContractAudit.Catalog

def vulnerabilityTexts : List String :=
  ["\\.call\\\x7b.*value.*\\\x7d\\s*\\(|\\.call\\.value\\s*\\(",
    "\\.(call|send|transfer)\\s*\\([^)]*\\)\\s*;(?!\\s*require)",
    "tx\\.origin\\s*==|require\\s*\\(\\s*tx\\.origin",
    "pragma\\s+solidity\\s*\\^",
    "selfdestruct\\s*\\(|suicide\\s*\\(",
    "pragma\\s+solidity\\s*[\\^~]?0\\.[0-7]\\.",
    "delegatecall\\s*\\(",
    "block\\.timestamp|\\bnow\\b",
    "keccak256\\s*\\([^)]*block\\.(timestamp|number|difficulty|prevrandao)",
    "function\\s+\\w+\\s*\\([^)]*address\\s+\\w+[^)]*\\)\\s*(?:public|external)[^\x7b]*\\\x7b" ++
      "(?![^\x7d]*require\\s*\\([^)]*!=\\s*address\\(0\\))",
    "assembly\\s*\\\x7b",
    "this\\.balance|address\\(this\\)\\.balance",
    "private\\s+\\w+\\s+\\w+\\s*=",
    "function\\s+\\w+\\s*\\([^)]*\\)\\s*(?:public|external)[^\x7d]*\\b(owner|admin)\\s*=",
    "\\bstruct\\s+\\w+\\s+storage\\s+\\w+\\s*;"]

def gasTexts : List String :=
  ["public\\s+(\\w+)\\s+(\\w+)\\s*;(?=[^\x7d]*constructor[^\x7d]*\\2\\s*=)",
    "for\\s*\\([^;]*;\\s*\\w+\\s*<\\s*\\w+\\.length\\s*;",
    "\\w+\\+\\+(?!\\s*\\))|(?<!\\()\\+\\+\\w+",
    "function\\s+\\w+\\s*\\([^)]*\\[\\]\\s+memory",
    "struct\\s+\\w+\\s*\\\x7b[^\x7d]*uint256[^\x7d]*uint8[^\x7d]*uint256",
    "require\\s*\\([^,]+,\\s*\"[^\"]+\"\\)",
    "(\\w+)\\s*=\\s*0\\s*;[^\x7d]*\\1\\s*=",
    "for\\s*\\([^)]*\\)\\s*\\\x7b(?![^\x7d]*unchecked)"]

def rowOf (s : Signature) (pattern : String) : List Cell :=
  [s.name, s.category.name, s.severity.name, pattern, s.description, s.recommendation]

def gasRowOf (g : GasSignature) (pattern : String) : List Cell :=
  [g.title, pattern, g.description, g.savings]

def standardRows : List (List Cell) :=
  List.zipWith rowOf standard.vulnerabilities vulnerabilityTexts

def standardGasRows : List (List Cell) :=
  List.zipWith gasRowOf standard.gas gasTexts

end ContractAudit.Catalog
