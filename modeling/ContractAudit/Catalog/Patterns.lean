import ContractAudit.Regex.Expr

/-!
# Patterns of the default catalogue

The texts that these patterns are usually written as stand in the rows of the default catalogue.
Groups that nothing refers to are left out.
-/

namespace ContractAudit.Patterns

open Regex Regex.Expr

/-- Matches `\s*` -/
def blanks : Expr := star .blank

/-- Matches `\s+` -/
def gap : Expr := plus .blank

/-- Matches `\w+` -/
def identifier : Expr := plus .word

/-- Matches `[^c]*` -/
def avoiding (c : Char) : Expr := star (.other c)

def reentrancy : Expr :=
  alt
    (all [text ".call\x7b", star .dot, text "value", star .dot, text "\x7d", blanks, text "("])
    (all [text ".call.value", blanks, text "("])

def uncheckedReturn : Expr :=
  all [text ".", oneOf [text "call", text "send", text "transfer"], blanks, text "(", avoiding ')',
    text ")", blanks, text ";", notAhead (all [blanks, text "require"])]

def originAuthentication : Expr :=
  alt
    (all [text "tx.origin", blanks, text "=="])
    (all [text "require", blanks, text "(", blanks, text "tx.origin"])

def floatingPragma : Expr :=
  all [text "pragma", gap, text "solidity", blanks, text "^"]

def selfdestruct : Expr :=
  alt (all [text "selfdestruct", blanks, text "("]) (all [text "suicide", blanks, text "("])

def oldPragma : Expr :=
  all [text "pragma", gap, text "solidity", blanks, optional (.union (.single '^') (.single '~')),
    text "0.", char (.range 0x30 0x37), text "."]

def delegatecall : Expr :=
  all [text "delegatecall", blanks, text "("]

def timestamp : Expr :=
  alt (text "block.timestamp") (all [anchor .wordEdge, text "now", anchor .wordEdge])

def weakRandomness : Expr :=
  all [text "keccak256", blanks, text "(", avoiding ')', text "block.",
    oneOf [text "timestamp", text "number", text "difficulty", text "prevrandao"]]

def missingZeroCheck : Expr :=
  all [text "function", gap, identifier, blanks, text "(", avoiding ')', text "address", gap,
    identifier, avoiding ')', text ")", blanks, oneOf [text "public", text "external"], avoiding '\x7b',
    text "\x7b",
    notAhead (all [avoiding '\x7d', text "require", blanks, text "(", avoiding ')', text "!=", blanks,
      text "address(0)"])]

def inlineAssembly : Expr :=
  all [text "assembly", blanks, text "\x7b"]

def ownBalance : Expr :=
  alt (text "this.balance") (text "address(this).balance")

def privateVariable : Expr :=
  all [text "private", gap, identifier, gap, identifier, blanks, text "="]

def silentOwnerChange : Expr :=
  all [text "function", gap, identifier, blanks, text "(", avoiding ')', text ")", blanks,
    oneOf [text "public", text "external"], avoiding '\x7d', anchor .wordEdge,
    oneOf [text "owner", text "admin"], blanks, text "="]

def storagePointer : Expr :=
  all [anchor .wordEdge, text "struct", gap, identifier, gap, text "storage", gap, identifier,
    blanks, text ";"]

def constructorConstant : Expr :=
  all [text "public", gap, group 1 identifier, gap, group 2 identifier, blanks, text ";",
    ahead (all [avoiding '\x7d', text "constructor", avoiding '\x7d', backref 2, blanks, text "="])]

def uncachedLength : Expr :=
  all [text "for", blanks, text "(", avoiding ';', text ";", blanks, identifier, blanks, text "<",
    blanks, identifier, text ".length", blanks, text ";"]

def increment : Expr :=
  alt
    (all [identifier, text "++", notAhead (all [blanks, text ")"])])
    (all [look 1 false (text "("), text "++", identifier])

def memoryArray : Expr :=
  all [text "function", gap, identifier, blanks, text "(", avoiding ')', text "[]", gap,
    text "memory"]

def looseStruct : Expr :=
  all [text "struct", gap, identifier, blanks, text "\x7b", avoiding '\x7d', text "uint256",
    avoiding '\x7d', text "uint8", avoiding '\x7d', text "uint256"]

def requireMessage : Expr :=
  all [text "require", blanks, text "(", plus (.other ','), text ",", blanks, text "\"",
    plus (.other '"'), text "\")"]

def zeroThenWrite : Expr :=
  all [group 1 identifier, blanks, text "=", blanks, text "0", blanks, text ";", avoiding '\x7d',
    backref 1, blanks, text "="]

def checkedLoop : Expr :=
  all [text "for", blanks, text "(", avoiding ')', text ")", blanks, text "\x7b",
    notAhead (all [avoiding '\x7d', text "unchecked"])]

end ContractAudit.Patterns
