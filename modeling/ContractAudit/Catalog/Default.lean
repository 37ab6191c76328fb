import ContractAudit.Catalog.Basic
import ContractAudit.Catalog.Patterns

/-!
# The default catalogue

Fifteen vulnerabilities and eight costly idioms of Solidity.
-/

namespace ContractAudit

def defaultVulnerabilities : List Signature :=
  [{ name := "Reentrancy", category := .security, severity := .critical
     pattern := Patterns.reentrancy
     description := "External call before state update may allow reentrancy"
     recommendation := "Use checks-effects-interactions pattern or ReentrancyGuard" },
   { name := "Unchecked Return Value", category := .security, severity := .high
     pattern := Patterns.uncheckedReturn
     description := "Return value of low-level call not checked"
     recommendation := "Check return value: require(success, \"Call failed\")" },
   { name := "tx.origin Authentication", category := .security, severity := .high
     pattern := Patterns.originAuthentication
     description := "Using tx.origin for authentication is vulnerable to phishing"
     recommendation := "Use msg.sender instead of tx.origin" },
   { name := "Floating Pragma", category := .bestPractice, severity := .low
     pattern := Patterns.floatingPragma
     description := "Using floating pragma allows different compiler versions"
     recommendation := "Lock pragma to specific version: pragma solidity 0.8.20;" },
   { name := "Unprotected Selfdestruct", category := .security, severity := .critical
     pattern := Patterns.selfdestruct
     description := "selfdestruct can be called, potentially destroying contract"
     recommendation := "Add access control or remove selfdestruct" },
   { name := "Potential Integer Overflow", category := .security, severity := .high
     pattern := Patterns.oldPragma
     description := "Solidity < 0.8 requires SafeMath for overflow protection"
     recommendation := "Upgrade to Solidity 0.8+ or use SafeMath" },
   { name := "Dangerous Delegatecall", category := .security, severity := .critical
     pattern := Patterns.delegatecall
     description := "Delegatecall can execute arbitrary code in caller context"
     recommendation := "Validate target address, avoid user-controlled delegatecall" },
   { name := "Timestamp Dependence", category := .security, severity := .medium
     pattern := Patterns.timestamp
     description := "block.timestamp can be manipulated by miners"
     recommendation := "Avoid using for critical logic, use block.number for intervals" },
   { name := "Weak Randomness", category := .security, severity := .high
     pattern := Patterns.weakRandomness
     description := "Block variables are predictable, not suitable for randomness"
     recommendation := "Use Chainlink VRF or commit-reveal scheme" },
   { name := "Missing Zero Address Check", category := .bestPractice, severity := .medium
     pattern := Patterns.missingZeroCheck
     description := "Address parameters not validated for zero address"
     recommendation := "Add require(addr != address(0), \"Zero address\")" },
   { name := "Inline Assembly", category := .security, severity := .medium
     pattern := Patterns.inlineAssembly
     description := "Inline assembly bypasses Solidity safety checks"
     recommendation := "Document thoroughly and review carefully" },
   { name := "Force Send Ether", category := .security, severity := .medium
     pattern := Patterns.ownBalance
     description := "Contract balance can be manipulated via selfdestruct"
     recommendation := "Track deposits with internal accounting" },
   { name := "Private State Variable", category := .bestPractice, severity := .low
     pattern := Patterns.privateVariable
     description := "Private variables are still readable on-chain"
     recommendation := "Never store secrets in contract storage" },
   { name := "Missing Event Emission", category := .bestPractice, severity := .low
     pattern := Patterns.silentOwnerChange
     description := "State changes should emit events for off-chain tracking"
     recommendation := "Add event emissions for important state changes" },
   { name := "Uninitialized Storage Pointer", category := .security, severity := .high
     pattern := Patterns.storagePointer
     description := "Uninitialized storage pointers can overwrite storage"
     recommendation := "Initialize storage pointers or use memory" }]

def defaultGas : List GasSignature :=
  [{ title := "Use immutable for constants set in constructor"
     pattern := Patterns.constructorConstant
     description := "Variables set once in constructor can be immutable"
     savings := "~2100 gas per read" },
   { title := "Cache array length in loops"
     pattern := Patterns.uncachedLength
     description := "Reading array.length in each iteration costs extra gas"
     savings := "~100 gas per iteration" },
   { title := "Use ++i instead of i++"
     pattern := Patterns.increment
     description := "Pre-increment is cheaper than post-increment"
     savings := "~5 gas per operation" },
   { title := "Use calldata for external function arrays"
     pattern := Patterns.memoryArray
     description := "calldata is cheaper than memory for read-only arrays"
     savings := "~600 gas per call" },
   { title := "Pack struct variables"
     pattern := Patterns.looseStruct
     description := "Group smaller types together to use fewer storage slots"
     savings := "~20000 gas per slot saved" },
   { title := "Use custom errors instead of strings"
     pattern := Patterns.requireMessage
     description := "Custom errors are cheaper than string messages"
     savings := "~50 gas per error" },
   { title := "Avoid zero to non-zero storage writes"
     pattern := Patterns.zeroThenWrite
     description := "Setting storage from 0 to non-zero is expensive"
     savings := "~20000 gas difference" },
   { title := "Use unchecked for safe arithmetic"
     pattern := Patterns.checkedLoop
     description := "Loop counters rarely overflow, can use unchecked"
     savings := "~30 gas per operation" }]

namespace Catalog

def standard : Catalog where
  vulnerabilities := defaultVulnerabilities
  gas := defaultGas

end Catalog

end ContractAudit
