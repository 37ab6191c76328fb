/-!
# Name and version of the program
-/

namespace ContractAudit

def programName : String := "solaudit"

def version : String := "0.1.0"

end ContractAudit
