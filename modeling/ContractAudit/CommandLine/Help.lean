/-!
# Help texts

For the program and for each of its commands: the lines of the usage, and the details that follow
them after an empty line.
-/

namespace ContractAudit.CommandLine.Help

def mainUsage : String :=
  "usage: solaudit [-h] [--version] \x7baudit,check,patterns,gas\x7d ...\n"

def mainDetails : String :=
  "Solidity smart contract security auditor\n" ++
  "\n" ++
  "positional arguments:\n" ++
  "  \x7baudit,check,patterns,gas\x7d\n" ++
  "    audit               Audit Solidity contracts\n" ++
  "    check               Quick security check on a single file\n" ++
  "    patterns            List vulnerability patterns checked\n" ++
  "    gas                 Gas optimization analysis\n" ++
  "\n" ++
  "options:\n" ++
  "  -h, --help            show this help message and exit\n" ++
  "  --version             show program's version number and exit\n"

def auditUsage : String :=
  "usage: solaudit audit [-h] [--color \x7bauto,always,never\x7d] [-v] [-r]\n" ++
  "                      [-s \x7blow,medium,high,critical\x7d] [--gas]\n" ++
  "                      [--best-practices] [-o \x7btable,json,markdown\x7d]\n" ++
  "                      [--save SAVE] [-j JOBS]\n" ++
  "                      path\n"

def auditDetails : String :=
  "positional arguments:\n" ++
  "  path                  Contract file or folder of .sol files\n" ++
  "\n" ++
  "options:\n" ++
  "  -h, --help            show this help message and exit\n" ++
  "  --color \x7bauto,always,never\x7d\n" ++
  "                        Colorize output (default: auto)\n" ++
  "  -v, --verbose         Debug logging on stderr\n" ++
  "  -r, --recursive       Scan folders recursively\n" ++
  "  -s \x7blow,medium,high,critical\x7d, --severity \x7blow,medium,high,critical\x7d\n" ++
  "                        Minimum severity to report (default: low)\n" ++
  "  --gas                 Include gas optimization suggestions\n" ++
  "  --best-practices      Include best practice checks\n" ++
  "  -o \x7btable,json,markdown\x7d, --output \x7btable,json,markdown\x7d\n" ++
  "                        Report format\n" ++
  "  --save SAVE           Also write the report to this file\n" ++
  "  -j JOBS, --jobs JOBS  Files scanned in parallel (default: 1)\n"

def checkUsage : String :=
  "usage: solaudit check [-h] [--color \x7bauto,always,never\x7d] [-v] file\n"

def checkDetails : String :=
  "positional arguments:\n" ++
  "  file\n" ++
  "\n" ++
  "options:\n" ++
  "  -h, --help            show this help message and exit\n" ++
  "  --color \x7bauto,always,never\x7d\n" ++
  "                        Colorize output (default: auto)\n" ++
  "  -v, --verbose         Debug logging on stderr\n"

def patternsUsage : String :=
  "usage: solaudit patterns [-h] [--color \x7bauto,always,never\x7d] [-v]\n" ++
  "                         [--category \x7bsecurity,best-practice\x7d]\n"

def patternsDetails : String :=
  "options:\n" ++
  "  -h, --help            show this help message and exit\n" ++
  "  --color \x7bauto,always,never\x7d\n" ++
  "                        Colorize output (default: auto)\n" ++
  "  -v, --verbose         Debug logging on stderr\n" ++
  "  --category \x7bsecurity,best-practice\x7d\n" ++
  "                        Filter by category\n"

def gasUsage : String :=
  "usage: solaudit gas [-h] [--color \x7bauto,always,never\x7d] [-v] file\n"

def gasDetails : String :=
  "positional arguments:\n" ++
  "  file\n" ++
  "\n" ++
  "options:\n" ++
  "  -h, --help            show this help message and exit\n" ++
  "  --color \x7bauto,always,never\x7d\n" ++
  "                        Colorize output (default: auto)\n" ++
  "  -v, --verbose         Debug logging on stderr\n"

end ContractAudit.CommandLine.Help
