import ContractAudit.Regex.Expr
import ContractAudit.Text.Integer
import ContractAudit.Text.Quoted

/-!
# Why a text is no regular expression
-/

namespace ContractAudit.Regex

inductive Cause where
  | missingParenthesis
  | unbalancedParenthesis
  | unterminatedSet
  | unterminatedComment
  | nothingToRepeat
  | multipleRepeat
  | reversedRepeat
  | badRange (first last : String)
  | trailingBackslash
  | badEscape (escape : String)
  | incompleteEscape (escape : String)
  | largeOctal (escape : String)
  | missingBrace
  | unknownCharacterName (name : String)
  | missingName (subject : String)
  | unterminatedName (terminator : Char)
  | badGroupName (name : String)
  | unknownGroupName (name : String)
  | redefinedGroup (name : String) (index previous : Nat)
  | invalidReference (index : Nat)
  | badGroupNumber
  | openReference
  /-- A reference inside a look-behind to a group of the same look-behind. -/
  | innerReference
  | thirdBranch
  | unexpectedEnd
  | unknownExtension (extension : String)
  | lateFlags
  | unfinishedFlags
  | unknownFlag
  | missingFlag
  | missingColon
  | localeFlag
  | incompatibleFlags
  | wholeFlagTurnedOn
  | wholeFlagTurnedOff
  | alphabetTurnedOff
  | flagTurnedOnAndOff
  deriving DecidableEq, Repr

def Cause.message : Cause → String
  | missingParenthesis => "missing ), unterminated subpattern"
  | unbalancedParenthesis => "unbalanced parenthesis"
  | unterminatedSet => "unterminated character set"
  | unterminatedComment => "missing ), unterminated comment"
  | nothingToRepeat => "nothing to repeat"
  | multipleRepeat => "multiple repeat"
  | reversedRepeat => "min repeat greater than max repeat"
  | badRange first last => "bad character range " ++ first ++ "-" ++ last
  | trailingBackslash => "bad escape (end of pattern)"
  | badEscape escape => "bad escape " ++ escape
  | incompleteEscape escape => "incomplete escape " ++ escape
  | largeOctal escape => "octal escape value " ++ escape ++ " outside of range 0-0o377"
  | missingBrace => "missing \x7b"
  | unknownCharacterName name => "undefined character name " ++ Text.quote name
  | missingName subject => "missing " ++ subject
  | unterminatedName terminator => "missing " ++ terminator.toString ++ ", unterminated name"
  | badGroupName name => "bad character in group name " ++ Text.quote name
  | unknownGroupName name => "unknown group name " ++ Text.quote name
  | redefinedGroup name index previous =>
    "redefinition of group name " ++ Text.quote name ++ " as group " ++ toString index ++
      "; was group " ++ toString previous
  | invalidReference index => "invalid group reference " ++ toString index
  | badGroupNumber => "bad group number"
  | openReference => "cannot refer to an open group"
  | innerReference => "cannot refer to group defined in the same lookbehind subpattern"
  | thirdBranch => "conditional backref with more than two branches"
  | unexpectedEnd => "unexpected end of pattern"
  | unknownExtension extension => "unknown extension " ++ extension
  | lateFlags => "global flags not at the start of the expression"
  | unfinishedFlags => "missing -, : or )"
  | unknownFlag => "unknown flag"
  | missingFlag => "missing flag"
  | missingColon => "missing :"
  | localeFlag => "bad inline flags: cannot use 'L' flag with a str pattern"
  | incompatibleFlags => "bad inline flags: flags 'a', 'u' and 'L' are incompatible"
  | wholeFlagTurnedOn => "bad inline flags: cannot turn on global flag"
  | wholeFlagTurnedOff => "bad inline flags: cannot turn off global flag"
  | alphabetTurnedOff => "bad inline flags: cannot turn off flags 'a', 'u' and 'L'"
  | flagTurnedOnAndOff => "bad inline flags: flag turned on and off"

def Preference.operator : Preference → String
  | longest => "MAX_REPEAT"
  | shortest => "MIN_REPEAT"
  | possessive => "POSSESSIVE_REPEAT"

/-- What is wrong with a text that is well written, but asks for too much. -/
inductive Excess where
  | repetition
  | digits (count : Nat)
  | alphabets
  deriving DecidableEq, Repr

def Excess.message : Excess → String
  | repetition => "the repetition number is too large"
  | digits count => "Exceeds the limit (" ++ toString Text.digitLimit ++
      " digits) for integer string conversion: value has " ++ toString count ++
      " digits; use sys.set_int_max_str_digits() to increase the limit"
  | alphabets => "ASCII and UNICODE flags are incompatible"

inductive Fault where
  | atPosition (cause : Cause) (position : Nat)
  | variableLookBehind
  | templateRepeat (preference : Preference)
  | excess (e : Excess)
  deriving DecidableEq, Repr

def lineAndColumn (pattern : List Char) (position : Nat) : String :=
  let before := pattern.take position
  let column := (before.reverse.takeWhile (· ≠ '\n')).length + 1
  " (line " ++ toString (before.count '\n' + 1) ++ ", column " ++ toString column ++ ")"

/-- The fault in words. The place is given by line as well where the text has several. -/
def Fault.message (pattern : String) : Fault → String
  | variableLookBehind => "look-behind requires fixed-width pattern"
  | templateRepeat preference => "internal: unsupported template operator " ++ preference.operator
  | excess e => e.message
  | atPosition cause position =>
    cause.message ++ " at position " ++ toString position ++
      if '\n' ∈ pattern.toList then lineAndColumn pattern.toList position else ""

end ContractAudit.Regex
