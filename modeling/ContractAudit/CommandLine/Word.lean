import ContractAudit.CommandLine.Settings
import ContractAudit.Regex.Search
import ContractAudit.Text.Quoted

/-!
# Words of a command line

Before any word takes effect, each is classified as an argument, as the separator behind which all
words are arguments, or as an option.
-/

namespace ContractAudit.CommandLine

inductive Effect where
  | help
  | version
  | flag (set : Settings → Settings)
  /-- Takes an argument; an unsuitable one is answered with the reason. The separator, attached to
  the option, clears it. -/
  | value (set : String → Settings → Except String Settings) (clear : Settings → Settings)

structure Opt where
  names : List String
  effect : Effect

namespace Opt

def label (o : Opt) : String :=
  "/".intercalate o.names

def takesValue (o : Opt) : Bool :=
  match o.effect with
  | .value .. => true
  | _ => false

end Opt

def separator : String := "--"

structure Named where
  opt : Opt
  name : List Char
  attached : Option (List Char) := none

inductive Word where
  | argument (text : String)
  | separator
  | option (text : String) (named : Option Named)

def Word.text : Word → String
  | argument text => text
  | separator => CommandLine.separator
  | option text _ => text

def namesOf (options : List Opt) : List (List Char × Opt) :=
  options.flatMap fun o => o.names.map fun name => (name.toList, o)

def findName (options : List Opt) (name : List Char) : Option Opt :=
  (namesOf options).lookup name

def splitAssignment (word : List Char) : List Char × Option (List Char) :=
  match word.dropWhile (· ≠ '=') with
  | [] => (word, none)
  | _ :: value => (word.takeWhile (· ≠ '='), some value)

/-- The options that a word may abbreviate. A word with two hyphens abbreviates every long name that
starts with it; a word with one hyphen is a short name with its argument. -/
def candidates (options : List Opt) (word : List Char) : List Named :=
  if ['-', '-'].isPrefixOf word then
    let (name, attached) := splitAssignment word
    (namesOf options).filterMap fun (full, o) =>
      if name.isPrefixOf full then some ⟨o, full, attached⟩ else none
  else
    (namesOf options).filterMap fun (full, o) =>
      if full = word.take 2 then some ⟨o, full, some (word.drop 2)⟩
      else if word.isPrefixOf full then some ⟨o, full, none⟩
      else none

/-- Matches `^-\d+$|^-\d*\.\d+$` -/
def negativeNumber : Regex.Expr :=
  .alt
    (.all [.anchor .textStart, .text "-", .plus .digit, .anchor .lastLineEnd])
    (.all [.anchor .textStart, .text "-", .star .digit, .text ".", .plus .digit,
      .anchor .lastLineEnd])

def looksNegative (word : List Char) : Bool :=
  (negativeNumber.matchAt? (.start word)).isSome

/-- Classifies a word other than the separator. A word that could be several options is refused. -/
def classify (options : List Opt) (text : String) : Except String Word :=
  let word := text.toList
  if word.head? ≠ some '-' then .ok (.argument text)
  else match findName options word with
    | some o => .ok (.option text (some ⟨o, word, none⟩))
    | none =>
      if word.length = 1 then .ok (.argument text)
      else
        let (name, attached) := splitAssignment word
        match attached, findName options name with
        | some value, some o => .ok (.option text (some ⟨o, name, some value⟩))
        | _, _ => match candidates options word with
          | [named] => .ok (.option text (some named))
          | [] =>
            if looksNegative word ∨ ' ' ∈ word then .ok (.argument text)
            else .ok (.option text none)
          | several => .error ("ambiguous option: " ++ text ++ " could match " ++
              ", ".intercalate (several.map fun n => String.ofList n.name))

def classifyAll (options : List Opt) : List String → Except String (List Word)
  | [] => .ok []
  | text :: rest =>
    if text = separator then .ok (.separator :: rest.map .argument)
    else do
      let word ← classify options text
      return word :: (← classifyAll options rest)

end ContractAudit.CommandLine
