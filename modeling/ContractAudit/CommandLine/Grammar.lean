import ContractAudit.CommandLine.Word

/-!
# Grammars of command lines

A grammar has options and at most one operand. Words take effect from left to right, and the first
one that is unsuitable, or that asks for help, ends the reading. Words that nobody asked for are
collected.
-/

namespace ContractAudit.CommandLine

structure Grammar where
  program : String
  usage : String
  details : String
  options : List Opt
  operand : Option String := none

inductive Stop where
  | help (text : String)
  | version
  | misuse (usage program message : String)
  deriving DecidableEq, Repr

namespace Grammar

def help (g : Grammar) : String :=
  g.usage ++ "\n" ++ g.details

def misuse (g : Grammar) (message : String) : Stop :=
  .misuse g.usage g.program message

def misuseOf (g : Grammar) (label reason : String) : Stop :=
  g.misuse ("argument " ++ label ++ ": " ++ reason)

end Grammar

/-- The options that one word names: those that take no argument, then the last one with what is
attached to it. -/
structure Chain where
  flags : List Opt
  last : Opt
  attached : Option String

def unjoin (g : Grammar) (o : Opt) (isShort : Bool) : List Char → Except Stop Chain
  | [] =>
    if o.takesValue then .ok ⟨[], o, some ""⟩
    else .error (g.misuseOf o.label ("ignored explicit argument " ++ Text.quote ""))
  | c :: rest =>
    let attached := String.ofList (c :: rest)
    if o.takesValue then .ok ⟨[], o, some attached⟩
    else
      match isShort, findName g.options ['-', c] with
      | true, some next =>
        if rest = [] then .ok ⟨[o], next, none⟩
        else do
          let chain ← unjoin g next true rest
          return { chain with flags := o :: chain.flags }
      | _, _ => .error (g.misuseOf o.label ("ignored explicit argument " ++ Text.quote attached))

def chainOf (g : Grammar) (named : Named) : Except Stop Chain :=
  match named.attached with
  | none => .ok ⟨[], named.opt, none⟩
  | some attached => unjoin g named.opt (named.name[1]? ≠ some '-') attached

structure Progress where
  settings : Settings := {}
  operandTaken : Bool := false
  afterOperand : Bool := false
  awaiting : Option Chain := none
  extras : List String := []

namespace Progress

def wantsOperand (p : Progress) (g : Grammar) : Bool :=
  g.operand.isSome && !p.operandTaken

def takeOperand (p : Progress) (text : String) : Progress :=
  { p with
    settings := { p.settings with target := text }, operandTaken := true, afterOperand := true }

def addExtra (p : Progress) (text : String) : Progress :=
  { p with extras := p.extras ++ [text], afterOperand := false }

def applyFlag (g : Grammar) (p : Progress) (o : Opt) : Except Stop Progress :=
  match o.effect with
  | .help => .error (.help g.help)
  | .version => .error .version
  | .flag set => .ok { p with settings := set p.settings }
  | .value .. => .ok p

/-- The effect of an option with its argument. Only an attached argument can be the separator. -/
def applyValue (g : Grammar) (p : Progress) (o : Opt) (word : String) : Except Stop Progress :=
  match o.effect with
  | .value set clear =>
    if word = separator then .ok { p with settings := clear p.settings }
    else match set word p.settings with
      | .ok settings => .ok { p with settings }
      | .error reason => .error (g.misuseOf o.label reason)
  | _ => .ok p

def applyChain (g : Grammar) (p : Progress) (chain : Chain) (word : String) :
    Except Stop Progress := do
  let p ← chain.flags.foldlM (applyFlag g) { p with awaiting := none, afterOperand := false }
  p.applyValue g chain.last word

def takeOption (g : Grammar) (p : Progress) (named : Named) : Except Stop Progress := do
  let chain ← chainOf g named
  if chain.last.takesValue then
    match chain.attached with
    | some word => p.applyChain g chain word
    | none => return { p with awaiting := some chain, afterOperand := false }
  else (chain.flags ++ [chain.last]).foldlM (applyFlag g) { p with afterOperand := false }

/-- Lets a word take effect. The separator is dropped where it stands beside the operand. -/
def step (g : Grammar) (p : Progress) (word : Word) : Except Stop Progress :=
  match p.awaiting, word with
  | some chain, .argument text => p.applyChain g chain text
  | some chain, _ => .error (g.misuseOf chain.last.label "expected one argument")
  | none, .argument text =>
    .ok (if p.wantsOperand g then p.takeOperand text else p.addExtra text)
  | none, .separator =>
    .ok (if p.wantsOperand g || p.afterOperand then p else p.addExtra separator)
  | none, .option text none => .ok (p.addExtra text)
  | none, .option _ (some named) => p.takeOption g named

end Progress

def Grammar.read (g : Grammar) (texts : List String) : Except Stop Progress := do
  let words ← (classifyAll g.options texts).mapError g.misuse
  let p ← words.foldlM (Progress.step g) {}
  if let some chain := p.awaiting then
    throw (g.misuseOf chain.last.label "expected one argument")
  match g.operand, p.operandTaken with
  | some name, false => throw (g.misuse ("the following arguments are required: " ++ name))
  | _, _ => return p

end ContractAudit.CommandLine
