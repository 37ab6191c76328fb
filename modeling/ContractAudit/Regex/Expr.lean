import ContractAudit.Regex.CharSet

/-!
# Regular expressions

The expressions that signatures are written in. A run of characters from one set has a constructor
of its own beside the general repetition: it is the only repetition that the signatures of the
default catalogue need.
-/

namespace ContractAudit.Regex

inductive Preference where
  | longest
  | shortest
  | possessive
  deriving DecidableEq, Repr

structure Times where
  least : Nat
  most : Option Nat
  preference : Preference := .longest
  deriving DecidableEq, Repr

inductive Anchor where
  | textStart
  | textEnd
  /-- The end of the text, or the place before a line feed that ends it. -/
  | lastLineEnd
  | lineStart
  | lineEnd
  | wordEdge
  /-- Inside a word or outside of all words. The empty text has no such place. -/
  | noWordEdge
  | asciiWordEdge
  | noAsciiWordEdge
  deriving DecidableEq, Repr

inductive Expr where
  | empty
  | char (set : CharSet)
  | seq (first second : Expr)
  | alt (first second : Expr)
  | chars (set : CharSet) (times : Times)
  | many (body : Expr) (times : Times)
  | group (index : Nat) (body : Expr)
  /-- The text last remembered under a number, up to the case of letters; fails where there is
  none. -/
  | backref (index : Nat) (mode : CaseMode := .exact)
  | atomic (body : Expr)
  | cond (index : Nat) (yes no : Expr)
  | anchor (condition : Anchor)
  /-- Tests whether the body matches from `back` characters before this place on, and consumes
  nothing. -/
  | look (back : Nat) (positive : Bool) (body : Expr)
  deriving DecidableEq, Repr

namespace Expr

def text (s : String) : Expr :=
  s.toList.foldr (fun c rest => seq (char (.single c)) rest) empty

def all : List Expr → Expr
  | [] => empty
  | [e] => e
  | e :: rest => seq e (all rest)

def oneOf : List Expr → Expr
  | [] => empty
  | [e] => e
  | e :: rest => alt e (oneOf rest)

def star (set : CharSet) : Expr :=
  chars set ⟨0, none, .longest⟩

def plus (set : CharSet) : Expr :=
  chars set ⟨1, none, .longest⟩

def optional (set : CharSet) : Expr :=
  chars set ⟨0, some 1, .longest⟩

def ahead (body : Expr) : Expr :=
  look 0 true body

def notAhead (body : Expr) : Expr :=
  look 0 false body

def repeated (times : Times) : Expr → Expr
  | char set => chars set times
  | e => many e times

end Expr

structure Width where
  least : Nat
  most : Option Nat
  deriving DecidableEq, Repr

namespace Width

def exactly (n : Nat) : Width :=
  ⟨n, some n⟩

def add (a b : Width) : Width where
  least := a.least + b.least
  most := a.most.bind fun m => b.most.map (m + ·)

def either (a b : Width) : Width where
  least := min a.least b.least
  most := a.most.bind fun m => b.most.map (max m)

/-- The width of a repetition. What consumes nothing consumes nothing however often. -/
def times (w : Width) (t : Times) : Width where
  least := w.least * t.least
  most := match w.most, t.most with
    | some 0, _ => some 0
    | _, some 0 => some 0
    | some m, some n => some (m * n)
    | _, _ => none

def limit : Nat := 4294967294

def fixed? (w : Width) : Option Nat :=
  if w.most = some w.least ∧ w.least ≤ limit then some w.least else none

end Width

/-- The width of an expression, given the widths of the groups that it refers back to. -/
def Expr.width (groups : Nat → Width) : Expr → Width
  | .empty => .exactly 0
  | .char _ => .exactly 1
  | .seq e f => (e.width groups).add (f.width groups)
  | .alt e f => (e.width groups).either (f.width groups)
  | .chars _ t => (Width.exactly 1).times t
  | .many e t => (e.width groups).times t
  | .group _ e => e.width groups
  | .backref n _ => groups n
  | .atomic e => e.width groups
  | .cond _ e f => (e.width groups).either (f.width groups)
  | .anchor _ => .exactly 0
  | .look _ _ _ => .exactly 0

end ContractAudit.Regex
