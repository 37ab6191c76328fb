import ContractAudit.Text.Lines

/-!
# Paths

A path is a list of names, with a slash in front or not. Writing it down forgets doubled and
trailing slashes and the name `.`, but keeps `..` and exactly two slashes in front.
-/

namespace ContractAudit

inductive Start where
  | here
  | root
  | doubleRoot
  deriving DecidableEq, Repr

namespace Start

/-- Two slashes in front of a path are told apart from one; more than two are like one. -/
def ofSlashes : Nat → Start
  | 0 => here
  | 2 => doubleRoot
  | _ => root

def display : Start → String
  | here => ""
  | root => "/"
  | doubleRoot => "//"

end Start

structure Path where
  start : Start := .here
  parts : List String
  deriving DecidableEq, Repr

namespace Path

def ofText (text : String) : Path where
  start := .ofSlashes (text.toList.takeWhile (· = '/')).length
  parts := ((Text.split '/' text.toList).map String.ofList).filter fun part =>
    part ≠ "" ∧ part ≠ "."

def display (p : Path) : String :=
  if p.start = .here ∧ p.parts = [] then "."
  else p.start.display ++ "/".intercalate p.parts

def normalize (text : String) : String :=
  (ofText text).display

def append (p : Path) (parts : List String) : Path :=
  { p with parts := p.parts ++ parts }

end Path

/-- The name's ending from its last dot on, if something stands before and behind the dot. -/
def suffix? (name : List Char) : Option (List Char) :=
  let ending := (name.reverse.takeWhile (· ≠ '.')).reverse
  if ending ≠ [] ∧ ending.length + 1 < name.length then some ('.' :: ending) else none

/-- Source files are those whose ending is `.sol`, in capital or small letters. Only ASCII letters
are folded: no other character has a letter of this ending as its small form. -/
def isSourceName (name : String) : Bool :=
  (suffix? name.toList).map (·.map Char.toLower) = some ['.', 's', 'o', 'l']

end ContractAudit
