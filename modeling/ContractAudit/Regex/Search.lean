import ContractAudit.Regex.Matcher

/-!
# Occurrences of an expression in a text

The walk goes through the places of a text from left to right. It takes the preferred match at each
place that no earlier match has passed. Where that match is empty, a match that is not empty may
follow at the same place.
-/

namespace ContractAudit.Regex

structure Span where
  start : Nat
  stop : Nat
  deriving DecidableEq, Repr

namespace Expr

def matchAt? (e : Expr) (c : Cursor) : Option State :=
  e.run { cursor := c } some

def nonemptyMatchAt? (e : Expr) (c : Cursor) : Option State :=
  e.run { cursor := c } fun t => if t.cursor.offset = c.offset then none else some t

/-- The occurrences that start at a place: none, one, or an empty one and another behind it. -/
def spansAt (e : Expr) (c : Cursor) : List Span :=
  match e.matchAt? c with
  | none => []
  | some t =>
    if t.cursor.offset = c.offset then
      ⟨c.offset, c.offset⟩ ::
        ((e.nonemptyMatchAt? c).map fun u => ⟨c.offset, u.cursor.offset⟩).toList
    else [⟨c.offset, t.cursor.offset⟩]

/-- The occurrences that start at one of the places, but not before the offset `resume`. -/
def spansFrom (e : Expr) : Nat → List Cursor → List Span
  | _, [] => []
  | resume, c :: rest =>
    if c.offset < resume then e.spansFrom resume rest
    else
      let here := e.spansAt c
      here ++ e.spansFrom ((here.getLast?.map Span.stop).getD resume) rest

def occurrences (e : Expr) (text : List Char) : List Span :=
  e.spansFrom 0 (Cursor.places text)

def occursIn (e : Expr) (text : List Char) : Bool :=
  (Cursor.places text).any fun c => (e.matchAt? c).isSome

end Expr

end ContractAudit.Regex
