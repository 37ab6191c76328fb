import ContractAudit.Regex.Escape

/-!
# Open groups

While a text is read, each group that is still open has a frame. It collects the items of the
group's alternatives.
-/

namespace ContractAudit.Regex

inductive ItemKind where
  | ordinary
  | anchor
  | repeated
  deriving DecidableEq, Repr

structure Item where
  expr : Expr
  kind : ItemKind := .ordinary
  members : Option (List Member) := none
  fault : Option Fault := none
  deriving DecidableEq, Repr

namespace Item

def ofMembers (flags : Flags) (members : List Member) : Item where
  expr := .char (flags.setOf members)
  members := some members

def ofSet (set : CharSet) : Item where
  expr := .char set

def ofAnchor (a : Anchor) : Item where
  expr := .anchor a
  kind := .anchor

def repeated (flags : Flags) (times : Times) (i : Item) : Item where
  expr := i.expr.repeated times
  kind := .repeated
  fault := if .template ∈ flags then some (.templateRepeat times.preference) else i.fault

end Item

inductive Opener where
  | whole
  | plain
  | scoped
  | atomic
  | capture (index : Nat)
  | ahead (positive : Bool)
  /-- A look-behind, with the number of the first group that can stand inside it. -/
  | behind (positive : Bool) (firstInner : Nat)
  | condition (index : Nat)
  deriving DecidableEq, Repr

structure Frame where
  opener : Opener
  start : Nat
  flags : Flags := []
  /-- The finished alternatives, latest first. -/
  alternatives : List (List Item) := []
  items : List Item := []
  deriving DecidableEq, Repr

namespace Frame

def push (f : Frame) (item : Item) : Frame :=
  { f with items := item :: f.items }

def bar (f : Frame) : Frame :=
  { f with alternatives := f.items.reverse :: f.alternatives, items := [] }

def branches (f : Frame) : List (List Item) :=
  (f.items.reverse :: f.alternatives).reverse

def branchExprs (f : Frame) : List Expr :=
  f.branches.map fun items => .all (items.map Item.expr)

def members? (f : Frame) : Option (List Member) := do
  let sets ← f.branches.mapM fun
    | [item] => item.members
    | _ => none
  return sets.flatten

/-- The content of the group. Alternatives that are sets are one set. -/
def content (f : Frame) : Item :=
  let fault := f.branches.flatten.findSome? Item.fault
  match f.members? with
  | some members => { Item.ofMembers f.flags members with fault }
  | none => { expr := .oneOf f.branchExprs, fault }

end Frame

end ContractAudit.Regex
