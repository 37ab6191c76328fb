/-!
# Lines of a text

Only the line feed ends a line, so that lines are numbered by the line feeds before them.
-/

namespace ContractAudit.Text

/-- The pieces of a text between the occurrences of a mark. The empty text is one empty piece. -/
def split (mark : Char) : List Char → List (List Char)
  | [] => [[]]
  | c :: rest =>
    if c = mark then [] :: split mark rest
    else match split mark rest with
      | [] => [[c]]
      | piece :: pieces => (c :: piece) :: pieces

def splitLines (text : List Char) : List (List Char) :=
  split '\n' text

def lineAt (text : List Char) (offset : Nat) : Nat :=
  (text.take offset).count '\n' + 1

/-- An offset as a place in a text of the given length: a negative one counts from the end, and
none leaves the text. -/
def clampOffset (length : Nat) (offset : Int) : Nat :=
  if offset < 0 then (length + offset).toNat else min offset.toNat length

theorem split_ne_nil (mark : Char) (text : List Char) : split mark text ≠ [] := by
  cases text with
  | nil => simp [split]
  | cons c rest =>
    rw [split]
    split
    · simp
    · split <;> simp

end ContractAudit.Text
