/-!
# A place in a text

A cursor splits a text in two and remembers how far it stands from the start. Moving it never
changes the text (`text_of_next?`, `text_of_mem_stops`).
-/

namespace ContractAudit.Regex

structure Cursor where
  /-- What stands before the cursor, nearest character first. -/
  before : List Char
  after : List Char
  offset : Nat
  offset_eq : offset = before.length
  deriving DecidableEq, Repr

namespace Cursor

def text (c : Cursor) : List Char :=
  c.before.reverse ++ c.after

def start (text : List Char) : Cursor :=
  ⟨[], text, 0, rfl⟩

def atStart (c : Cursor) : Bool :=
  c.before.isEmpty

def atEnd (c : Cursor) : Bool :=
  c.after.isEmpty

def next? : Cursor → Option (Char × Cursor)
  | ⟨_, [], _, _⟩ => none
  | ⟨before, x :: after, offset, h⟩ => some (x, ⟨x :: before, after, offset + 1, by simp [h]⟩)

def previous? : Cursor → Option Cursor
  | ⟨[], _, _, _⟩ => none
  | ⟨x :: before, after, offset, h⟩ =>
    some ⟨before, x :: after, offset - 1, by simp [h]⟩

def back? : Nat → Cursor → Option Cursor
  | 0, c => some c
  | n + 1, c => c.previous?.bind (back? n)

def skip? (f : Char → Char) (c : Cursor) : (expected : List Char) → Option Cursor
  | [] => some c
  | x :: rest =>
    match c.next? with
    | some (y, d) => if f y = f x then d.skip? f rest else none
    | none => none

def stopsFrom (p : Char → Bool) :
    (after before : List Char) → (offset : Nat) → offset = before.length → List Cursor
  | [], before, offset, h => [⟨before, [], offset, h⟩]
  | x :: after, before, offset, h =>
    ⟨before, x :: after, offset, h⟩ ::
      if p x then stopsFrom p after (x :: before) (offset + 1) (by simp [h]) else []

/-- Where a run of characters that satisfy `p` can end, shortest run first. -/
def stops (p : Char → Bool) (c : Cursor) : List Cursor :=
  stopsFrom p c.after c.before c.offset c.offset_eq

def places (text : List Char) : List Cursor :=
  (start text).stops fun _ => true

def upTo (c d : Cursor) : List Char :=
  c.after.take (d.offset - c.offset)

theorem text_of_next? {c d : Cursor} {x : Char} (h : c.next? = some (x, d)) : d.text = c.text := by
  obtain ⟨before, after, offset, hOffset⟩ := c
  cases after with
  | nil => cases h
  | cons y after =>
    cases h
    simp [text]

theorem text_of_mem_stopsFrom {p : Char → Bool} {after before : List Char} {offset : Nat}
    {h : offset = before.length} {d : Cursor} (hd : d ∈ stopsFrom p after before offset h) :
    d.text = before.reverse ++ after := by
  induction after generalizing before offset with
  | nil =>
    simp only [stopsFrom, List.mem_singleton] at hd
    subst hd
    rfl
  | cons x after ih =>
    rcases List.mem_cons.mp hd with rfl | hd
    · rfl
    · split at hd
      · simpa using ih hd
      · cases hd

theorem text_of_mem_stops {p : Char → Bool} {c d : Cursor} (h : d ∈ c.stops p) :
    d.text = c.text :=
  text_of_mem_stopsFrom h

end Cursor

end ContractAudit.Regex
