import ContractAudit.Text.Ranges

/-!
# White space

The white space of Unicode, with the four separators U+001C to U+001F. `strip` takes it off both
ends of a text.
-/

namespace ContractAudit.Text

def blankRanges : Ranges :=
  [(0x9, 0xD), (0x1C, 0x20), (0x85, 0x85), (0xA0, 0xA0), (0x1680, 0x1680), (0x2000, 0x200A),
    (0x2028, 0x2029), (0x202F, 0x202F), (0x205F, 0x205F), (0x3000, 0x3000)]

def isBlank (c : Char) : Bool :=
  blankRanges.contains c

def stripEnd (text : List Char) : List Char :=
  (text.reverse.dropWhile isBlank).reverse

def strip (text : List Char) : List Char :=
  stripEnd (text.dropWhile isBlank)

@[simp] theorem strip_nil : strip [] = [] := rfl

theorem stripEnd_append {back : List Char} (h : ∀ x ∈ back, isBlank x = true)
    (text : List Char) : stripEnd (text ++ back) = stripEnd text := by
  rw [stripEnd, stripEnd, List.reverse_append,
    List.dropWhile_append_of_pos fun x hx => h x (List.mem_reverse.mp hx)]

theorem strip_around {front back : List Char} (hFront : ∀ x ∈ front, isBlank x = true)
    (hBack : ∀ x ∈ back, isBlank x = true) (text : List Char) :
    strip (front ++ text ++ back) = strip text := by
  rw [strip, strip, List.append_assoc, List.dropWhile_append_of_pos hFront, List.dropWhile_append]
  split
  · rename_i hEmpty
    have hNone : (back ++ []).dropWhile isBlank = [].dropWhile isBlank :=
      List.dropWhile_append_of_pos hBack
    rw [List.append_nil] at hNone
    rw [List.isEmpty_iff.mp hEmpty, hNone]
    rfl
  · exact stripEnd_append hBack _

theorem exists_around_eq_strip (text : List Char) : ∃ front back,
    (∀ x ∈ front, isBlank x = true) ∧ (∀ x ∈ back, isBlank x = true) ∧
      front ++ strip text ++ back = text := by
  let inner := text.dropWhile isBlank
  refine ⟨text.takeWhile isBlank, (inner.reverse.takeWhile isBlank).reverse, ?_, ?_, ?_⟩
  · exact List.all_eq_true.mp List.all_takeWhile
  · exact fun x hx => List.all_eq_true.mp List.all_takeWhile x (List.mem_reverse.mp hx)
  · calc text.takeWhile isBlank ++ (inner.reverse.dropWhile isBlank).reverse ++
          (inner.reverse.takeWhile isBlank).reverse
      _ = text.takeWhile isBlank ++
          (inner.reverse.takeWhile isBlank ++ inner.reverse.dropWhile isBlank).reverse := by
        rw [List.append_assoc, List.reverse_append]
      _ = text.takeWhile isBlank ++ inner := by
        rw [List.takeWhile_append_dropWhile, List.reverse_reverse]
      _ = text := List.takeWhile_append_dropWhile

theorem dropWhile_eq_self {p : Char → Bool} {text : List Char} (h : ∀ x ∈ text, p x = false) :
    text.dropWhile p = text := by
  cases text with
  | nil => rfl
  | cons x rest => exact List.dropWhile_cons_of_neg (by simp [h x List.mem_cons_self])

theorem strip_eq_self {text : List Char} (h : ∀ x ∈ text, isBlank x = false) :
    strip text = text := by
  have hBack : ∀ x ∈ text.reverse, isBlank x = false := fun x hx => h x (List.mem_reverse.mp hx)
  rw [strip, stripEnd, dropWhile_eq_self h, dropWhile_eq_self hBack, List.reverse_reverse]

end ContractAudit.Text
