import ContractAudit.Proofs.Regex.Occurrences
import ContractAudit.Proofs.Regex.PaddedMatching
import ContractAudit.Proofs.Regex.Walk

/-!
# Searching a text with white space around it

An expression whose matches start and end with something other than white space occurs in a padded
text where it occurs in the text alone, and its occurrences end where they end in the text alone.
-/

namespace ContractAudit.Regex

def Span.shift (n : Nat) (span : Span) : Span :=
  ⟨n + span.start, n + span.stop⟩

namespace Expr

theorem spansFrom_append_of_nil {e : Expr} {cs : List Cursor} (h : ∀ c ∈ cs, e.spansAt c = [])
    (resume : Nat) (rest : List Cursor) :
    e.spansFrom resume (cs ++ rest) = e.spansFrom resume rest := by
  induction cs with
  | nil => rfl
  | cons c cs ih =>
    have hRest := ih fun d hd => h d (List.mem_cons_of_mem _ hd)
    rw [List.cons_append, spansFrom]
    simp only [h c List.mem_cons_self]
    split
    · exact hRest
    · exact hRest

/-- An expression that cannot match nothing has the preferred match at a place as its only
occurrence there. -/
theorem spansAt_eq_map {e : Expr} (hPlain : e.isPlain = true) (hWide : 0 < e.ownWidth.least)
    (c : Cursor) :
    e.spansAt c = (e.matchAt? c).toList.map fun t => ⟨c.offset, t.cursor.offset⟩ := by
  rw [spansAt]
  cases hMatch : e.matchAt? c with
  | none => rfl
  | some t =>
    have hLt := (matchAt_of_matchAt?_eq_some hPlain hMatch).lt hWide
    simp only [if_neg (Nat.ne_of_gt hLt)]
    rfl

/-- White space around a text hides nothing of the expression and adds nothing to it. -/
structure IsSolid (e : Expr) : Prop where
  plain : e.isPlain = true
  wide : 0 < e.ownWidth.least
  ignores : e.ignoresPadding = true
  starts : e.startsSolid = true
  ends : e.endsSolid = true

namespace IsSolid

variable {e : Expr} (h : e.IsSolid) (p : Padding)
include h

theorem spansAt_pad (c : Cursor) :
    e.spansAt (c.pad p) = (e.spansAt c).map (Span.shift p.front.length) := by
  have hStart : State.Padded p c.text { cursor := c } { cursor := c.pad p } := ⟨rfl, rfl, rfl⟩
  have hOutcomes := corresponds_of_ignoresPadding h.ignores _ _ hStart
  rw [innerOutcomes_eq_outcomes h.plain h.ends (c.text_pad p)] at hOutcomes
  rw [spansAt_eq_map h.plain h.wide, spansAt_eq_map h.plain h.wide, matchAt?_eq_head?,
    matchAt?_eq_head?]
  obtain ⟨hc, hPad⟩ | ⟨u, v, hc, hPad, huv⟩ := head?_of_forall₂ hOutcomes
  · rw [hc, hPad]
    rfl
  · rw [hc, hPad, Option.toList_some, Option.toList_some]
    simp [Span.shift, huv.cursor]

theorem spansAt_outside {text : List Char} {c : Cursor} (hText : c.text = p.around text)
    (hOutside : c.offset < p.front.length ∨ p.covers text c = false) : e.spansAt c = [] := by
  rw [spansAt_eq_nil_iff, matchAt?_eq_head?,
    outcomes_eq_nil_of_outside h.plain h.starts (t := { cursor := c }) hText hOutside]
  rfl

/-- The walk over the places of the text, seen from the text and from the padded text. Whether a
place has been passed by the last occurrence is the same in both. -/
theorem spansFrom_pad {cs others : List Cursor} (hOthers : ∀ c ∈ others, e.spansAt c = [])
    {resume resume' : Nat}
    (hResume : ∀ c ∈ cs, p.front.length + c.offset < resume' ↔ c.offset < resume) :
    e.spansFrom resume' (cs.map (Cursor.pad p) ++ others) =
      (e.spansFrom resume cs).map (Span.shift p.front.length) := by
  induction cs generalizing resume resume' with
  | nil =>
    have hNone := spansFrom_append_of_nil hOthers resume' []
    rw [List.append_nil] at hNone
    exact hNone
  | cons c cs ih =>
    have hRest := fun d hd => hResume d (List.mem_cons_of_mem c hd)
    rw [List.map_cons, List.cons_append, spansFrom, spansFrom, Cursor.offset_pad,
      h.spansAt_pad p c]
    simp only [hResume c List.mem_cons_self]
    split
    · exact ih hRest
    · rw [List.map_append, List.getLast?_map]
      congr 1
      cases (e.spansAt c).getLast? with
      | none => exact ih hRest
      | some last =>
        refine ih fun d _ => ?_
        exact Nat.add_lt_add_iff_left

theorem occurrences_around (text : List Char) :
    e.occurrences (p.around text) = (e.occurrences text).map (Span.shift p.front.length) := by
  obtain ⟨front, back, hPlaces, hFront, hBack⟩ := Cursor.places_around (p := p) text
  have hText : ∀ c ∈ front ++ (Cursor.places text).map (Cursor.pad p) ++ back,
      c.text = p.around text := by
    rw [← hPlaces]
    exact fun c hc => Cursor.mem_places_iff.mp hc
  have hBefore : ∀ c ∈ front, e.spansAt c = [] := fun c hc =>
    h.spansAt_outside p (hText c (by simp [hc])) (.inl (hFront c hc))
  have hBehind : ∀ c ∈ back, e.spansAt c = [] := fun c hc =>
    h.spansAt_outside p (hText c (by simp [hc])) (.inr (hBack c hc))
  rw [occurrences, occurrences, hPlaces, List.append_assoc, spansFrom_append_of_nil hBefore]
  exact h.spansFrom_pad p hBehind fun c _ => by simp

theorem occursIn_around (text : List Char) :
    e.occursIn (p.around text) = e.occursIn text :=
  occursIn_eq_of_occurrences_eq_map (h.occurrences_around p text)

end IsSolid

end Expr

end ContractAudit.Regex
