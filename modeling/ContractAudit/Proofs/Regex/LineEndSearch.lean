import ContractAudit.Proofs.Regex.LineEndMatching
import ContractAudit.Proofs.Regex.PaddedSearch

/-!
# Searching a text with carriage returns

An expression whose matches start and end with something other than white space, and that gets past
no line end by a carriage return alone, occurs in a text with carriage returns where it occurs in
the text without them.
-/

namespace ContractAudit.Regex

open Text (NoLoneReturn isNoReturn)

def Span.joined (text : List Char) (span : Span) : Span where
  start := ((text.take span.start).filter isNoReturn).length
  stop := ((text.take span.stop).filter isNoReturn).length

theorem Span.joined_offsets {c d : Cursor} (h : d.text = c.text) :
    joined c.text ⟨c.offset, d.offset⟩ = ⟨c.joined.offset, d.joined.offset⟩ := by
  rw [joined, Cursor.offset_joined, Cursor.offset_joined, h]

namespace Expr.IsSolid

variable {e : Expr} (h : e.IsSolid)
include h

theorem spansAt_joined (hIgnores : e.ignoresReturns = true) {c : Cursor}
    (hText : NoLoneReturn c.text) (hWhole : c.isWhole = true) :
    e.spansAt c = [] ∧ e.spansAt c.joined = [] ∨
      ∃ d : Cursor, d.text = c.text ∧ d.isWhole = true ∧ e.spansAt c = [⟨c.offset, d.offset⟩] ∧
        e.spansAt c.joined = [⟨c.joined.offset, d.joined.offset⟩] := by
  have hStart : State.Joined { cursor := c.joined } { cursor := c } :=
    ⟨hText, hWhole, rfl, rfl, Memory.inline_blank⟩
  have hAll : ∀ u ∈ e.outcomes { cursor := c }, u.isWhole = true := by
    intro u hu
    exact isWhole_of_endsSolid h.plain h.ends hu
  have hOutcomes := simulates_of_ignoresReturns h.plain hIgnores _ _ hStart
  rw [List.filter_eq_self.mpr hAll] at hOutcomes
  rw [spansAt_eq_map h.plain h.wide, spansAt_eq_map h.plain h.wide, matchAt?_eq_head?,
    matchAt?_eq_head?]
  obtain ⟨hJoined, hc⟩ | ⟨u, v, hJoined, hc, huv⟩ := head?_of_forall₂ hOutcomes
  · rw [hJoined, hc]
    exact .inl ⟨rfl, rfl⟩
  · have hv := (onward_of_mem_outcomes (List.mem_of_head? hc)).1
    refine .inr ⟨v.cursor, hv, huv.whole, ?_, ?_⟩
    · rw [hc]
      rfl
    · rw [hJoined, ← huv.cursor]
      rfl

theorem spansAt_of_not_isWhole {c : Cursor} (hText : NoLoneReturn c.text)
    (hBroken : c.isWhole = false) : e.spansAt c = [] := by
  have hFeed := Cursor.head?_after_of_not_isWhole hText hBroken
  rw [Cursor.head?_after] at hFeed
  rw [spansAt_eq_nil_iff, matchAt?_eq_none_iff h.plain]
  rintro j ⟨-, -, m, hMatch⟩
  obtain ⟨x, hx, hSolid⟩ := hMatch.startsAt_solid h.starts
  rw [hFeed, Option.some.injEq] at hx
  rw [← hx] at hSolid
  cases hSolid

/-- The walk over the places of both texts. Whether a whole place has been passed by the last
occurrence is the same in both. -/
theorem spansFrom_joined (hIgnores : e.ignoresReturns = true) {text : List Char}
    (hPaired : NoLoneReturn text) {cs : List Cursor} (hText : ∀ c ∈ cs, c.text = text)
    {resume resume' : Nat}
    (hResume : ∀ c ∈ cs, c.joined.offset < resume' ↔ c.offset < resume) :
    e.spansFrom resume' ((cs.filter Cursor.isWhole).map Cursor.joined) =
      (e.spansFrom resume cs).map (Span.joined text) := by
  induction cs generalizing resume resume' with
  | nil => rfl
  | cons c cs ih =>
    obtain ⟨rfl, hTexts⟩ := List.forall_mem_cons.mp hText
    obtain ⟨hHere, hRest⟩ := List.forall_mem_cons.mp hResume
    by_cases hWhole : c.isWhole = true
    · rw [List.filter_cons_of_pos hWhole, List.map_cons, spansFrom, spansFrom]
      simp only [hHere]
      split
      · exact ih hTexts hRest
      · rw [List.map_append]
        obtain ⟨hNone, hJoined⟩ | ⟨d, hd, hdWhole, hSome, hJoined⟩ :=
          h.spansAt_joined hIgnores hPaired hWhole
        · rw [hNone, hJoined]
          exact ih hTexts hRest
        · rw [hSome, hJoined, List.map_singleton, Span.joined_offsets hd]
          congr 1
          refine ih hTexts fun u hu => ?_
          exact Cursor.offset_joined_lt_iff (hd.trans (hTexts u hu).symm) hdWhole
    · rw [List.filter_cons_of_neg hWhole, spansFrom]
      split
      · exact ih hTexts hRest
      · rw [h.spansAt_of_not_isWhole hPaired (Bool.not_eq_true _ ▸ hWhole)]
        exact ih hTexts hRest

theorem occurrences_filter_isNoReturn (hIgnores : e.ignoresReturns = true) {text : List Char}
    (hPaired : NoLoneReturn text) :
    e.occurrences (text.filter isNoReturn) = (e.occurrences text).map (Span.joined text) := by
  rw [occurrences, occurrences, Cursor.places_joined hPaired]
  refine h.spansFrom_joined hIgnores hPaired (fun c hc => Cursor.mem_places_iff.mp hc) ?_
  intro c _
  simp only [Nat.not_lt_zero]

end Expr.IsSolid

end ContractAudit.Regex
