import ContractAudit.Proofs.Regex.Agreement
import ContractAudit.Regex.Search

/-!
# Searching finds every match it can

A plain expression occurs in a text if some stretch of the text is a match of it. If it cannot match
nothing, the walk through the text goes from each match to the next place at or behind its end where
there is a match at all, and stops where there is none.
-/

namespace ContractAudit.Regex

/-- The spans are those of a walk that takes, time and again, the least place at or behind the end
of the span before it at which something is found. -/
inductive LeftmostWalk (found : Nat → Nat → Prop) : Nat → List Span → Prop
  | stop {resume : Nat} (nothing : ∀ i j, resume ≤ i → ¬found i j) : LeftmostWalk found resume []
  | next {resume : Nat} {span : Span} {rest : List Span} (onward : resume ≤ span.start)
      (least : ∀ i j, resume ≤ i → i < span.start → ¬found i j)
      (here : found span.start span.stop) (others : LeftmostWalk found span.stop rest) :
      LeftmostWalk found resume (span :: rest)

theorem LeftmostWalk.earlier {found : Nat → Nat → Prop} {k : Nat} {spans : List Span}
    (hNone : ∀ j, ¬found k j) (h : LeftmostWalk found (k + 1) spans) :
    LeftmostWalk found k spans := by
  cases h with
  | stop nothing =>
    refine .stop ?_
    intro i j hi
    rcases Nat.eq_or_lt_of_le hi with rfl | hi
    · exact hNone j
    · exact nothing i j hi
  | next onward least here others =>
    refine .next (Nat.le_of_succ_le onward) ?_ here others
    intro i j hi hLt
    rcases Nat.eq_or_lt_of_le hi with rfl | hi
    · exact hNone j
    · exact least i j hi hLt

namespace Expr

variable {e : Expr}

theorem matchAt?_eq_head? (e : Expr) (c : Cursor) :
    e.matchAt? c = (e.outcomes { cursor := c }).head? := by
  rw [matchAt?, run_eq_findSome?, findSome?_some]

theorem agrees_start (h : e.isPlain = true) (c : Cursor) (j : Nat) (m : Memory) :
    (∃ t ∈ e.outcomes { cursor := c }, t.cursor.offset = j ∧ t.captured? = m) ↔
      e.Matches c.text c.offset j .blank m :=
  agrees_of_isPlain h { cursor := c } j m

theorem matchAt_of_matchAt?_eq_some (h : e.isPlain = true) {c : Cursor} {t : State}
    (ht : e.matchAt? c = some t) : e.MatchAt c.text c.offset t.cursor.offset := by
  rw [matchAt?_eq_head?] at ht
  have hMatch := (agrees_start h c _ _).mp ⟨t, List.mem_of_mem_head? ht, rfl, rfl⟩
  exact ⟨hMatch.le, hMatch.le_length c.offset_le, _, hMatch⟩

theorem matchAt?_eq_none_iff (h : e.isPlain = true) {c : Cursor} :
    e.matchAt? c = none ↔ ∀ j, ¬e.MatchAt c.text c.offset j := by
  constructor
  · rintro hNone j ⟨-, -, m, hMatch⟩
    obtain ⟨t, ht, -⟩ := (agrees_start h c j m).mpr hMatch
    rw [matchAt?_eq_head?, List.head?_eq_none_iff] at hNone
    rw [hNone] at ht
    cases ht
  · intro hNone
    cases hSome : e.matchAt? c with
    | none => rfl
    | some t => exact absurd (matchAt_of_matchAt?_eq_some h hSome) (hNone _)

theorem isSome_matchAt?_iff (h : e.isPlain = true) {c : Cursor} :
    (e.matchAt? c).isSome = true ↔ ∃ j, e.MatchAt c.text c.offset j := by
  rw [Option.isSome_iff_ne_none, Ne, matchAt?_eq_none_iff h]
  simp only [Classical.not_forall, Classical.not_not]

/-- An expression is present if and only if some stretch of the text is a match of it. -/
theorem occursIn_iff (h : e.isPlain = true) {text : List Char} :
    e.occursIn text = true ↔ ∃ i j, e.MatchAt text i j := by
  rw [occursIn, List.any_eq_true]
  simp only [isSome_matchAt?_iff h]
  constructor
  · rintro ⟨c, hc, j, hMatch⟩
    rw [Cursor.mem_places_iff.mp hc] at hMatch
    exact ⟨_, _, hMatch⟩
  · rintro ⟨i, j, hMatch⟩
    obtain ⟨c, rfl, rfl⟩ := Cursor.exists_at text (Nat.le_trans hMatch.1 hMatch.2.1)
    exact ⟨c, Cursor.mem_places_iff.mpr rfl, j, hMatch⟩

theorem MatchAt.lt (hWide : 0 < e.ownWidth.least) {text : List Char} {i j : Nat}
    (h : e.MatchAt text i j) : i < j := by
  obtain ⟨hLe, -, m, hMatch⟩ := h
  have hLeast := hMatch.admits.1
  omega

theorem spansAt_cases (h : e.isPlain = true) (hWide : 0 < e.ownWidth.least) (c : Cursor) :
    (e.spansAt c = [] ∧ ∀ j, ¬e.MatchAt c.text c.offset j) ∨
      ∃ stop, e.spansAt c = [⟨c.offset, stop⟩] ∧ e.MatchAt c.text c.offset stop := by
  cases hSome : e.matchAt? c with
  | none => exact .inl ⟨by rw [spansAt, hSome], (matchAt?_eq_none_iff h).mp hSome⟩
  | some t =>
    have hMatch := matchAt_of_matchAt?_eq_some h hSome
    have hLt := hMatch.lt hWide
    refine .inr ⟨t.cursor.offset, ?_, hMatch⟩
    simp only [spansAt, hSome]
    rw [if_neg (by omega)]

/-- The walk over the places of a text from the offset `k` on. -/
theorem leftmostWalk_spansFrom (h : e.isPlain = true) (hWide : 0 < e.ownWidth.least)
    {text : List Char} {k : Nat} {cs : List Cursor}
    (hcs : ∀ n c, cs[n]? = some c ↔ c.text = text ∧ c.offset = k + n) (resume : Nat) :
    LeftmostWalk (e.MatchAt text) (max resume k) (e.spansFrom resume cs) := by
  -- The walk looks next at `k`, or at `resume` while the last match still covers the places.
  induction cs generalizing k resume with
  | nil =>
    refine .stop ?_
    intro i j hi hMatch
    obtain ⟨c, hText, hOffset⟩ := Cursor.exists_at text (Nat.le_trans hMatch.1 hMatch.2.1)
    cases (hcs (i - k) c).mpr ⟨hText, by omega⟩
  | cons c rest ih =>
    obtain ⟨rfl, rfl⟩ : c.text = text ∧ c.offset = k := (hcs 0 c).mp rfl
    have hRest : ∀ n d, rest[n]? = some d ↔ d.text = c.text ∧ d.offset = c.offset + 1 + n := by
      intro n d
      rw [← List.getElem?_cons_succ (a := c), hcs (n + 1) d, Nat.add_right_comm, Nat.add_assoc]
    rw [spansFrom]
    split
    · rename_i hPassed
      have hWalk := ih hRest resume
      rw [Nat.max_eq_left (by omega)] at hWalk ⊢
      exact hWalk
    · rename_i hOpen
      rw [Nat.max_eq_right (by omega)]
      obtain ⟨hHere, hNone⟩ | ⟨stop, hHere, hMatch⟩ := spansAt_cases h hWide c
      · have hWalk := ih hRest resume
        rw [Nat.max_eq_right (by omega)] at hWalk
        rw [hHere]
        exact hWalk.earlier hNone
      · have hWalk := ih hRest stop
        have hLt := hMatch.lt hWide
        rw [Nat.max_eq_left (by omega)] at hWalk
        rw [hHere]
        refine .next (Nat.le_refl _) ?_ hMatch hWalk
        intro i j hi hEarlier
        exact absurd hEarlier (Nat.not_lt.mpr hi)

theorem leftmostWalk_occurrences (h : e.isPlain = true) (hWide : 0 < e.ownWidth.least)
    (text : List Char) : LeftmostWalk (e.MatchAt text) 0 (e.occurrences text) := by
  have hPlaces : ∀ n c, (Cursor.places text)[n]? = some c ↔ c.text = text ∧ c.offset = 0 + n := by
    intro n c
    rw [Cursor.getElem?_places, Nat.zero_add]
  exact leftmostWalk_spansFrom h hWide hPlaces 0

end Expr

end ContractAudit.Regex
