import ContractAudit.Proofs.Regex.Agreement
import ContractAudit.Proofs.Regex.Padding
import ContractAudit.Proofs.Regex.Simulation

/-!
# Matching in a text with white space around it

While a match is under way, the matcher may run into the white space behind the text, but it never
gets back from there. So the ways to match that end inside the text are those in the text alone, and
they are tried in the same order (`corresponds_of_ignoresPadding`).
-/

namespace ContractAudit.Regex

namespace Times

theorem filter_choices_append {α : Type} {t : Times} (h : t.preference ≠ .possessive)
    {q : α → Bool} {wanted others : List α} (hWanted : ∀ x ∈ wanted, q x = true)
    (hOthers : ∀ x ∈ others, q x = false) :
    (t.choices (wanted ++ others)).filter q = t.choices wanted := by
  have hDrop : ∀ xs ys : List α, (∀ x ∈ xs, q x = true) → (∀ y ∈ ys, q y = false) →
      ((xs ++ ys).drop t.least).filter q = xs.drop t.least := by
    intro xs ys hxs hys
    rw [List.drop_append, List.filter_append,
      List.filter_eq_self.mpr fun x hx => hxs x (List.mem_of_mem_drop hx),
      List.filter_eq_nil_iff.mpr fun y hy => Bool.not_eq_true _ ▸ hys y (List.mem_of_mem_drop hy),
      List.append_nil]
  obtain ⟨least, most, preference⟩ := t
  have hAllowed : ((most.elim (wanted ++ others) fun n => (wanted ++ others).take (n + 1)).drop
      least).filter q = (most.elim wanted fun n => wanted.take (n + 1)).drop least := by
    cases most with
    | none => exact hDrop wanted others hWanted hOthers
    | some n =>
      simp only [Option.elim_some, List.take_append]
      exact hDrop _ _ (fun x hx => hWanted x (List.mem_of_mem_take hx))
        fun y hy => hOthers y (List.mem_of_mem_take hy)
  cases preference with
  | longest =>
    have hReverse := congrArg List.reverse hAllowed
    rw [← List.filter_reverse] at hReverse
    cases most <;> exact hReverse
  | shortest => cases most <;> exact hAllowed
  | possessive => exact absurd rfl h

end Times

structure State.Padded (p : Padding) (text : List Char) (s t : State) : Prop where
  text_eq : s.cursor.text = text
  cursor : t.cursor = s.cursor.pad p
  captured : t.captured? = s.captured?

namespace State.Padded

variable {p : Padding} {text : List Char} {s t : State}

theorem moveTo (h : Padded p text s t) {c : Cursor} (hc : c.text = text) :
    Padded p text (s.moveTo c) (t.moveTo (c.pad p)) where
  text_eq := hc
  cursor := rfl
  captured := h.captured

theorem enter (h : Padded p text s t) (n : Nat) : Padded p text (s.enter n) (t.enter n) where
  text_eq := h.text_eq
  cursor := h.cursor
  captured := h.captured

theorem capture (h : Padded p text s t) (n : Nat) {c : Cursor} (hc : c.text = text) :
    Padded p text (s.capture n c) (t.capture n (c.pad p)) where
  text_eq := h.text_eq
  cursor := h.cursor
  captured := by
    rw [captured?_capture, captured?_capture, h.captured, h.cursor,
      Cursor.upTo_pad (h.text_eq.trans hc.symm)]

theorem covers (h : Padded p text s t) : p.covers text t.cursor = true := by
  rw [h.cursor, ← h.text_eq]
  exact s.cursor.covers_pad p

end State.Padded

namespace Expr

/-- White space around the text makes no difference on the way through a match: no anchor asks for
an end of the text, and what a look-around looks for is solid at the ends where it could meet that
white space. -/
def ignoresPadding : Expr → Bool
  | empty | char _ | backref _ _ => true
  | seq e f | alt e f => e.ignoresPadding && f.ignoresPadding
  | chars _ t => t.preference ≠ .possessive
  | group _ e => e.ignoresPadding
  | anchor a => a = .wordEdge
  | look back _ e =>
    e.ignoresPadding && e.isPlain && e.endsSolid && (back = 0 || e.startsSolid)
  | many _ _ | atomic _ | cond _ _ _ => false

def innerOutcomes (p : Padding) (text : List Char) (e : Expr) (t : State) : List State :=
  (e.outcomes t).filter fun u => p.covers text u.cursor

variable {p : Padding} {text : List Char}

theorem innerOutcomes_eq_nil {t : State} (e : Expr) (h : p.covers text t.cursor = false) :
    e.innerOutcomes p text t = [] := by
  rw [innerOutcomes, List.filter_eq_nil_iff]
  intro u hu
  have hOnward := (onward_of_mem_outcomes hu).2
  rw [Padding.covers_eq_false_iff] at h
  rw [Bool.not_eq_true, Padding.covers_eq_false_iff]
  omega

/-- A match that ends with something other than white space ends inside the text. -/
theorem innerOutcomes_eq_outcomes {e : Expr} (hPlain : e.isPlain = true)
    (hSolid : e.endsSolid = true) {t : State} (h : t.cursor.text = p.around text) :
    e.innerOutcomes p text t = e.outcomes t := by
  rw [innerOutcomes, List.filter_eq_self]
  intro u hu
  have hMatch := matches_of_mem_outcomes hPlain hu
  rw [h] at hMatch
  exact decide_eq_true (Padding.le_of_endsAt (hMatch.endsAt_solid hSolid))

theorem outcomes_eq_nil_of_outside {e : Expr} (hPlain : e.isPlain = true)
    (hSolid : e.startsSolid = true) {t : State} (hText : t.cursor.text = p.around text)
    (h : t.cursor.offset < p.front.length ∨ p.covers text t.cursor = false) :
    e.outcomes t = [] := by
  rw [List.eq_nil_iff_forall_not_mem]
  intro u hu
  have hMatch := matches_of_mem_outcomes hPlain hu
  rw [hText] at hMatch
  have hBounds := Padding.bounds_of_startsAt (hMatch.startsAt_solid hSolid)
  rw [Padding.covers_eq_false_iff] at h
  omega

/-- The outcomes in the text and those in the padded text that lie inside the text correspond. -/
def Corresponds (p : Padding) (text : List Char) (e : Expr) : Prop :=
  ∀ s t, State.Padded p text s t →
    List.Forall₂ (State.Padded p text) (e.outcomes s) (e.innerOutcomes p text t)

theorem corresponds_empty : Corresponds p text empty :=
  simulates_empty fun _ _ h => h.covers

theorem corresponds_char (set : CharSet) : Corresponds p text (char set) := by
  intro s t h
  rw [innerOutcomes, outcomes, outcomes, h.cursor]
  cases hNext : s.cursor.next? with
  | some next =>
    obtain ⟨x, c⟩ := next
    have hMoved := h.moveTo ((Cursor.text_of_next? hNext).trans h.text_eq)
    simp only [Cursor.next?_pad hNext]
    split
    · rw [List.filter_cons, if_pos hMoved.covers]
      exact .cons hMoved .nil
    · exact .nil
  | none =>
    have hEnd := Cursor.offset_eq_length_of_next?_eq_none hNext
    suffices hNone : ∀ u ∈ (char set).outcomes t, p.covers text u.cursor = false by
      rw [outcomes, h.cursor] at hNone
      rw [List.filter_eq_nil_iff.mpr fun u hu => Bool.not_eq_true _ ▸ hNone u hu]
      exact .nil
    intro u hu
    rw [outcomes] at hu
    split at hu
    · rename_i x c hStep
      split at hu
      · rw [List.mem_singleton] at hu
        obtain ⟨-, -, hOffset⟩ := Cursor.next?_eq_some_iff.mp hStep
        rw [h.cursor, Cursor.offset_pad, hEnd, h.text_eq] at hOffset
        rw [hu, Padding.covers_eq_false_iff, State.cursor_moveTo, hOffset]
        exact Nat.lt_succ_self _
      · cases hu
    · cases hu

theorem corresponds_seq {e f : Expr} (he : Corresponds p text e) (hf : Corresponds p text f) :
    Corresponds p text (seq e f) :=
  simulates_seq he hf fun _ _ _ _ _ hOutside => innerOutcomes_eq_nil f hOutside

theorem corresponds_alt {e f : Expr} (he : Corresponds p text e) (hf : Corresponds p text f) :
    Corresponds p text (alt e f) :=
  simulates_alt he hf

theorem corresponds_chars (set : CharSet) {times : Times}
    (hTimes : times.preference ≠ .possessive) : Corresponds p text (chars set times) := by
  intro s t h
  -- In the padded text a run may go on behind the text, but those stops are its last ones.
  obtain ⟨others, hStops, hOthers⟩ := s.cursor.stops_pad (p := p) set.contains
  have hInside : ∀ c ∈ (s.cursor.stops set.contains).map (Cursor.pad p),
      p.covers text c = true := by
    intro c hc
    obtain ⟨d, hd, rfl⟩ := List.mem_map.mp hc
    rw [← h.text_eq, ← Cursor.text_of_mem_stops hd]
    exact d.covers_pad p
  rw [h.text_eq] at hOthers
  have hChoices := Times.filter_choices_append hTimes hInside hOthers
  rw [innerOutcomes, outcomes, outcomes, h.cursor, hStops, List.filter_map]
  simp only [Function.comp_def, State.cursor_moveTo, hChoices, Times.choices_map]
  rw [List.map_map, List.forall₂_map_left_iff, List.forall₂_map_right_iff, List.forall₂_same]
  intro c hc
  exact h.moveTo ((Cursor.text_of_mem_stops (Times.mem_of_mem_choices hc)).trans h.text_eq)

theorem corresponds_group (n : Nat) {e : Expr} (he : Corresponds p text e) :
    Corresponds p text (group n e) := by
  intro s t h
  have hInner : (group n e).innerOutcomes p text t =
      (e.innerOutcomes p text (t.enter n)).map fun u => u.capture n t.cursor := by
    rw [innerOutcomes, outcomes, List.filter_map]
    rfl
  rw [hInner, outcomes, List.forall₂_map_left_iff, List.forall₂_map_right_iff, h.cursor]
  exact (he _ _ (h.enter n)).imp fun u v huv => huv.capture n h.text_eq

theorem corresponds_backref (n : Nat) (mode : CaseMode) :
    Corresponds p text (backref n mode) := by
  intro s t h
  rw [innerOutcomes, outcomes, outcomes, h.captured, h.cursor]
  cases s.captured? n with
  | none => exact .nil
  | some word =>
    simp only [Option.bind_some]
    obtain ⟨d, hSkip, hPad⟩ | ⟨hSkip, hPad⟩ := s.cursor.skip?_pad (p := p) mode.small word
    · obtain ⟨hText, -⟩ := Cursor.skip?_eq_some_iff.mp hSkip
      have hMoved := h.moveTo (hText.trans h.text_eq)
      rw [hSkip, hPad, Option.toList_some, Option.toList_some, List.map_singleton,
        List.map_singleton, List.filter_cons, if_pos hMoved.covers]
      exact .cons hMoved .nil
    · rw [hSkip, Option.toList_none, List.map_nil, List.forall₂_nil_left_iff,
        List.filter_eq_nil_iff]
      intro u hu
      obtain ⟨d, hd, rfl⟩ := List.mem_map.mp hu
      rw [State.cursor_moveTo, ← h.text_eq, hPad d (Option.mem_toList.mp hd)]
      exact Bool.false_ne_true

theorem corresponds_wordEdge : Corresponds p text (anchor .wordEdge) := by
  refine simulates_anchor (fun _ _ h => h.covers) ?_
  intro s t h
  rw [h.cursor, Cursor.wordEdge_pad]

theorem lookFound_padded {e : Expr} (he : Corresponds p text e) (hPlain : e.isPlain = true)
    (hEnd : e.endsSolid = true) {back : Nat} (hStart : back = 0 ∨ e.startsSolid = true)
    {s t : State} (h : State.Padded p text s t) :
    e.lookFound back s = none ∧ e.lookFound back t = none ∨
      ∃ u v, e.lookFound back s = some u ∧ e.lookFound back t = some v ∧
        State.Padded p text u v := by
  rw [lookFound, lookFound, h.cursor]
  obtain ⟨d, hBack, hPad⟩ | ⟨hBack, hPad⟩ := s.cursor.back?_pad (p := p) back
  · obtain ⟨hText, -⟩ := Cursor.back?_eq_some_iff.mp hBack
    have hBody := he _ _ (h.moveTo (hText.trans h.text_eq))
    rw [innerOutcomes_eq_outcomes hPlain hEnd
      (by rw [State.cursor_moveTo, Cursor.text_pad, hText, h.text_eq])] at hBody
    rw [hBack, hPad, Option.bind_some, Option.bind_some]
    exact head?_of_forall₂ hBody
  · refine .inl ⟨by rw [hBack, Option.bind_none], ?_⟩
    cases hFound : (s.cursor.pad p).back? back with
    | none => rfl
    | some d =>
      obtain ⟨hText, hBefore⟩ := hPad d hFound
      have hSolid : e.startsSolid = true := by
        refine hStart.resolve_left ?_
        rintro rfl
        cases hBack
      rw [Option.bind_some, outcomes_eq_nil_of_outside hPlain hSolid
        (by rw [State.cursor_moveTo, hText, h.text_eq]) (.inl hBefore)]
      rfl

theorem corresponds_look {e : Expr} (he : Corresponds p text e) (hPlain : e.isPlain = true)
    (hEnd : e.endsSolid = true) {back : Nat} (hStart : back = 0 ∨ e.startsSolid = true)
    (positive : Bool) : Corresponds p text (look back positive e) := by
  refine simulates_look positive (fun _ _ h => h.covers) ?_
  intro s t h
  refine (lookFound_padded he hPlain hEnd hStart h).imp_right ?_
  rintro ⟨u, v, hs, ht, huv⟩
  refine ⟨u, v, hs, ht, ?_⟩
  rw [h.cursor]
  exact huv.moveTo h.text_eq

theorem corresponds_of_ignoresPadding {e : Expr} (h : e.ignoresPadding = true) :
    Corresponds p text e := by
  induction e with
  | empty => exact corresponds_empty
  | char set => exact corresponds_char set
  | seq e f ihe ihf =>
    rw [ignoresPadding, Bool.and_eq_true] at h
    exact corresponds_seq (ihe h.1) (ihf h.2)
  | alt e f ihe ihf =>
    rw [ignoresPadding, Bool.and_eq_true] at h
    exact corresponds_alt (ihe h.1) (ihf h.2)
  | chars set times => exact corresponds_chars set (of_decide_eq_true h)
  | group n e ih => exact corresponds_group n (ih h)
  | backref n mode => exact corresponds_backref n mode
  | anchor a =>
    cases of_decide_eq_true h
    exact corresponds_wordEdge
  | look back positive e ih =>
    simp only [ignoresPadding, Bool.and_eq_true, Bool.or_eq_true, decide_eq_true_eq] at h
    obtain ⟨⟨⟨hBody, hPlain⟩, hEnd⟩, hStart⟩ := h
    exact corresponds_look (ih hBody) hPlain hEnd hStart positive
  | many e times _ => cases h
  | atomic e _ => cases h
  | cond n e f _ _ => cases h

end Expr

end ContractAudit.Regex
