import ContractAudit.Proofs.Regex.Progress

/-!
# Matching finds what an expression means

The outcomes of a plain expression are exactly the matches that its meaning allows
(`agrees_of_isPlain`): no choice that the matcher makes first keeps it from a match. The proof is
one induction over the expression, since what a negative look-around refuses is what its body
accepts.
-/

namespace ContractAudit.Regex

theorem Cursor.any_before_iff {c : Cursor} {set : CharSet} :
    c.before.head?.any set.contains = true ↔ set.EndsAt c.text c.offset := by
  rw [head?_before, CharSet.EndsAt]
  by_cases h : c.offset = 0
  · simp [h]
  · simp [h, Option.any_eq_true, Nat.pos_of_ne_zero h]

theorem Cursor.any_after_iff {c : Cursor} {set : CharSet} :
    c.after.head?.any set.contains = true ↔ set.StartsAt c.text c.offset := by
  rw [head?_after, CharSet.StartsAt]
  simp [Option.any_eq_true]

theorem Cursor.after_eq_nil_iff {c : Cursor} : c.after = [] ↔ c.offset = c.text.length := by
  have h := c.length_after
  have hBound := c.offset_le
  rw [← List.length_eq_zero_iff]
  omega

theorem Cursor.before_eq_nil_iff {c : Cursor} : c.before = [] ↔ c.offset = 0 := by
  rw [c.offset_eq, List.length_eq_zero_iff]

theorem Cursor.text_eq_nil_iff {c : Cursor} : c.text = [] ↔ c.before = [] ∧ c.after = [] := by
  simp [Cursor.text]

namespace Anchor

theorem edge_iff {c : Cursor} {set : CharSet} :
    holds.edge c set = true ↔ ¬(set.EndsAt c.text c.offset ↔ set.StartsAt c.text c.offset) := by
  rw [holds.edge, bne_iff_ne, ne_eq, Bool.eq_iff_iff, Cursor.any_before_iff, Cursor.any_after_iff]

theorem noEdge_iff {c : Cursor} {set : CharSet} :
    (!(c.atStart && c.atEnd) && !holds.edge c set) = true ↔
      c.text ≠ [] ∧ (set.EndsAt c.text c.offset ↔ set.StartsAt c.text c.offset) := by
  rw [Bool.and_eq_true, Bool.not_eq_true', Bool.not_eq_true', ← Bool.not_eq_true,
    ← Bool.not_eq_true, edge_iff, Classical.not_not, Bool.and_eq_true, Cursor.atStart,
    Cursor.atEnd, List.isEmpty_iff, List.isEmpty_iff, ne_eq, Cursor.text_eq_nil_iff]

theorem all_head?_iff {xs : List Char} :
    xs.head?.all (· == '\n') = true ↔
      xs = [] ∨ xs.head?.any (CharSet.single '\n').contains = true := by
  cases xs <;> simp

theorem holds_iff {a : Anchor} {c : Cursor} :
    a.holds c = true ↔ a.HoldsAt c.text c.offset := by
  cases a with
  | textStart => rw [holds, Cursor.atStart, List.isEmpty_iff, Cursor.before_eq_nil_iff, HoldsAt]
  | textEnd => rw [holds, Cursor.atEnd, List.isEmpty_iff, Cursor.after_eq_nil_iff, HoldsAt]
  | lastLineEnd =>
    rw [holds, HoldsAt, Bool.or_eq_true, decide_eq_true_eq, decide_eq_true_eq,
      Cursor.after_eq_nil_iff, Cursor.drop_text]
  | lineStart =>
    rw [holds, HoldsAt, all_head?_iff, Cursor.before_eq_nil_iff, Cursor.any_before_iff]
  | lineEnd =>
    rw [holds, HoldsAt, all_head?_iff, Cursor.after_eq_nil_iff, Cursor.any_after_iff]
  | wordEdge => exact edge_iff
  | noWordEdge => exact noEdge_iff
  | asciiWordEdge => exact edge_iff
  | noAsciiWordEdge => exact noEdge_iff

end Anchor

namespace Expr

/-- The outcomes of the expression are the matches that its meaning allows. -/
def Agrees (e : Expr) : Prop :=
  ∀ s j m, (∃ t ∈ e.outcomes s, t.cursor.offset = j ∧ t.captured? = m) ↔
    e.Matches s.cursor.text s.cursor.offset j s.captured? m

theorem agrees_empty : Agrees empty := by
  intro s j m
  simp [outcomes, Matches, eq_comm]

theorem agrees_char (set : CharSet) : Agrees (char set) := by
  intro s j m
  rw [outcomes]
  constructor
  · rintro ⟨t, ht, rfl, rfl⟩
    split at ht
    · rename_i x c hNext
      obtain ⟨hx, hText, hOffset⟩ := Cursor.next?_eq_some_iff.mp hNext
      split at ht
      · rename_i hSet
        rw [List.mem_singleton] at ht
        subst ht
        exact ⟨⟨x, hx, hSet⟩, hOffset, rfl⟩
      · cases ht
    · cases ht
  · rintro ⟨⟨x, hx, hSet⟩, rfl, rfl⟩
    obtain ⟨c, hText, hOffset⟩ := Cursor.exists_at _ (List.getElem?_eq_some_iff.mp hx).1
    rw [Cursor.next?_eq_some_iff.mpr ⟨hx, hText, hOffset⟩]
    exact ⟨s.moveTo c, by simp [hSet], hOffset, rfl⟩

theorem agrees_seq {e f : Expr} (he : e.Agrees) (hf : f.Agrees) : Agrees (seq e f) := by
  intro s j m
  constructor
  · rintro ⟨t, ht, rfl, rfl⟩
    obtain ⟨u, hu, ht⟩ := List.mem_flatMap.mp ht
    refine ⟨u.cursor.offset, u.captured?, (he s _ _).mp ⟨u, hu, rfl, rfl⟩, ?_⟩
    rw [← (onward_of_mem_outcomes hu).1]
    exact (hf u _ _).mp ⟨t, ht, rfl, rfl⟩
  · rintro ⟨k, v, hFirst, hSecond⟩
    obtain ⟨u, hu, rfl, rfl⟩ := (he s k v).mpr hFirst
    rw [← (onward_of_mem_outcomes hu).1] at hSecond
    obtain ⟨t, ht, hOffset, hMemory⟩ := (hf u j m).mpr hSecond
    exact ⟨t, List.mem_flatMap.mpr ⟨u, hu, ht⟩, hOffset, hMemory⟩

theorem agrees_alt {e f : Expr} (he : e.Agrees) (hf : f.Agrees) : Agrees (alt e f) := by
  intro s j m
  rw [outcomes, Matches, ← he s j m, ← hf s j m]
  simp only [List.mem_append, or_and_right, exists_or]

theorem agrees_chars (set : CharSet) {times : Times} (h : times.preference ≠ .possessive) :
    Agrees (chars set times) := by
  intro s j m
  constructor
  · rintro ⟨t, ht, rfl, rfl⟩
    obtain ⟨c, hc, rfl⟩ := List.mem_map.mp ht
    obtain ⟨n, hn, hAllows⟩ := (Times.mem_choices_iff h).mp hc
    obtain ⟨hText, hOffset, hSet⟩ := Cursor.getElem?_stops.mp hn
    have hBound := c.offset_le
    rw [hText] at hBound
    refine ⟨?_, hBound, ?_, hSet, rfl⟩
    · rw [State.cursor_moveTo, hOffset]
      exact Nat.le_add_right _ _
    · rwa [State.cursor_moveTo, hOffset, Nat.add_sub_cancel_left]
  · rintro ⟨hLe, hBound, hAllows, hSet, rfl⟩
    obtain ⟨c, hText, rfl⟩ := Cursor.exists_at _ hBound
    have hStop : (s.cursor.stops set.contains)[c.offset - s.cursor.offset]? = some c :=
      Cursor.getElem?_stops.mpr ⟨hText, (Nat.add_sub_cancel' hLe).symm, hSet⟩
    have hChoice := (Times.mem_choices_iff h).mpr ⟨_, hStop, hAllows⟩
    exact ⟨s.moveTo c, List.mem_map.mpr ⟨c, hChoice, rfl⟩, rfl, rfl⟩

theorem agrees_group (n : Nat) {e : Expr} (he : e.Agrees) : Agrees (group n e) := by
  intro s j m
  constructor
  · rintro ⟨t, ht, rfl, rfl⟩
    obtain ⟨u, hu, rfl⟩ := List.mem_map.mp ht
    refine ⟨u.captured?, (he (s.enter n) _ _).mp ⟨u, hu, rfl, rfl⟩, ?_⟩
    rw [State.captured?_capture, Cursor.upTo_eq, State.cursor_capture]
  · rintro ⟨v, hBody, rfl⟩
    obtain ⟨u, hu, rfl, rfl⟩ := (he (s.enter n) j v).mpr hBody
    refine ⟨u.capture n s.cursor, List.mem_map.mpr ⟨u, hu, rfl⟩, rfl, ?_⟩
    rw [State.captured?_capture, Cursor.upTo_eq]

theorem agrees_backref (n : Nat) (mode : CaseMode) : Agrees (backref n mode) := by
  intro s j m
  constructor
  · rintro ⟨t, ht, rfl, rfl⟩
    obtain ⟨c, hc, rfl⟩ := List.mem_map.mp ht
    obtain ⟨word, hWord, hSkip⟩ := Option.bind_eq_some_iff.mp (Option.mem_toList.mp hc)
    obtain ⟨hText, hOffset, hMap⟩ := Cursor.skip?_eq_some_iff.mp hSkip
    have hBound := c.offset_le
    rw [hText] at hBound
    refine ⟨word, hWord, ?_, hBound, hMap, rfl⟩
    rw [State.cursor_moveTo, hOffset]
    exact Nat.le_add_right _ _
  · rintro ⟨word, hWord, hLe, hBound, hMap, rfl⟩
    obtain ⟨c, hText, rfl⟩ := Cursor.exists_at _ hBound
    have hLength := congrArg List.length hMap
    rw [List.length_map, List.length_map, List.extract_eq_take_drop, List.length_take,
      List.length_drop] at hLength
    have hSkip : s.cursor.skip? mode.small word = some c :=
      Cursor.skip?_eq_some_iff.mpr ⟨hText, by omega, hMap⟩
    refine ⟨s.moveTo c, List.mem_map.mpr ⟨c, ?_, rfl⟩, rfl, rfl⟩
    rw [hWord, Option.bind_some, hSkip]
    exact List.mem_singleton_self c

theorem agrees_anchor (a : Anchor) : Agrees (anchor a) := by
  intro s j m
  rw [outcomes, Matches, ← Anchor.holds_iff]
  by_cases h : a.holds s.cursor = true <;> simp [h, eq_comm]

theorem exists_look_outcome_iff {e : Expr} (he : e.Agrees) (hFree : e.isGroupFree = true)
    (back : Nat) (positive : Bool) (s : State) (j : Nat) (m : Memory) :
    (∃ t ∈ (look back positive e).outcomes s, t.cursor.offset = j ∧ t.captured? = m) ↔
      (positive = true ↔ ∃ c, s.cursor.back? back = some c ∧
        ∃ k u, e.Matches s.cursor.text c.offset k s.captured? u) ∧
      j = s.cursor.offset ∧ m = s.captured? := by
  have hBody : ∀ c, s.cursor.back? back = some c →
      ((e.outcomes (s.moveTo c)).head? = none ↔
        ¬∃ k u, e.Matches s.cursor.text c.offset k s.captured? u) := by
    intro c hc
    obtain ⟨hText, -⟩ := Cursor.back?_eq_some_iff.mp hc
    have hAgrees := he (s.moveTo c)
    rw [State.cursor_moveTo, hText, State.captured?_moveTo] at hAgrees
    rw [List.head?_eq_none_iff, List.eq_nil_iff_forall_not_mem]
    simp only [← hAgrees]
    constructor
    · rintro hNone ⟨k, u, t, ht, -⟩
      exact hNone t ht
    · intro hNone t ht
      exact hNone ⟨_, _, t, ht, rfl, rfl⟩
  rw [outcomes]
  cases hFound : (s.cursor.back? back).bind fun c => (e.outcomes (s.moveTo c)).head? with
  | none =>
    have hNo : ¬∃ c, s.cursor.back? back = some c ∧
        ∃ k u, e.Matches s.cursor.text c.offset k s.captured? u := by
      rintro ⟨c, hc, hMatch⟩
      rw [hc, Option.bind_some] at hFound
      exact (hBody c hc).mp hFound hMatch
    rw [eq_false hNo]
    cases positive <;> simp [eq_comm]
  | some t =>
    obtain ⟨c, hc, hHead⟩ := Option.bind_eq_some_iff.mp hFound
    obtain ⟨hText, -⟩ := Cursor.back?_eq_some_iff.mp hc
    have hMatch := (he (s.moveTo c) _ _).mp ⟨t, List.mem_of_mem_head? hHead, rfl, rfl⟩
    have hMemory : t.captured? = s.captured? := hMatch.memory_eq hFree
    rw [State.cursor_moveTo, hText] at hMatch
    have hYes : ∃ c, s.cursor.back? back = some c ∧
        ∃ k u, e.Matches s.cursor.text c.offset k s.captured? u :=
      ⟨c, hc, _, _, hMatch⟩
    rw [eq_true hYes]
    cases positive <;> simp [hMemory, eq_comm]

theorem agrees_look {e : Expr} (he : e.Agrees) (hFree : e.isGroupFree = true) {back : Nat}
    (hWidth : back = 0 ∨ e.ownWidth = .exactly back) (positive : Bool) :
    Agrees (look back positive e) := by
  intro s j m
  rw [exists_look_outcome_iff he hFree]
  cases back with
  | zero => simp [Matches, Cursor.back?]
  | succ n =>
    have hWidth : e.ownWidth = .exactly (n + 1) := hWidth.resolve_left (Nat.succ_ne_zero n)
    -- What is matched behind the place is as wide as the way back, so it ends at the place.
    have hBack : (∃ c, s.cursor.back? (n + 1) = some c ∧
          ∃ k u, e.Matches s.cursor.text c.offset k s.captured? u) ↔
        ∃ k u, e.Matches s.cursor.text k s.cursor.offset s.captured? u := by
      constructor
      · rintro ⟨c, hc, k, u, hMatch⟩
        obtain ⟨-, hOffset⟩ := Cursor.back?_eq_some_iff.mp hc
        have hAdmits := hMatch.admits
        rw [hWidth, Width.admits_exactly_iff] at hAdmits
        have hLe := hMatch.le
        have hk : k = s.cursor.offset := by omega
        exact ⟨c.offset, u, hk ▸ hMatch⟩
      · rintro ⟨k, u, hMatch⟩
        have hAdmits := hMatch.admits
        rw [hWidth, Width.admits_exactly_iff] at hAdmits
        have hLe := hMatch.le
        have hBound := s.cursor.offset_le
        obtain ⟨c, hText, rfl⟩ := Cursor.exists_at s.cursor.text (Nat.le_trans hLe hBound)
        exact ⟨c, Cursor.back?_eq_some_iff.mpr ⟨hText, by omega⟩, _, u, hMatch⟩
    rw [hBack, Matches]

/-- The outcomes of a plain expression are the matches that its meaning allows. -/
theorem agrees_of_isPlain {e : Expr} (h : e.isPlain = true) : e.Agrees := by
  induction e with
  | empty => exact agrees_empty
  | char set => exact agrees_char set
  | seq e f ihe ihf =>
    rw [isPlain, Bool.and_eq_true] at h
    exact agrees_seq (ihe h.1) (ihf h.2)
  | alt e f ihe ihf =>
    rw [isPlain, Bool.and_eq_true] at h
    exact agrees_alt (ihe h.1) (ihf h.2)
  | chars set times => exact agrees_chars set (of_decide_eq_true h)
  | many e times _ => cases h
  | group n e ih => exact agrees_group n (ih h)
  | backref n mode => exact agrees_backref n mode
  | atomic e _ => cases h
  | cond n e f _ _ => cases h
  | anchor a => exact agrees_anchor a
  | look back positive e ih =>
    rw [isPlain, Bool.and_eq_true, Bool.and_eq_true, Bool.or_eq_true, decide_eq_true_eq,
      decide_eq_true_eq] at h
    exact agrees_look (ih h.1.1) h.1.2 h.2 positive

theorem matches_of_mem_outcomes {e : Expr} (hPlain : e.isPlain = true) {s u : State}
    (hu : u ∈ e.outcomes s) :
    e.Matches s.cursor.text s.cursor.offset u.cursor.offset s.captured? u.captured? :=
  (agrees_of_isPlain hPlain s _ _).mp ⟨u, hu, rfl, rfl⟩

end Expr

end ContractAudit.Regex
