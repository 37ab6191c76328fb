import ContractAudit.Proofs.Regex.Agreement
import ContractAudit.Proofs.Regex.Ends
import ContractAudit.Proofs.Regex.LineEnds
import ContractAudit.Proofs.Regex.Simulation

/-!
# Matching in a text with carriage returns

A matcher that takes a carriage return without its line feed stands at a place that the text without
carriage returns does not have. Most expressions get no further from there, because they go on with
something other than a line feed. For these the ways to match that end at whole places are those in
the text without carriage returns, in the same order (`simulates_of_ignoresReturns`).
-/

namespace ContractAudit.Regex

open Text (NoLoneReturn isNoReturn isNoReturn_iff)

def Memory.Inline (m : Memory) : Prop :=
  ∀ n word, m n = some word → word ≠ [] ∧ ∀ x ∈ word, x ≠ '\r' ∧ x ≠ '\n'

theorem Memory.inline_blank : Memory.blank.Inline := by
  intro n word h
  cases h

namespace Expr

def staysBeforeLineFeed : Expr → Bool
  | chars set _ => !set.contains '\n'
  | e => e.isWeightless && e.isGroupFree

def refusesLineFeed : Expr → Bool
  | char set => !set.contains '\n'
  | chars set t => 0 < t.least && !set.contains '\n'
  | seq e f => e.refusesLineFeed || e.staysBeforeLineFeed && f.refusesLineFeed
  | alt e f => e.refusesLineFeed && f.refusesLineFeed
  | group _ e => e.refusesLineFeed
  | backref _ mode => mode = .exact
  | empty | many _ _ | atomic _ | cond _ _ _ | anchor _ | look _ _ _ => false

def isWordRun : Expr → Bool
  | chars set t => 0 < t.least && !set.contains '\r' && !set.contains '\n'
  | _ => false

def endsWhole : Expr → Bool
  | backref _ mode => mode = .exact
  | e => e.endsSolid

/-- Carriage returns before line feeds make no difference on the way through a match. A run takes
the carriage return where it takes the line feed and does not count characters beyond the first, and
what follows a place behind a carriage return asks for something other than the line feed. -/
def ignoresReturns : Expr → Bool
  | empty => true
  | char set => !set.contains '\n'
  | seq e f => e.ignoresReturns && f.ignoresReturns &&
      (e.endsWhole || e.isGroupFree && f.refusesLineFeed)
  | alt e f => e.ignoresReturns && f.ignoresReturns
  | chars set t => !set.contains '\r' && !set.contains '\n' ||
      set.contains '\r' && t.least ≤ 1 && t.most = none
  | group _ e => e.isWordRun
  | backref _ mode => mode = .exact
  | anchor a => a = .wordEdge
  | look back _ e => e.ignoresReturns && e.endsSolid &&
      (back = 0 || back = 1 && e.refusesLineFeed)
  | many _ _ | atomic _ | cond _ _ _ => false

namespace Matches

variable {text : List Char} {e : Expr} {i j : Nat} {m m' : Memory}

theorem of_staysBeforeLineFeed (h : e.Matches text i j m m')
    (hStays : e.staysBeforeLineFeed = true) (hFeed : text[i]? = some '\n') : j = i ∧ m' = m := by
  by_cases hRun : ∃ set t, e = chars set t
  · obtain ⟨set, t, rfl⟩ := hRun
    refine ⟨?_, h.2.2.2.2⟩
    by_contra hNe
    have hLe := h.le
    obtain ⟨x, hx, hSet⟩ := h.contains_of_chars (Nat.le_refl i) (by omega)
    rw [hFeed, Option.some.injEq] at hx
    rw [staysBeforeLineFeed, hx, hSet] at hStays
    cases hStays
  · have hBoth : (e.isWeightless && e.isGroupFree) = true := by
      cases e with
      | chars set t => exact absurd ⟨set, t, rfl⟩ hRun
      | _ => exact hStays
    rw [Bool.and_eq_true] at hBoth
    exact ⟨h.eq_of_isWeightless hBoth.1, h.memory_eq hBoth.2⟩

theorem false_of_refusesLineFeed (h : e.Matches text i j m m')
    (hRefuses : e.refusesLineFeed = true) (hFeed : text[i]? = some '\n') (hInline : m.Inline) :
    False := by
  induction e generalizing i j m m' with
  | char set =>
    obtain ⟨⟨x, hx, hSet⟩, -⟩ := h
    rw [hFeed, Option.some.injEq] at hx
    rw [refusesLineFeed, hx, hSet] at hRefuses
    cases hRefuses
  | chars set t =>
    rw [refusesLineFeed, Bool.and_eq_true, decide_eq_true_eq] at hRefuses
    have hLeast := h.2.2.1.1
    obtain ⟨x, hx, hSet⟩ := h.contains_of_chars (Nat.le_refl i) (by omega)
    rw [hFeed, Option.some.injEq] at hx
    rw [hx, hSet] at hRefuses
    cases hRefuses.2
  | seq e f ihe ihf =>
    obtain ⟨k, u, he, hf⟩ := h
    rw [refusesLineFeed, Bool.or_eq_true, Bool.and_eq_true] at hRefuses
    rcases hRefuses with hFirst | ⟨hStays, hSecond⟩
    · exact ihe he hFirst hFeed hInline
    · obtain ⟨rfl, rfl⟩ := he.of_staysBeforeLineFeed hStays hFeed
      exact ihf hf hSecond hFeed hInline
  | alt e f ihe ihf =>
    rw [refusesLineFeed, Bool.and_eq_true] at hRefuses
    exact h.elim (ihe · hRefuses.1 hFeed hInline) (ihf · hRefuses.2 hFeed hInline)
  | group n e ih =>
    obtain ⟨u, he, -⟩ := h
    exact ih he hRefuses hFeed hInline
  | backref n mode =>
    obtain ⟨word, hWord, hLe, -, hSame, -⟩ := h
    obtain ⟨hNonempty, hChars⟩ := hInline n word hWord
    have hExtract : text.extract i j = word := by
      have hExact : mode.small = id := by rw [of_decide_eq_true hRefuses]; rfl
      rwa [hExact, List.map_id, List.map_id] at hSame
    have hLt : i < j := by
      refine Nat.lt_of_le_of_ne hLe ?_
      rintro rfl
      rw [List.extract_eq_take_drop, Nat.sub_self, List.take_zero] at hExtract
      exact hNonempty hExtract.symm
    rw [Cursor.extract_succ_left hFeed hLt] at hExtract
    exact (hChars '\n' (hExtract ▸ List.mem_cons_self)).2 rfl
  | empty => cases hRefuses
  | many e t _ => cases hRefuses
  | atomic e _ => cases hRefuses
  | cond n e f _ _ => cases hRefuses
  | anchor a => cases hRefuses
  | look back positive e _ => cases hRefuses

end Matches

theorem outcomes_eq_nil_of_refusesLineFeed {e : Expr} (hPlain : e.isPlain = true)
    (hRefuses : e.refusesLineFeed = true) {s : State}
    (hFeed : s.cursor.after.head? = some '\n') (hInline : Memory.Inline s.captured?) :
    e.outcomes s = [] := by
  rw [List.eq_nil_iff_forall_not_mem]
  intro u hu
  rw [Cursor.head?_after] at hFeed
  exact (matches_of_mem_outcomes hPlain hu).false_of_refusesLineFeed hRefuses hFeed hInline

theorem isWhole_of_endsSolid {e : Expr} (hPlain : e.isPlain = true) (hSolid : e.endsSolid = true)
    {s u : State} (hu : u ∈ e.outcomes s) : u.cursor.isWhole = true := by
  have hEnds := (matches_of_mem_outcomes hPlain hu).endsAt_solid hSolid
  rw [← (onward_of_mem_outcomes hu).1, ← Cursor.any_before_iff, Option.any_eq_true] at hEnds
  obtain ⟨x, hx, hSet⟩ := hEnds
  refine Cursor.isWhole_of_head?_before hx ?_
  rintro rfl
  cases hSet

end Expr

/-- A state of a match in the text without carriage returns, and the state of the same match in the
text with them. -/
structure State.Joined (s t : State) : Prop where
  paired : NoLoneReturn t.cursor.text
  whole : t.cursor.isWhole = true
  cursor : s.cursor = t.cursor.joined
  captured : s.captured? = t.captured?
  inline : Memory.Inline t.captured?

namespace State

def isWhole (s : State) : Bool :=
  s.cursor.isWhole

namespace Joined

variable {s t : State}

theorem moveTo (h : Joined s t) {d : Cursor} (hText : d.text = t.cursor.text)
    (hWhole : d.isWhole = true) : Joined (s.moveTo d.joined) (t.moveTo d) where
  paired := hText ▸ h.paired
  whole := hWhole
  cursor := rfl
  captured := h.captured
  inline := h.inline

theorem enter (h : Joined s t) (n : Nat) : Joined (s.enter n) (t.enter n) where
  paired := h.paired
  whole := h.whole
  cursor := h.cursor
  captured := h.captured
  inline := h.inline

end Joined

end State

namespace Times

/-- If only the first entry counts, the choice may as well be made from the entries to keep. -/
theorem filter_choices_cons {α : Type} {t : Times} (hPossessive : t.preference ≠ .possessive)
    (hLeast : t.least ≤ 1) (hMost : t.most = none) {keep : α → Bool} {first : α} {rest : List α}
    (h : keep first = true) :
    (t.choices (first :: rest)).filter keep = t.choices ((first :: rest).filter keep) := by
  have hDrop : ((first :: rest).drop t.least).filter keep =
      ((first :: rest).filter keep).drop t.least := by
    rw [List.filter_cons_of_pos h]
    obtain hZero | hOne : t.least = 0 ∨ t.least = 1 := by omega
    · rw [hZero, List.drop_zero, List.drop_zero, List.filter_cons_of_pos h]
    · rw [hOne, List.drop_succ_cons, List.drop_succ_cons, List.drop_zero, List.drop_zero]
  rw [choices, choices, hMost]
  cases hPreference : t.preference with
  | longest => exact (List.filter_reverse ..).trans (congrArg List.reverse hDrop)
  | shortest => exact hDrop
  | possessive => exact absurd hPreference hPossessive

end Times

namespace Expr

open State (Joined)

theorem simulates_char {set : CharSet} (h : set.contains '\n' = false) :
    Simulates Joined State.isWhole (char set) := by
  intro s t hst
  rw [outcomes, outcomes, hst.cursor]
  cases hNext : t.cursor.next? with
  | none =>
    rw [Cursor.next?_joined_eq_none hNext]
    exact .nil
  | some next =>
    obtain ⟨x, d⟩ := next
    by_cases hx : x = '\r'
    · subst hx
      obtain ⟨hWhole, e, hJoined⟩ := Cursor.next?_joined_of_return hst.paired hNext
      rw [hJoined]
      simp only [h, Bool.false_eq_true, if_false]
      split
      · rw [List.filter_cons_of_neg (by simp [State.isWhole, hWhole])]
        exact .nil
      · exact .nil
    · obtain ⟨hJoined, hWhole⟩ := Cursor.next?_joined hNext hx
      have hMoved := hst.moveTo (Cursor.text_of_next? hNext) hWhole
      rw [hJoined]
      simp only
      split
      · rw [filter_eq_singleton (by exact hWhole)]
        exact .cons hMoved .nil
      · exact .nil

/-- Runs stop at the same places if the choice among the stops disregards those that are not
whole. -/
theorem simulates_chars {set : CharSet} {times : Times}
    (hSet : set.contains '\n' = true → set.contains '\r' = true)
    (hChoices : ∀ c : Cursor, c.isWhole = true →
      (times.choices (c.stops set.contains)).filter Cursor.isWhole =
        times.choices ((c.stops set.contains).filter Cursor.isWhole)) :
    Simulates Joined State.isWhole (chars set times) := by
  intro s t hst
  rw [outcomes, outcomes, hst.cursor, Cursor.stops_joined hSet hst.paired hst.whole,
    Times.choices_map, ← hChoices _ hst.whole, List.filter_map, List.map_map]
  simp only [Function.comp_def, State.isWhole, State.cursor_moveTo]
  rw [List.forall₂_map_left_iff, List.forall₂_map_right_iff, List.forall₂_same]
  intro c hc
  obtain ⟨hMem, hWhole⟩ := List.mem_filter.mp hc
  exact hst.moveTo (Cursor.text_of_mem_stops (Times.mem_of_mem_choices hMem)) hWhole

theorem simulates_chars_within_line {set : CharSet} (times : Times)
    (hReturn : set.contains '\r' = false) (hFeed : set.contains '\n' = false) :
    Simulates Joined State.isWhole (chars set times) := by
  refine simulates_chars (fun h => by rw [hFeed] at h; cases h) ?_
  intro c hWhole
  have hAll := fun d hd => Cursor.isWhole_of_mem_stops hReturn hWhole (d := d) hd
  rw [List.filter_eq_self.mpr hAll,
    List.filter_eq_self.mpr fun d hd => hAll d (Times.mem_of_mem_choices hd)]

theorem simulates_chars_over_lines {set : CharSet} {times : Times}
    (hReturn : set.contains '\r' = true) (hLeast : times.least ≤ 1) (hMost : times.most = none)
    (hPossessive : times.preference ≠ .possessive) :
    Simulates Joined State.isWhole (chars set times) := by
  refine simulates_chars (fun _ => hReturn) ?_
  intro c hWhole
  have hFirst : (c.stops set.contains).head? = some c := by
    rw [List.head?_eq_getElem?]
    exact Cursor.getElem?_stopsFrom_zero set.contains c.after c.before c.offset c.offset_eq
  obtain ⟨rest, hStops⟩ := List.head?_eq_some_iff.mp hFirst
  rw [hStops]
  exact Times.filter_choices_cons hPossessive hLeast hMost hWhole

theorem outcomes_backref_exact (n : Nat) (s : State) :
    (backref n .exact).outcomes s =
      ((s.captured? n).bind (s.cursor.skip? id)).toList.map s.moveTo := rfl

theorem isWhole_of_endsWhole {e : Expr} (hPlain : e.isPlain = true) (hEnds : e.endsWhole = true)
    {s t u : State} (h : Joined s t) (hu : u ∈ e.outcomes t) : u.isWhole = true := by
  by_cases hBackref : ∃ n mode, e = backref n mode
  · obtain ⟨n, mode, rfl⟩ := hBackref
    cases of_decide_eq_true hEnds
    rw [outcomes_backref_exact] at hu
    obtain ⟨d, hd, rfl⟩ := List.mem_map.mp hu
    obtain ⟨word, hWord, hSkip⟩ := Option.bind_eq_some_iff.mp (Option.mem_toList.mp hd)
    exact (Cursor.skip?_joined (h.inline n word hWord).2 h.paired h.whole).2 d hSkip
  · refine isWhole_of_endsSolid hPlain ?_ hu
    cases e with
    | backref n mode => exact absurd ⟨n, mode, rfl⟩ hBackref
    | _ => exact hEnds

theorem simulates_seq_of_ignoresReturns {e f : Expr} (he : Simulates Joined State.isWhole e)
    (hf : Simulates Joined State.isWhole f) (hPlainFirst : e.isPlain = true)
    (hPlainSecond : f.isPlain = true)
    (hEnds : e.endsWhole = true ∨ e.isGroupFree = true ∧ f.refusesLineFeed = true) :
    Simulates Joined State.isWhole (seq e f) := by
  refine simulates_seq he hf ?_
  intro s t hst u hu hBroken
  obtain hWhole | ⟨hFree, hRefuses⟩ := hEnds
  · rw [isWhole_of_endsWhole hPlainFirst hWhole hst hu] at hBroken
    cases hBroken
  · have hText := (onward_of_mem_outcomes hu).1
    have hMemory := (matches_of_mem_outcomes hPlainFirst hu).memory_eq hFree
    have hFeed := Cursor.head?_after_of_not_isWhole (hText ▸ hst.paired) hBroken
    rw [outcomes_eq_nil_of_refusesLineFeed hPlainSecond hRefuses hFeed (hMemory ▸ hst.inline)]
    rfl

theorem simulates_backref (n : Nat) : Simulates Joined State.isWhole (backref n .exact) := by
  intro s t hst
  rw [outcomes_backref_exact, outcomes_backref_exact, hst.captured, hst.cursor]
  cases hWord : t.captured? n with
  | none => exact .nil
  | some word =>
    obtain ⟨hSkip, hWhole⟩ :=
      Cursor.skip?_joined (hst.inline n word hWord).2 hst.paired hst.whole
    rw [Option.bind_some, Option.bind_some, hSkip]
    cases hFound : t.cursor.skip? id word with
    | none => exact .nil
    | some d =>
      have hd := hWhole d hFound
      rw [Option.map_some, Option.toList_some, Option.toList_some, List.map_singleton,
        List.map_singleton, filter_eq_singleton (by exact hd)]
      exact .cons (hst.moveTo (Cursor.skip?_eq_some_iff.mp hFound).1 hd) .nil

theorem inline_of_mem_outcomes {e : Expr} (hPlain : e.isPlain = true) (hRun : e.isWordRun = true)
    {s u : State} (hu : u ∈ e.outcomes s) :
    s.cursor.upTo u.cursor ≠ [] ∧ ∀ x ∈ s.cursor.upTo u.cursor, x ≠ '\r' ∧ x ≠ '\n' := by
  cases e with
  | chars set times =>
    simp only [isWordRun, Bool.and_eq_true, decide_eq_true_eq, Bool.not_eq_true'] at hRun
    obtain ⟨⟨hLeast, hReturn⟩, hFeed⟩ := hRun
    obtain ⟨hLe, hBound, hTimes, hSet, -⟩ := matches_of_mem_outcomes hPlain hu
    rw [Cursor.upTo_eq]
    refine ⟨?_, ?_⟩
    · intro hNil
      have hLength := congrArg List.length hNil
      have := hTimes.1
      simp only [List.extract_eq_take_drop, List.length_take, List.length_drop,
        List.length_nil] at hLength
      omega
    · intro x hx
      have hContains := hSet x hx
      constructor
      · rintro rfl
        rw [hReturn] at hContains
        cases hContains
      · rintro rfl
        rw [hFeed] at hContains
        cases hContains
  | _ => cases hRun

theorem ignoresReturns_of_isWordRun {e : Expr} (h : e.isWordRun = true) :
    e.ignoresReturns = true := by
  cases e with
  | chars set times =>
    rw [isWordRun, Bool.and_assoc, Bool.and_eq_true] at h
    rw [ignoresReturns, h.2, Bool.true_or]
  | _ => cases h

theorem simulates_group (n : Nat) {e : Expr} (he : Simulates Joined State.isWhole e)
    (hPlain : e.isPlain = true) (hRun : e.isWordRun = true) :
    Simulates Joined State.isWhole (group n e) := by
  intro s t hst
  have hBody := forall₂_and_mem (he _ _ (hst.enter n))
  rw [outcomes, outcomes, List.filter_map, List.forall₂_map_left_iff, List.forall₂_map_right_iff]
  refine hBody.imp ?_
  rintro u v ⟨hv, huv⟩
  have hMem := (List.mem_filter.mp hv).1
  obtain ⟨hText, hLe⟩ : t.Onward v := @onward_of_mem_outcomes e (t.enter n) v hMem
  obtain ⟨hNonempty, hWord⟩ := inline_of_mem_outcomes hPlain hRun hMem
  have hSame : s.cursor.upTo u.cursor = t.cursor.upTo v.cursor := by
    rw [hst.cursor, huv.cursor, Cursor.upTo_joined hText hLe]
    exact Text.filter_isNoReturn_eq_self fun hReturn => (hWord '\r' hReturn).1 rfl
  refine ⟨huv.paired, huv.whole, huv.cursor, ?_, ?_⟩
  · rw [State.captured?_capture, State.captured?_capture, huv.captured, hSame]
  · intro k word hk
    rw [State.captured?_capture, Memory.put] at hk
    split at hk
    · cases hk
      exact ⟨hNonempty, hWord⟩
    · exact huv.inline k word hk

theorem wordEdge_joined {c : Cursor} (hText : NoLoneReturn c.text) (hWhole : c.isWhole = true) :
    Anchor.wordEdge.holds c = Anchor.wordEdge.holds c.joined := by
  have hAfter : c.after.head?.any CharSet.word.contains =
      c.joined.after.head?.any CharSet.word.contains := by
    obtain hSame | ⟨hReturn, hFeed⟩ := Cursor.head?_after_joined hText
    · rw [hSame]
    · rw [hReturn, hFeed]
      rfl
  rw [Anchor.holds, Anchor.holds, Anchor.holds.edge, Anchor.holds.edge, hAfter,
    Cursor.head?_before_joined hWhole]

theorem lookFound_joined {e : Expr} (he : Simulates Joined State.isWhole e)
    (hPlain : e.isPlain = true) (hEnd : e.endsSolid = true) {back : Nat}
    (hBack : back = 0 ∨ back = 1 ∧ e.refusesLineFeed = true) {s t : State} (h : Joined s t) :
    e.lookFound back s = none ∧ e.lookFound back t = none ∨
      ∃ u v, e.lookFound back s = some u ∧ e.lookFound back t = some v ∧ Joined u v := by
  have hBody : ∀ d : Cursor, d.text = t.cursor.text → d.isWhole = true →
      List.Forall₂ Joined (e.outcomes (s.moveTo d.joined)) (e.outcomes (t.moveTo d)) := by
    intro d hText hWhole
    have hKept := he _ _ (h.moveTo hText hWhole)
    have hAll : ∀ u ∈ e.outcomes (t.moveTo d), u.isWhole = true := by
      intro u hu
      exact isWhole_of_endsSolid hPlain hEnd hu
    rwa [List.filter_eq_self.mpr hAll] at hKept
  obtain rfl | ⟨rfl, hRefuses⟩ := hBack
  · have hHere := hBody t.cursor rfl h.whole
    rw [← h.cursor] at hHere
    exact head?_of_forall₂ hHere
  · rw [lookFound, lookFound, h.cursor, Cursor.back?, Cursor.back?,
      Cursor.previous?_joined h.whole]
    cases hPrevious : t.cursor.previous? with
    | none => exact .inl ⟨rfl, rfl⟩
    | some d =>
      have hText : d.text = t.cursor.text := (Cursor.previous?_eq_some_iff.mp hPrevious).1
      have hPaired : NoLoneReturn d.text := hText ▸ h.paired
      rw [Option.map_some, Option.bind_some, Option.bind_some, Cursor.back?, Cursor.back?,
        Option.bind_some, Option.bind_some]
      by_cases hFeed : d.after.head? = some '\n'
      · have hFeedJoined : d.joined.after.head? = some '\n' :=
          (Cursor.head?_after_joined hPaired).elim (·.trans hFeed) And.right
        have hNone : e.outcomes (t.moveTo d) = [] :=
          outcomes_eq_nil_of_refusesLineFeed hPlain hRefuses hFeed h.inline
        have hNoneJoined : e.outcomes (s.moveTo d.joined) = [] :=
          outcomes_eq_nil_of_refusesLineFeed hPlain hRefuses hFeedJoined
            (by rw [State.captured?_moveTo, h.captured]; exact h.inline)
        exact .inl ⟨congrArg List.head? hNoneJoined, congrArg List.head? hNone⟩
      · have hWhole : d.isWhole = true := by
          by_contra hBroken
          exact hFeed (Cursor.head?_after_of_not_isWhole hPaired (Bool.not_eq_true _ ▸ hBroken))
        exact head?_of_forall₂ (hBody d hText hWhole)

theorem simulates_look_of_ignoresReturns {e : Expr} (he : Simulates Joined State.isWhole e)
    (hPlain : e.isPlain = true) (hEnd : e.endsSolid = true) {back : Nat}
    (hBack : back = 0 ∨ back = 1 ∧ e.refusesLineFeed = true) (positive : Bool) :
    Simulates Joined State.isWhole (look back positive e) := by
  refine simulates_look positive (fun _ _ h => h.whole) ?_
  intro s t h
  refine (lookFound_joined he hPlain hEnd hBack h).imp_right ?_
  rintro ⟨u, v, hs, ht, huv⟩
  have hText : v.cursor.text = t.cursor.text := by
    obtain ⟨d, hd, hv⟩ := Option.bind_eq_some_iff.mp ht
    have hBody := (onward_of_mem_outcomes (List.mem_of_head? hv)).1
    exact hBody.trans (Cursor.back?_eq_some_iff.mp hd).1
  refine ⟨u, v, hs, ht, ?_⟩
  rw [h.cursor]
  exact huv.moveTo hText.symm h.whole

theorem simulates_of_ignoresReturns {e : Expr} (hPlain : e.isPlain = true)
    (h : e.ignoresReturns = true) : Simulates Joined State.isWhole e := by
  induction e with
  | empty => exact simulates_empty fun _ _ h => h.whole
  | char set => exact simulates_char (by simpa [ignoresReturns] using h)
  | seq e f ihe ihf =>
    simp only [isPlain, Bool.and_eq_true] at hPlain
    simp only [ignoresReturns, Bool.and_eq_true, Bool.or_eq_true] at h
    exact simulates_seq_of_ignoresReturns (ihe hPlain.1 h.1.1) (ihf hPlain.2 h.1.2) hPlain.1
      hPlain.2 h.2
  | alt e f ihe ihf =>
    simp only [isPlain, Bool.and_eq_true] at hPlain
    simp only [ignoresReturns, Bool.and_eq_true] at h
    exact simulates_alt (ihe hPlain.1 h.1) (ihf hPlain.2 h.2)
  | chars set times =>
    simp only [ignoresReturns, Bool.or_eq_true, Bool.and_eq_true, Bool.not_eq_true',
      decide_eq_true_eq] at h
    obtain ⟨hReturn, hFeed⟩ | ⟨⟨hReturn, hLeast⟩, hMost⟩ := h
    · exact simulates_chars_within_line times hReturn hFeed
    · exact simulates_chars_over_lines hReturn hLeast hMost (of_decide_eq_true hPlain)
  | group n e ih =>
    exact simulates_group n (ih hPlain (ignoresReturns_of_isWordRun h)) hPlain h
  | backref n mode =>
    cases of_decide_eq_true h
    exact simulates_backref n
  | anchor a =>
    cases of_decide_eq_true h
    refine simulates_anchor (fun _ _ h => h.whole) ?_
    intro s t hst
    rw [hst.cursor]
    exact wordEdge_joined hst.paired hst.whole
  | look back positive e ih =>
    simp only [isPlain, Bool.and_eq_true] at hPlain
    simp only [ignoresReturns, Bool.and_eq_true, Bool.or_eq_true, decide_eq_true_eq] at h
    exact simulates_look_of_ignoresReturns (ih hPlain.1.1 h.1.1) hPlain.1.1 h.1.2 h.2 positive
  | many e times _ => cases h
  | atomic e _ => cases h
  | cond n e f _ _ => cases h

end Expr

end ContractAudit.Regex
