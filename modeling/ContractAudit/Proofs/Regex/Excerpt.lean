import ContractAudit.Proofs.Regex.Meaning

/-!
# Excerpts of a text

A match that lies inside an excerpt is, for many expressions, a match of the excerpt alone. The
excerpt must not be cut out in the middle of a word. What is looked for ahead may go beyond the end
of the excerpt, so that it can be lost but not gained: an expression may ask that something does not
follow, and not that it does.
-/

namespace ContractAudit.Regex

/-- What stands before and behind an excerpt. The characters next to it belong to no word. -/
structure Surroundings where
  front : List Char
  back : List Char
  front_apart : ∀ x ∈ front.getLast?, Text.isWord x = false
  back_apart : ∀ x ∈ back.head?, Text.isWord x = false

namespace Surroundings

variable (s : Surroundings)

def around (text : List Char) : List Char :=
  s.front ++ text ++ s.back

variable {s} {text : List Char} {i j : Nat}

theorem length_le_around : s.front.length + text.length ≤ (s.around text).length := by
  rw [around, List.length_append, List.length_append]
  omega

theorem exists_place {k : Nat} (hik : s.front.length + i ≤ k) (hkj : k ≤ s.front.length + j) :
    ∃ n ≤ j, k = s.front.length + n :=
  ⟨k - s.front.length, by omega, by omega⟩

theorem getElem?_around (h : i < text.length) :
    (s.around text)[s.front.length + i]? = text[i]? := by
  rw [around, List.append_assoc, List.getElem?_append_right (Nat.le_add_right _ _),
    Nat.add_sub_cancel_left, List.getElem?_append_left h]

theorem getElem?_around_front (h : i < s.front.length) :
    (s.around text)[i]? = s.front[i]? := by
  rw [around, List.append_assoc, List.getElem?_append_left h]

theorem getElem?_around_length :
    (s.around text)[s.front.length + text.length]? = s.back.head? := by
  rw [around, ← List.length_append, List.getElem?_append_right (Nat.le_refl _), Nat.sub_self,
    List.head?_eq_getElem?]

theorem extract_around (hij : i ≤ j) (hj : j ≤ text.length) :
    (s.around text).extract (s.front.length + i) (s.front.length + j) = text.extract i j := by
  rw [List.extract_eq_take_drop, List.extract_eq_take_drop, around, List.append_assoc,
    List.drop_length_add_append, Nat.add_sub_add_left, List.drop_append_of_le_length (by omega),
    List.take_append_of_le_length (by rw [List.length_drop]; omega)]

theorem startsAt_around {set : CharSet} (h : i < text.length) :
    set.StartsAt (s.around text) (s.front.length + i) ↔ set.StartsAt text i := by
  rw [CharSet.StartsAt, CharSet.StartsAt, getElem?_around h]

theorem word_startsAt_around (h : i ≤ text.length) :
    CharSet.word.StartsAt (s.around text) (s.front.length + i) ↔ CharSet.word.StartsAt text i := by
  rcases Nat.lt_or_eq_of_le h with hInside | rfl
  · exact startsAt_around hInside
  · constructor
    · rintro ⟨x, hx, hWord⟩
      rw [getElem?_around_length] at hx
      exact absurd hWord (Bool.eq_false_iff.mp (s.back_apart x hx))
    · rintro ⟨x, hx, -⟩
      rw [List.getElem?_eq_none (Nat.le_refl _)] at hx
      cases hx

theorem word_endsAt_around (h : i ≤ text.length) :
    CharSet.word.EndsAt (s.around text) (s.front.length + i) ↔ CharSet.word.EndsAt text i := by
  cases i with
  | zero =>
    constructor
    · rintro ⟨hPos, x, hx, hWord⟩
      rw [Nat.add_zero] at hPos hx
      rw [getElem?_around_front (Nat.sub_lt hPos Nat.one_pos), ← List.getLast?_eq_getElem?] at hx
      exact absurd hWord (Bool.eq_false_iff.mp (s.front_apart x hx))
    · rintro ⟨hPos, -⟩
      cases hPos
  | succ i =>
    rw [CharSet.EndsAt, CharSet.EndsAt, ← Nat.add_assoc, Nat.add_sub_cancel, Nat.add_sub_cancel,
      getElem?_around h]
    simp

end Surroundings

namespace Expr

/-- Whether a stretch of an excerpt is a match depends on the excerpt alone. -/
def isLocal : Expr → Bool
  | empty | char _ | chars _ _ | backref _ _ | anchor .wordEdge => true
  | seq e f | alt e f => e.isLocal && f.isLocal
  | group _ e => e.isLocal
  | anchor _ | look _ _ _ | many _ _ | atomic _ | cond _ _ _ => false

/-- What matches inside an excerpt matches it alone as well. -/
def passesToExcerpts : Expr → Bool
  | seq e f | alt e f => e.passesToExcerpts && f.passesToExcerpts
  | group _ e => e.passesToExcerpts
  | look 0 false e => e.isLocal
  | e => e.isLocal

variable {e : Expr} {s : Surroundings} {text : List Char} {i j : Nat} {m m' : Memory}

theorem matches_around_iff (hLocal : e.isLocal = true) (hi : i ≤ text.length)
    (hj : j ≤ text.length) :
    e.Matches (s.around text) (s.front.length + i) (s.front.length + j) m m' ↔
      e.Matches text i j m m' := by
  have hBound : s.front.length + text.length ≤ (s.around text).length :=
    Surroundings.length_le_around
  induction e generalizing i j m m' with
  | empty => exact and_congr_left' Nat.add_left_cancel_iff
  | char set =>
    constructor
    · rintro ⟨hStarts, hStop, hMemory⟩
      have hStop : j = i + 1 := by omega
      exact ⟨(Surroundings.startsAt_around (by omega)).mp hStarts, hStop, hMemory⟩
    · rintro ⟨hStarts, rfl, hMemory⟩
      exact ⟨(Surroundings.startsAt_around hj).mpr hStarts, rfl, hMemory⟩
  | seq e f ihe ihf =>
    rw [isLocal, Bool.and_eq_true] at hLocal
    constructor
    · rintro ⟨k, u, he, hf⟩
      obtain ⟨n, hnj, rfl⟩ := Surroundings.exists_place he.le hf.le
      have hn := Nat.le_trans hnj hj
      exact ⟨n, u, (ihe hLocal.1 hi hn).mp he, (ihf hLocal.2 hn hj).mp hf⟩
    · rintro ⟨k, u, he, hf⟩
      have hk := he.le_length hi
      exact ⟨_, u, (ihe hLocal.1 hi hk).mpr he, (ihf hLocal.2 hk hj).mpr hf⟩
  | alt e f ihe ihf =>
    rw [isLocal, Bool.and_eq_true] at hLocal
    exact or_congr (ihe hLocal.1 hi hj) (ihf hLocal.2 hi hj)
  | chars set t =>
    refine (and_congr_left' Nat.add_le_add_iff_left).trans (and_congr_right fun hij => ?_)
    rw [Nat.add_sub_add_left, Surroundings.extract_around hij hj]
    exact and_congr_left' (iff_of_true (by omega) hj)
  | group n e ih =>
    refine exists_congr fun u => (and_congr_left' (ih hLocal hi hj)).trans ?_
    refine and_congr_right fun he => ?_
    rw [Surroundings.extract_around he.le hj]
  | backref n mode =>
    refine exists_congr fun word => and_congr_right fun _ => ?_
    refine (and_congr_left' Nat.add_le_add_iff_left).trans (and_congr_right fun hij => ?_)
    rw [Surroundings.extract_around hij hj]
    exact and_congr_left' (iff_of_true (by omega) hj)
  | anchor a =>
    cases a with
    | wordEdge =>
      refine and_congr (not_congr ?_) (and_congr_left' Nat.add_left_cancel_iff)
      rw [Surroundings.word_endsAt_around hi, Surroundings.word_startsAt_around hi]
    | _ => cases hLocal
  | look back positive e _ => cases hLocal
  | many e t _ => cases hLocal
  | atomic e _ => cases hLocal
  | cond n e f _ _ => cases hLocal

theorem matches_of_matches_around (hPasses : e.passesToExcerpts = true) (hi : i ≤ text.length)
    (hj : j ≤ text.length)
    (h : e.Matches (s.around text) (s.front.length + i) (s.front.length + j) m m') :
    e.Matches text i j m m' := by
  fun_induction passesToExcerpts e generalizing i j m m' with
  | case1 e f ihe ihf =>
    rw [Bool.and_eq_true] at hPasses
    obtain ⟨k, u, he, hf⟩ := h
    obtain ⟨n, hnj, rfl⟩ := Surroundings.exists_place he.le hf.le
    have hn := Nat.le_trans hnj hj
    exact ⟨n, u, ihe hPasses.1 hi hn he, ihf hPasses.2 hn hj hf⟩
  | case2 e f ihe ihf =>
    rw [Bool.and_eq_true] at hPasses
    exact h.imp (ihe hPasses.1 hi hj) (ihf hPasses.2 hi hj)
  | case3 n e ih =>
    obtain ⟨u, he, hMemory⟩ := h
    refine ⟨u, ih hPasses hi hj he, ?_⟩
    rw [hMemory, Surroundings.extract_around (Nat.le_of_add_le_add_left he.le) hj]
  | case4 e =>
    obtain ⟨hNone, hStop, hMemory⟩ := h
    refine ⟨iff_of_false Bool.false_ne_true ?_, Nat.add_left_cancel hStop, hMemory⟩
    rintro ⟨k, u, he⟩
    have hFollows := (matches_around_iff (s := s) hPasses hi (he.le_length hi)).mpr he
    exact Bool.false_ne_true (hNone.mpr ⟨_, u, hFollows⟩)
  | case5 e => exact (matches_around_iff hPasses hi hj).mp h

theorem matchAt_of_matchAt_around (hPasses : e.passesToExcerpts = true)
    (h : e.MatchAt (s.around text) (s.front.length + i) (s.front.length + j))
    (hj : j ≤ text.length) : e.MatchAt text i j := by
  obtain ⟨hij, -, m, hMatch⟩ := h
  have hij := Nat.le_of_add_le_add_left hij
  exact ⟨hij, hj, m, matches_of_matches_around hPasses (Nat.le_trans hij hj) hj hMatch⟩

end Expr

end ContractAudit.Regex
