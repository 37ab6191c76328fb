import ContractAudit.Proofs.Regex.Meaning
import ContractAudit.Proofs.Regex.Places

/-!
# The words of an expression

`Expr.Spells` tells which words an expression can match as far as their own characters go, without
regard to what stands around them or is remembered. Every match is such a word. For an expression
without anchors, look-arounds and memory the converse holds as well, so that it matches a word
wherever the word stands.
-/

namespace ContractAudit.Regex

section Stretches

variable {text : List Char} {i j k : Nat}

theorem extract_append_extract (text : List Char) (hik : i ≤ k) (hkj : k ≤ j) :
    text.extract i k ++ text.extract k j = text.extract i j := by
  simp only [List.extract_eq_take_drop]
  rw [show j - i = (k - i) + (j - k) by omega, List.take_add, List.drop_drop,
    show i + (k - i) = k by omega]

theorem extract_self (text : List Char) (i : Nat) : text.extract i i = [] := by
  rw [List.extract_eq_take_drop, Nat.sub_self, List.take_zero]

theorem length_extract (h : j ≤ text.length) : (text.extract i j).length = j - i := by
  rw [List.extract_eq_take_drop, List.length_take, List.length_drop]
  omega

theorem getElem?_extract (h : i + k < j) : (text.extract i j)[k]? = text[i + k]? := by
  rw [List.extract_eq_take_drop, List.getElem?_take, if_pos (by omega), List.getElem?_drop]

theorem extract_eq_cons {x : Char} {w : List Char} (h : text.extract i j = x :: w) :
    i < j ∧ text[i]? = some x ∧ text.extract (i + 1) j = w := by
  have hij : i < j := by
    refine Nat.lt_of_not_le fun hji => ?_
    rw [List.extract_eq_take_drop, Nat.sub_eq_zero_of_le hji] at h
    cases h
  have hx : text[i]? = some x := by
    rw [← Nat.add_zero i, ← getElem?_extract (j := j) (by omega), h, List.getElem?_cons_zero]
  rw [Cursor.extract_succ_left hx hij, List.cons.injEq] at h
  exact ⟨hij, hx, h.2⟩

theorem exists_split_of_extract_eq_append {u v : List Char} (hij : i ≤ j) (hj : j ≤ text.length)
    (h : text.extract i j = u ++ v) :
    ∃ k, i ≤ k ∧ k ≤ j ∧ text.extract i k = u ∧ text.extract k j = v := by
  have hLength := congrArg List.length h
  rw [length_extract hj, List.length_append] at hLength
  have hParts := extract_append_extract text (show i ≤ i + u.length by omega)
    (show i + u.length ≤ j by omega)
  rw [h] at hParts
  have hFirst : (text.extract i (i + u.length)).length = u.length := by
    rw [length_extract (by omega)]
    omega
  obtain ⟨hu, hv⟩ := List.append_inj hParts hFirst
  exact ⟨i + u.length, by omega, by omega, hu, hv⟩

theorem extract_prefix_drop (text : List Char) (i j : Nat) : text.extract i j <+: text.drop i := by
  rw [List.extract_eq_take_drop]
  exact List.take_prefix _ _

theorem extract_of_prefix_drop {w : List Char} (h : w <+: text.drop i) :
    text.extract i (i + w.length) = w := by
  rw [List.extract_eq_take_drop, Nat.add_sub_cancel_left]
  exact (List.prefix_iff_eq_take.mp h).symm

theorem infix_iff_exists_extract {w : List Char} :
    w <:+: text ↔ ∃ i j, i ≤ j ∧ j ≤ text.length ∧ text.extract i j = w := by
  constructor
  · rintro ⟨front, back, hText⟩
    have hPrefix : w <+: text.drop front.length := by
      rw [← hText, List.append_assoc, List.drop_left]
      exact List.prefix_append w back
    have hLength := congrArg List.length hText
    rw [List.length_append, List.length_append] at hLength
    exact ⟨front.length, _, by omega, by omega, extract_of_prefix_drop hPrefix⟩
  · rintro ⟨i, j, -, -, rfl⟩
    exact (extract_prefix_drop text i j).isInfix.trans (List.drop_suffix i text).isInfix

end Stretches

namespace Expr

/-- The word can be a match, as far as its own characters go. -/
def Spells : Expr → List Char → Prop
  | empty, w => w = []
  | anchor _, w => w = []
  | look _ _ _, w => w = []
  | char set, w => ∃ x, w = [x] ∧ set.contains x = true
  | seq e f, w => ∃ u v, w = u ++ v ∧ e.Spells u ∧ f.Spells v
  | alt e f, w => e.Spells w ∨ f.Spells w
  | chars set t, w => t.Allows w.length ∧ ∀ x ∈ w, set.contains x = true
  | group _ e, w => e.Spells w
  | backref _ _, _ => True
  | many _ _, _ => False
  | atomic _, _ => False
  | cond _ _ _, _ => False

/-- Whether a word is a match depends on its own characters alone. -/
def isBare : Expr → Bool
  | empty | char _ | chars _ _ => true
  | seq e f | alt e f => e.isBare && f.isBare
  | many _ _ | group _ _ | backref _ _ | atomic _ | cond _ _ _ | anchor _ | look _ _ _ => false

variable {e : Expr} {text : List Char} {i j : Nat} {m m' : Memory}

theorem Matches.spells (h : e.Matches text i j m m') (hi : i ≤ text.length) :
    e.Spells (text.extract i j) := by
  induction e generalizing i j m m' with
  | empty =>
    rw [h.1]
    exact extract_self text i
  | char set =>
    obtain ⟨⟨x, hx, hSet⟩, rfl, -⟩ := h
    refine ⟨x, ?_, hSet⟩
    rw [Cursor.extract_succ_left hx (Nat.lt_succ_self i), extract_self]
  | seq e f ihe ihf =>
    obtain ⟨k, u, he, hf⟩ := h
    have hk := he.le_length hi
    exact ⟨_, _, (extract_append_extract text he.le hf.le).symm, ihe he hi, ihf hf hk⟩
  | alt e f ihe ihf => exact h.imp (ihe · hi) (ihf · hi)
  | chars set t =>
    obtain ⟨-, hj, hAllows, hSet, -⟩ := h
    refine ⟨?_, hSet⟩
    rwa [length_extract hj]
  | group n e ih =>
    obtain ⟨u, he, -⟩ := h
    exact ih he hi
  | backref n mode => trivial
  | anchor a =>
    rw [h.2.1]
    exact extract_self text i
  | look back positive e _ =>
    have hStop : j = i := by
      cases back <;> exact h.2.1
    rw [hStop]
    exact extract_self text i
  | many e t _ => cases h
  | atomic e _ => cases h
  | cond n e f _ _ => cases h

theorem matches_of_spells (hBare : e.isBare = true) (hij : i ≤ j) (hj : j ≤ text.length)
    (h : e.Spells (text.extract i j)) (m : Memory) : e.Matches text i j m m := by
  induction e generalizing i j with
  | empty =>
    have hLength := congrArg List.length h
    rw [length_extract hj, List.length_nil] at hLength
    exact ⟨by omega, rfl⟩
  | char set =>
    obtain ⟨x, hx, hSet⟩ := h
    have hLength := congrArg List.length hx
    rw [length_extract hj, List.length_singleton] at hLength
    refine ⟨⟨x, ?_, hSet⟩, by omega, rfl⟩
    rw [← Nat.add_zero i, ← getElem?_extract (j := j) (by omega), hx, List.getElem?_cons_zero]
  | seq e f ihe ihf =>
    rw [isBare, Bool.and_eq_true] at hBare
    obtain ⟨u, v, hWord, hu, hv⟩ := h
    obtain ⟨k, hik, hkj, rfl, rfl⟩ := exists_split_of_extract_eq_append hij hj hWord
    exact ⟨k, m, ihe hBare.1 hik (by omega) hu, ihf hBare.2 hkj hj hv⟩
  | alt e f ihe ihf =>
    rw [isBare, Bool.and_eq_true] at hBare
    exact h.imp (ihe hBare.1 hij hj) (ihf hBare.2 hij hj)
  | chars set t =>
    obtain ⟨hAllows, hSet⟩ := h
    rw [length_extract hj] at hAllows
    exact ⟨hij, hj, hAllows, hSet, rfl⟩
  | many e t _ => cases hBare
  | group n e _ => cases hBare
  | backref n mode => cases hBare
  | atomic e _ => cases hBare
  | cond n e f _ _ => cases hBare
  | anchor a => cases hBare
  | look back positive e _ => cases hBare

theorem MatchAt.spells (h : e.MatchAt text i j) : e.Spells (text.extract i j) := by
  obtain ⟨hij, hj, m, hMatch⟩ := h
  exact hMatch.spells (Nat.le_trans hij hj)

/-- An expression that looks at nothing else matches where the text goes on with one of its
words. -/
theorem exists_matchAt_iff (hBare : e.isBare = true) :
    (∃ j, e.MatchAt text i j) ↔ i ≤ text.length ∧ ∃ w, e.Spells w ∧ w <+: text.drop i := by
  constructor
  · rintro ⟨j, h⟩
    exact ⟨Nat.le_trans h.1 h.2.1, _, h.spells, extract_prefix_drop text i j⟩
  · rintro ⟨hi, w, hw, hPrefix⟩
    have hLength := hPrefix.length_le
    rw [List.length_drop] at hLength
    rw [← extract_of_prefix_drop hPrefix] at hw
    exact ⟨i + w.length, by omega, by omega, _,
      matches_of_spells hBare (by omega) (by omega) hw .blank⟩

/-! ## Words of the usual expressions -/

theorem spells_text {s : String} {w : List Char} : (Expr.text s).Spells w ↔ w = s.toList := by
  rw [Expr.text]
  induction s.toList generalizing w with
  | nil => exact Iff.rfl
  | cons c cs ih =>
    constructor
    · rintro ⟨u, v, rfl, ⟨x, rfl, hx⟩, hv⟩
      rw [CharSet.contains_single, beq_iff_eq] at hx
      rw [hx, ih.mp hv]
      rfl
    · rintro rfl
      exact ⟨[c], cs, rfl, ⟨c, rfl, beq_self_eq_true c⟩, ih.mpr rfl⟩

theorem spells_all_nil {w : List Char} : (all []).Spells w ↔ w = [] :=
  Iff.rfl

theorem spells_all_cons {rest : List Expr} {w : List Char} :
    (all (e :: rest)).Spells w ↔ ∃ u v, w = u ++ v ∧ e.Spells u ∧ (all rest).Spells v := by
  cases rest with
  | nil =>
    constructor
    · intro h
      exact ⟨w, [], (List.append_nil w).symm, h, rfl⟩
    · rintro ⟨u, v, rfl, hu, rfl⟩
      rwa [List.append_nil]
  | cons f rest => exact Iff.rfl

theorem spells_all_append {parts rest : List Expr} {w : List Char} :
    (all (parts ++ rest)).Spells w ↔
      ∃ u v, w = u ++ v ∧ (all parts).Spells u ∧ (all rest).Spells v := by
  induction parts generalizing w with
  | nil =>
    constructor
    · intro h
      exact ⟨[], w, rfl, rfl, h⟩
    · rintro ⟨u, v, rfl, rfl, h⟩
      exact h
  | cons e parts ih =>
    rw [List.cons_append, spells_all_cons]
    simp only [ih, spells_all_cons]
    constructor
    · rintro ⟨u, _, rfl, hu, v, x, rfl, hv, hx⟩
      exact ⟨u ++ v, x, (List.append_assoc u v x).symm, ⟨u, v, rfl, hu, hv⟩, hx⟩
    · rintro ⟨_, x, rfl, ⟨u, v, rfl, hu, hv⟩, hx⟩
      exact ⟨u, v ++ x, List.append_assoc u v x, hu, v, x, rfl, hv, hx⟩

theorem spells_oneOf_singleton {w : List Char} : (oneOf [e]).Spells w ↔ e.Spells w :=
  Iff.rfl

theorem spells_oneOf_cons {f : Expr} {rest : List Expr} {w : List Char} :
    (oneOf (e :: f :: rest)).Spells w ↔ e.Spells w ∨ (oneOf (f :: rest)).Spells w :=
  Iff.rfl

theorem spells_star {set : CharSet} {w : List Char} :
    (star set).Spells w ↔ ∀ x ∈ w, set.contains x = true := by
  simp [star, Spells, Times.Allows]

theorem spells_plus {set : CharSet} {w : List Char} :
    (plus set).Spells w ↔ w ≠ [] ∧ ∀ x ∈ w, set.contains x = true := by
  have hLeast : 1 ≤ w.length ↔ w ≠ [] := List.length_pos_iff
  simp [plus, Spells, Times.Allows, hLeast]

theorem matches_text_iff {s : String} :
    (Expr.text s).Matches text i j m m' ↔
      s.toList <+: text.drop i ∧ j = i + s.toList.length ∧ m' = m := by
  rw [Expr.text]
  induction s.toList generalizing i with
  | nil =>
    constructor
    · rintro ⟨hStop, hMemory⟩
      exact ⟨List.nil_prefix, hStop, hMemory⟩
    · rintro ⟨-, hStop, hMemory⟩
      exact ⟨hStop, hMemory⟩
  | cons c cs ih =>
    have hHead : c :: cs <+: text.drop i ↔
        text[i]? = some c ∧ cs <+: text.drop (i + 1) := by
      rw [← List.head?_drop, ← List.tail_drop]
      cases text.drop i with
      | nil => simp
      | cons x rest => simp [List.cons_prefix_cons, eq_comm]
    rw [hHead, List.length_cons]
    constructor
    · rintro ⟨k, u, ⟨⟨x, hx, hSet⟩, rfl, rfl⟩, hRest⟩
      rw [CharSet.contains_single, beq_iff_eq] at hSet
      obtain ⟨hPrefix, hStop, hMemory⟩ := ih.mp hRest
      exact ⟨⟨hSet ▸ hx, hPrefix⟩, by omega, hMemory⟩
    · rintro ⟨⟨hc, hPrefix⟩, hStop, hMemory⟩
      exact ⟨i + 1, m, ⟨⟨c, hc, beq_self_eq_true c⟩, rfl, rfl⟩,
        ih.mpr ⟨hPrefix, by omega, hMemory⟩⟩

theorem matchAt_text_iff {s : String} (hs : s ≠ "") :
    (Expr.text s).MatchAt text i j ↔ s.toList <+: text.drop i ∧ j = i + s.toList.length := by
  constructor
  · rintro ⟨-, -, m, hMatch⟩
    obtain ⟨hPrefix, hStop, -⟩ := matches_text_iff.mp hMatch
    exact ⟨hPrefix, hStop⟩
  · rintro ⟨hPrefix, rfl⟩
    have hLength := hPrefix.length_le
    have hPositive : 0 < s.toList.length := by
      rw [List.length_pos_iff]
      exact fun hNil => hs (String.toList_eq_nil_iff.mp hNil)
    rw [List.length_drop] at hLength
    exact ⟨by omega, by omega, .blank, matches_text_iff.mpr ⟨hPrefix, rfl, rfl⟩⟩

/-! ## Words with something that must not follow -/

theorem matches_all_cons {rest : List Expr} :
    (all (e :: rest)).Matches text i j m m' ↔
      ∃ k u, e.Matches text i k m u ∧ (all rest).Matches text k j u m' := by
  cases rest with
  | nil =>
    constructor
    · intro h
      exact ⟨j, m', h, rfl, rfl⟩
    · rintro ⟨k, u, h, rfl, rfl⟩
      exact h
  | cons f rest => exact Iff.rfl

theorem matches_all_append {parts rest : List Expr} :
    (all (parts ++ rest)).Matches text i j m m' ↔
      ∃ k u, (all parts).Matches text i k m u ∧ (all rest).Matches text k j u m' := by
  induction parts generalizing i m with
  | nil =>
    constructor
    · intro h
      exact ⟨i, m, ⟨rfl, rfl⟩, h⟩
    · rintro ⟨k, u, ⟨rfl, rfl⟩, h⟩
      exact h
  | cons e parts ih =>
    rw [List.cons_append, matches_all_cons]
    simp only [ih, matches_all_cons]
    constructor
    · rintro ⟨k, u, he, l, v, hParts, hRest⟩
      exact ⟨l, v, ⟨k, u, he, hParts⟩, hRest⟩
    · rintro ⟨l, v, ⟨k, u, he, hParts⟩, hRest⟩
      exact ⟨k, u, he, l, v, hParts, hRest⟩

theorem matches_notAhead_iff {guard : Expr} (hBare : guard.isBare = true)
    (hi : i ≤ text.length) :
    (notAhead guard).Matches text i j m m' ↔
      (∀ v, guard.Spells v → ¬v <+: text.drop i) ∧ j = i ∧ m' = m := by
  have hFound : (∃ k u, guard.Matches text i k m u) ↔ ∃ v, guard.Spells v ∧ v <+: text.drop i := by
    constructor
    · rintro ⟨k, u, h⟩
      exact ⟨_, h.spells hi, extract_prefix_drop text i k⟩
    · rintro ⟨v, hv, hPrefix⟩
      have hLength := hPrefix.length_le
      rw [List.length_drop] at hLength
      rw [← extract_of_prefix_drop hPrefix] at hv
      exact ⟨i + v.length, m, matches_of_spells hBare (by omega) (by omega) hv m⟩
  rw [notAhead, Matches, hFound]
  simp only [Bool.false_eq_true, false_iff, not_exists, not_and]

/-- A row of expressions with a condition on what follows matches where the text goes on with one of
the row's words and then does not go on with what the condition forbids. -/
theorem exists_matchAt_guarded_iff {parts : List Expr} {guard : Expr}
    (hParts : (all parts).isBare = true) (hGuard : guard.isBare = true) (hi : i ≤ text.length) :
    (∃ j, (all (parts ++ [notAhead guard])).MatchAt text i j) ↔
      ∃ w rest, text.drop i = w ++ rest ∧ (all parts).Spells w ∧
        ∀ v, guard.Spells v → ¬v <+: rest := by
  constructor
  · rintro ⟨j, -, -, m, hMatch⟩
    obtain ⟨k, u, hWord, hAhead⟩ := matches_all_append.mp hMatch
    have hk := hWord.le_length hi
    refine ⟨text.extract i k, text.drop k, ?_, hWord.spells hi,
      ((matches_notAhead_iff hGuard hk).mp hAhead).1⟩
    rw [List.extract_eq_take_drop, ← Nat.add_sub_cancel' hWord.le, ← List.drop_drop,
      Nat.add_sub_cancel_left, List.take_append_drop]
  · rintro ⟨w, rest, hText, hWord, hAhead⟩
    have hPrefix : w <+: text.drop i := hText ▸ List.prefix_append w rest
    have hLength := hPrefix.length_le
    rw [List.length_drop] at hLength
    have hRest : text.drop (i + w.length) = rest := by
      rw [← List.drop_drop, hText, List.drop_left]
    rw [← extract_of_prefix_drop hPrefix] at hWord
    refine ⟨i + w.length, by omega, by omega, .blank, matches_all_append.mpr ⟨i + w.length, .blank,
      matches_of_spells hParts (by omega) (by omega) hWord .blank, ?_⟩⟩
    exact (matches_notAhead_iff hGuard (by omega)).mpr ⟨hRest ▸ hAhead, rfl, rfl⟩

/-! ## Words that come twice -/

theorem isGroupFree_of_isBare (h : e.isBare = true) : e.isGroupFree = true := by
  induction e with
  | seq e f ihe ihf =>
    rw [isBare, Bool.and_eq_true] at h
    rw [isGroupFree, ihe h.1, ihf h.2]
    rfl
  | alt e f ihe ihf =>
    rw [isBare, Bool.and_eq_true] at h
    rw [isGroupFree, ihe h.1, ihf h.2]
    rfl
  | empty | char | chars => rfl
  | many | group | backref | atomic | cond | anchor | look => cases h

/-- A row of expressions that begins with a group and refers back to it once occurs in a text that
holds a word of the group, words of what stands between, the same word again, and words of the
rest. -/
theorem exists_matchAt_repeating_iff {n : Nat} {first : Expr} {middle last : List Expr}
    (hFirst : first.isBare = true) (hMiddle : (all middle).isBare = true)
    (hLast : (all last).isBare = true) :
    (∃ i j, (all ((group n first :: middle) ++ (backref n :: last))).MatchAt text i j) ↔
      ∃ word between rest, word ++ between ++ word ++ rest <:+: text ∧ first.Spells word ∧
        (all middle).Spells between ∧ (all last).Spells rest := by
  have hExact : CaseMode.exact.small = id := funext CaseMode.small_exact
  constructor
  · rintro ⟨i, j, hij, hj, m, hMatch⟩
    have hi := Nat.le_trans hij hj
    obtain ⟨k, u, hHead, hTail⟩ := matches_all_append.mp hMatch
    obtain ⟨a, v, ⟨v', hWord, rfl⟩, hBetween⟩ := matches_all_cons.mp hHead
    obtain ⟨b, x, ⟨word, hHeld, hkb, hb, hSame, rfl⟩, hRest⟩ := matches_all_cons.mp hTail
    have ha := hWord.le_length hi
    rw [hBetween.memory_eq (isGroupFree_of_isBare hMiddle), Memory.put, if_pos rfl,
      Option.some.injEq] at hHeld
    rw [hExact, List.map_id, List.map_id] at hSame
    rw [← hHeld] at hSame
    refine ⟨text.extract i a, text.extract a k, text.extract b j, ?_, hWord.spells hi,
      hBetween.spells ha, hRest.spells hb⟩
    have hik := Nat.le_trans hWord.le hBetween.le
    refine infix_iff_exists_extract.mpr ⟨i, j, hij, hj, ?_⟩
    calc text.extract i j
        = text.extract i k ++ text.extract k b ++ text.extract b j := by
          rw [extract_append_extract text hik hkb,
            extract_append_extract text (Nat.le_trans hik hkb) hRest.le]
      _ = text.extract i a ++ text.extract a k ++ text.extract i a ++ text.extract b j := by
          rw [hSame, extract_append_extract text hWord.le hBetween.le]
  · rintro ⟨word, between, rest, hInfix, hWord, hBetween, hRest⟩
    obtain ⟨i, j, hij, hj, hStretch⟩ := infix_iff_exists_extract.mp hInfix
    obtain ⟨b, hib, hbj, hTwice, rfl⟩ := exists_split_of_extract_eq_append hij hj hStretch
    obtain ⟨k, hik, hkb, hOnce, hAgain⟩ :=
      exists_split_of_extract_eq_append hib (by omega) hTwice
    obtain ⟨a, hia, hak, rfl, rfl⟩ := exists_split_of_extract_eq_append hik (by omega) hOnce
    refine ⟨i, j, hij, hj, _, matches_all_append.mpr ⟨k, _,
      matches_all_cons.mpr ⟨a, _, ⟨.blank, matches_of_spells hFirst hia (by omega) hWord _, rfl⟩,
        matches_of_spells hMiddle hak (by omega) hBetween _⟩,
      matches_all_cons.mpr ⟨b, _, ⟨_, if_pos rfl, hkb, by omega, ?_, rfl⟩,
        matches_of_spells hLast hbj hj hRest _⟩⟩⟩
    rw [hAgain]

end Expr

end ContractAudit.Regex
