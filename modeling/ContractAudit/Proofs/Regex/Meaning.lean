import ContractAudit.Regex.Matcher

/-!
# What an expression means

`Expr.Matches` says which stretches of a text an expression describes, in their surroundings and
without regard to the order in which a matcher tries things. Expressions whose meaning lies in that
order (possessive repetitions, atomic groups, conditions on a group, repetitions of something other
than a character) have no such reading; `Expr.isPlain` tells those that have one.
-/

namespace ContractAudit.Regex

abbrev Memory := Nat → Option (List Char)

namespace Memory

def blank : Memory := fun _ => none

def put (m : Memory) (index : Nat) (word : List Char) : Memory := fun n =>
  if n = index then some word else m n

end Memory

def Times.Allows (t : Times) (n : Nat) : Prop :=
  t.least ≤ n ∧ ∀ most ∈ t.most, n ≤ most

def CharSet.EndsAt (set : CharSet) (text : List Char) (i : Nat) : Prop :=
  0 < i ∧ ∃ x, text[i - 1]? = some x ∧ set.contains x = true

def CharSet.StartsAt (set : CharSet) (text : List Char) (i : Nat) : Prop :=
  ∃ x, text[i]? = some x ∧ set.contains x = true

def Anchor.HoldsAt (text : List Char) (i : Nat) : Anchor → Prop
  | textStart => i = 0
  | textEnd => i = text.length
  | lastLineEnd => i = text.length ∨ text.drop i = ['\n']
  | lineStart => i = 0 ∨ (CharSet.single '\n').EndsAt text i
  | lineEnd => i = text.length ∨ (CharSet.single '\n').StartsAt text i
  | wordEdge => ¬(CharSet.word.EndsAt text i ↔ CharSet.word.StartsAt text i)
  | noWordEdge => text ≠ [] ∧ (CharSet.word.EndsAt text i ↔ CharSet.word.StartsAt text i)
  | asciiWordEdge => ¬(CharSet.asciiWord.EndsAt text i ↔ CharSet.asciiWord.StartsAt text i)
  | noAsciiWordEdge =>
    text ≠ [] ∧ (CharSet.asciiWord.EndsAt text i ↔ CharSet.asciiWord.StartsAt text i)

namespace Expr

/-- The expression describes the text from `i` to `j`. The groups hold `m` before and `m'` behind
it. Looking ahead asks for a stretch that starts here, and looking back for one that ends here. -/
def Matches (text : List Char) : Expr → Nat → Nat → Memory → Memory → Prop
  | empty, i, j, m, m' => j = i ∧ m' = m
  | char set, i, j, m, m' => set.StartsAt text i ∧ j = i + 1 ∧ m' = m
  | seq e f, i, j, m, m' => ∃ k u, e.Matches text i k m u ∧ f.Matches text k j u m'
  | alt e f, i, j, m, m' => e.Matches text i j m m' ∨ f.Matches text i j m m'
  | chars set t, i, j, m, m' =>
    i ≤ j ∧ j ≤ text.length ∧ t.Allows (j - i) ∧
      (∀ x ∈ text.extract i j, set.contains x = true) ∧ m' = m
  | group n e, i, j, m, m' => ∃ u, e.Matches text i j m u ∧ m' = u.put n (text.extract i j)
  | backref n mode, i, j, m, m' =>
    ∃ word, m n = some word ∧ i ≤ j ∧ j ≤ text.length ∧
      (text.extract i j).map mode.small = word.map mode.small ∧ m' = m
  | anchor a, i, j, m, m' => a.HoldsAt text i ∧ j = i ∧ m' = m
  | look 0 positive e, i, j, m, m' =>
    (positive = true ↔ ∃ k u, e.Matches text i k m u) ∧ j = i ∧ m' = m
  | look (_ + 1) positive e, i, j, m, m' =>
    (positive = true ↔ ∃ k u, e.Matches text k i m u) ∧ j = i ∧ m' = m
  | many _ _, _, _, _, _ => False
  | atomic _, _, _, _, _ => False
  | cond _ _ _, _, _, _, _ => False

def MatchAt (e : Expr) (text : List Char) (i j : Nat) : Prop :=
  i ≤ j ∧ j ≤ text.length ∧ ∃ m, e.Matches text i j .blank m

def isGroupFree : Expr → Bool
  | empty | char _ | chars _ _ | backref _ _ | anchor _ => true
  | seq e f | alt e f | cond _ e f => e.isGroupFree && f.isGroupFree
  | many e _ | atomic e | look _ _ e => e.isGroupFree
  | group _ _ => false

def ownWidth (e : Expr) : Width :=
  e.width fun _ => ⟨0, none⟩

/-- The order of attempts makes no difference to what the expression can match. What is looked for
around a place remembers nothing, and looking back goes back over as much as can be matched. -/
def isPlain : Expr → Bool
  | empty | char _ | backref _ _ | anchor _ => true
  | seq e f | alt e f => e.isPlain && f.isPlain
  | chars _ t => t.preference ≠ .possessive
  | group _ e => e.isPlain
  | look back _ e =>
    e.isPlain && e.isGroupFree && (back = 0 || e.ownWidth = .exactly back)
  | many _ _ | atomic _ | cond _ _ _ => false

end Expr

def Width.Admits (w : Width) (n : Nat) : Prop :=
  w.least ≤ n ∧ ∀ most ∈ w.most, n ≤ most

namespace Width

theorem admits_exactly_iff {k n : Nat} : (exactly k).Admits n ↔ n = k := by
  simp only [Admits, exactly, Option.mem_def, Option.some.injEq, forall_eq']
  omega

theorem Admits.add {a b : Width} {k n : Nat} (ha : a.Admits k) (hb : b.Admits n) :
    (a.add b).Admits (k + n) := by
  refine ⟨Nat.add_le_add ha.1 hb.1, ?_⟩
  intro most hMost
  obtain ⟨x, hx, hRest⟩ := Option.bind_eq_some_iff.mp hMost
  obtain ⟨y, hy, rfl⟩ := Option.map_eq_some_iff.mp hRest
  exact Nat.add_le_add (ha.2 x hx) (hb.2 y hy)

theorem admits_either {a b : Width} {n : Nat} (h : a.Admits n ∨ b.Admits n) :
    (a.either b).Admits n := by
  constructor
  · rcases h with h | h
    · exact Nat.le_trans (Nat.min_le_left _ _) h.1
    · exact Nat.le_trans (Nat.min_le_right _ _) h.1
  · intro most hMost
    obtain ⟨x, hx, hRest⟩ := Option.bind_eq_some_iff.mp hMost
    obtain ⟨y, hy, rfl⟩ := Option.map_eq_some_iff.mp hRest
    rcases h with h | h
    · exact Nat.le_trans (h.2 x hx) (Nat.le_max_left _ _)
    · exact Nat.le_trans (h.2 y hy) (Nat.le_max_right _ _)

theorem admits_times_of_allows {t : Times} {n : Nat} (h : t.Allows n) :
    ((exactly 1).times t).Admits n := by
  obtain ⟨least, most, preference⟩ := t
  refine ⟨by simpa [times, exactly] using h.1, ?_⟩
  intro bound hBound
  apply h.2
  cases most with
  | none => cases hBound
  | some k =>
    cases k with
    | zero => exact hBound
    | succ k => simpa [times, exactly] using hBound

end Width

namespace Expr.Matches

variable {text : List Char} {e : Expr} {i j : Nat} {m m' : Memory}

theorem le (h : e.Matches text i j m m') : i ≤ j := by
  induction e generalizing i j m m' with
  | empty => exact Nat.le_of_eq h.1.symm
  | char set => exact Nat.le_of_lt (h.2.1 ▸ Nat.lt_succ_self i)
  | seq e f ihe ihf =>
    obtain ⟨k, u, he, hf⟩ := h
    exact Nat.le_trans (ihe he) (ihf hf)
  | alt e f ihe ihf => exact h.elim ihe ihf
  | chars set t => exact h.1
  | group n e ih =>
    obtain ⟨u, he, -⟩ := h
    exact ih he
  | backref n mode =>
    obtain ⟨word, -, hLe, -⟩ := h
    exact hLe
  | anchor a => exact Nat.le_of_eq h.2.1.symm
  | look back positive e _ => cases back <;> exact Nat.le_of_eq h.2.1.symm
  | many e t _ => cases h
  | atomic e _ => cases h
  | cond n e f _ _ => cases h

theorem le_length (h : e.Matches text i j m m') (hi : i ≤ text.length) : j ≤ text.length := by
  induction e generalizing i j m m' with
  | empty => exact h.1 ▸ hi
  | char set =>
    obtain ⟨⟨x, hx, -⟩, rfl, -⟩ := h
    exact (List.getElem?_eq_some_iff.mp hx).1
  | seq e f ihe ihf =>
    obtain ⟨k, u, he, hf⟩ := h
    exact ihf hf (ihe he hi)
  | alt e f ihe ihf => exact h.elim (ihe · hi) (ihf · hi)
  | chars set t => exact h.2.1
  | group n e ih =>
    obtain ⟨u, he, -⟩ := h
    exact ih he hi
  | backref n mode =>
    obtain ⟨word, -, -, hLe, -⟩ := h
    exact hLe
  | anchor a => exact h.2.1 ▸ hi
  | look back positive e _ => cases back <;> exact h.2.1 ▸ hi
  | many e t _ => cases h
  | atomic e _ => cases h
  | cond n e f _ _ => cases h

theorem memory_eq (h : e.Matches text i j m m') (hFree : e.isGroupFree = true) : m' = m := by
  induction e generalizing i j m m' with
  | empty => exact h.2
  | char set => exact h.2.2
  | seq e f ihe ihf =>
    obtain ⟨k, u, he, hf⟩ := h
    rw [isGroupFree, Bool.and_eq_true] at hFree
    rw [ihf hf hFree.2, ihe he hFree.1]
  | alt e f ihe ihf =>
    rw [isGroupFree, Bool.and_eq_true] at hFree
    exact h.elim (ihe · hFree.1) (ihf · hFree.2)
  | chars set t => exact h.2.2.2.2
  | group n e ih => cases hFree
  | backref n mode =>
    obtain ⟨word, -, -, -, -, hMemory⟩ := h
    exact hMemory
  | anchor a => exact h.2.2
  | look back positive e _ => cases back <;> exact h.2.2
  | many e t _ => cases h
  | atomic e _ => cases h
  | cond n e f _ _ => cases h

theorem admits (h : e.Matches text i j m m') : e.ownWidth.Admits (j - i) := by
  induction e generalizing i j m m' with
  | empty => exact Width.admits_exactly_iff.mpr (by rw [h.1, Nat.sub_self])
  | char set => exact Width.admits_exactly_iff.mpr (by rw [h.2.1, Nat.add_sub_cancel_left])
  | seq e f ihe ihf =>
    obtain ⟨k, u, he, hf⟩ := h
    have hSum : j - i = (k - i) + (j - k) := by
      have := he.le
      have := hf.le
      omega
    rw [hSum]
    exact (ihe he).add (ihf hf)
  | alt e f ihe ihf => exact Width.admits_either (h.imp ihe ihf)
  | chars set t => exact Width.admits_times_of_allows h.2.2.1
  | group n e ih =>
    obtain ⟨u, he, -⟩ := h
    exact ih he
  | backref n mode => exact ⟨Nat.zero_le _, fun _ hMost => nomatch hMost⟩
  | anchor a => exact Width.admits_exactly_iff.mpr (by rw [h.2.1, Nat.sub_self])
  | look back positive e _ =>
    cases back <;> exact Width.admits_exactly_iff.mpr (by rw [h.2.1, Nat.sub_self])
  | many e t _ => cases h
  | atomic e _ => cases h
  | cond n e f _ _ => cases h

end Expr.Matches

end ContractAudit.Regex
