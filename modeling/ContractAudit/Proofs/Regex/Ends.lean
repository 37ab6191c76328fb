import ContractAudit.Proofs.Regex.Meaning

/-!
# The two ends of a match

Whether every match of an expression starts, or ends, with a character other than white space can
often be told from the shape of the expression. The tests below err on the side of refusing.
-/

namespace ContractAudit.Text

theorem blankRanges_disjoint :
    ∀ r ∈ blankRanges, ∀ q ∈ alphanumericRanges, r.2 < q.1 ∨ q.2 < r.1 := by
  decide +kernel

theorem isWord_of_isBlank {c : Char} (h : isBlank c = true) : isWord c = false := by
  obtain ⟨r, hr, hLo, hHi⟩ := Ranges.contains_iff.mp h
  by_cases hAscii : c.toNat < 0x80
  · have hCodes : ∀ n < 0x80, (∃ r ∈ blankRanges, r.1 ≤ n ∧ n ≤ r.2) →
        ((Char.ofNat n).isAlphanum || Char.ofNat n == '_') = false := by
      decide +kernel
    have hCode := hCodes c.toNat hAscii ⟨r, hr, hLo, hHi⟩
    rwa [Char.ofNat_toNat, ← isWord_ascii hAscii] at hCode
  · rw [isWord, if_neg hAscii, ← Bool.not_eq_true, Ranges.contains_iff]
    rintro ⟨q, hq, hLo', hHi'⟩
    have hApart := blankRanges_disjoint r hr q hq
    omega

end ContractAudit.Text

namespace ContractAudit.Regex

namespace CharSet

def solid : CharSet :=
  compl blank

def isSolid : CharSet → Bool
  | empty => true
  | single c => !Text.isBlank c
  | range lo hi => Text.blankRanges.all fun r => r.2 < lo || hi < r.1
  | word => true
  | union s t => s.isSolid && t.isSolid
  | blank | digit | compl _ | form _ _ | anyCase _ _ _ => false

theorem contains_solid (x : Char) : solid.contains x = !Text.isBlank x := rfl

theorem contains_solid_of_isSolid {s : CharSet} (h : s.isSolid = true) {x : Char}
    (hx : s.contains x = true) : solid.contains x = true := by
  rw [contains_solid, Bool.not_eq_true']
  induction s with
  | empty => cases hx
  | single c =>
    rw [contains_single, beq_iff_eq] at hx
    rw [hx]
    simpa [isSolid] using h
  | range lo hi =>
    simp only [contains, Bool.and_eq_true, decide_eq_true_eq] at hx
    rw [isSolid, List.all_eq_true] at h
    rw [← Bool.not_eq_true]
    intro hBlank
    obtain ⟨r, hr, hLo, hHi⟩ := Text.Ranges.contains_iff.mp hBlank
    have hApart := h r hr
    simp only [Bool.or_eq_true, decide_eq_true_eq] at hApart
    omega
  | word =>
    rw [← Bool.not_eq_true]
    intro hBlank
    exact Bool.false_ne_true ((Text.isWord_of_isBlank hBlank).symm.trans hx)
  | union s t ihs iht =>
    rw [isSolid, Bool.and_eq_true] at h
    rw [contains_union, Bool.or_eq_true] at hx
    exact hx.elim (ihs h.1) (iht h.2)
  | blank => cases h
  | digit => cases h
  | compl s _ => cases h
  | form f s _ => cases h
  | anyCase mode lo hi => cases h

theorem startsAt_solid {s : CharSet} (h : s.isSolid = true) {text : List Char} {i : Nat}
    (hStart : s.StartsAt text i) : solid.StartsAt text i := by
  obtain ⟨x, hx, hSet⟩ := hStart
  exact ⟨x, hx, contains_solid_of_isSolid h hSet⟩

end CharSet

namespace Expr

def isWeightless (e : Expr) : Bool :=
  e.ownWidth = .exactly 0

def startsSolid : Expr → Bool
  | char set => set.isSolid
  | chars set t => 0 < t.least && set.isSolid
  | seq e f => e.startsSolid || e.isWeightless && f.startsSolid
  | alt e f => e.startsSolid && f.startsSolid
  | group _ e => e.startsSolid
  | empty | many _ _ | backref _ _ | atomic _ | cond _ _ _ | anchor _ | look _ _ _ => false

def endsSolid : Expr → Bool
  | char set => set.isSolid
  | chars set t => 0 < t.least && set.isSolid
  | seq e f => f.endsSolid || f.isWeightless && e.endsSolid
  | alt e f => e.endsSolid && f.endsSolid
  | group _ e => e.endsSolid
  | empty | many _ _ | backref _ _ | atomic _ | cond _ _ _ | anchor _ | look _ _ _ => false

end Expr

namespace Expr.Matches

variable {text : List Char} {e : Expr} {i j : Nat} {m m' : Memory}

theorem eq_of_isWeightless (h : e.Matches text i j m m') (hWidth : e.isWeightless = true) :
    j = i := by
  have hAdmits := h.admits
  rw [of_decide_eq_true hWidth, Width.admits_exactly_iff] at hAdmits
  have hLe := h.le
  omega

theorem contains_of_chars {set : CharSet} {t : Times} (h : (chars set t).Matches text i j m m')
    {k : Nat} (hi : i ≤ k) (hj : k < j) : ∃ x, text[k]? = some x ∧ set.contains x = true := by
  obtain ⟨-, hBound, -, hSet, -⟩ := h
  refine ⟨text[k], List.getElem?_eq_getElem (by omega), hSet _ ?_⟩
  rw [List.extract_eq_take_drop, List.mem_iff_getElem?]
  refine ⟨k - i, ?_⟩
  rw [List.getElem?_take, if_pos (by omega), List.getElem?_drop, Nat.add_sub_cancel' hi]
  exact List.getElem?_eq_getElem (by omega)

theorem startsAt_solid (h : e.Matches text i j m m') (hSolid : e.startsSolid = true) :
    CharSet.solid.StartsAt text i := by
  induction e generalizing i j m m' with
  | char set => exact CharSet.startsAt_solid hSolid h.1
  | chars set t =>
    rw [startsSolid, Bool.and_eq_true, decide_eq_true_eq] at hSolid
    have hLeast := h.2.2.1.1
    exact CharSet.startsAt_solid hSolid.2 (h.contains_of_chars (Nat.le_refl i) (by omega))
  | seq e f ihe ihf =>
    obtain ⟨k, u, he, hf⟩ := h
    rw [startsSolid, Bool.or_eq_true, Bool.and_eq_true] at hSolid
    rcases hSolid with hFirst | ⟨hWidth, hSecond⟩
    · exact ihe he hFirst
    · exact he.eq_of_isWeightless hWidth ▸ ihf hf hSecond
  | alt e f ihe ihf =>
    rw [startsSolid, Bool.and_eq_true] at hSolid
    exact h.elim (ihe · hSolid.1) (ihf · hSolid.2)
  | group n e ih =>
    obtain ⟨u, he, -⟩ := h
    exact ih he hSolid
  | empty => cases hSolid
  | many e t _ => cases hSolid
  | backref n mode => cases hSolid
  | atomic e _ => cases hSolid
  | cond n e f _ _ => cases hSolid
  | anchor a => cases hSolid
  | look back positive e _ => cases hSolid

theorem endsAt_solid (h : e.Matches text i j m m') (hSolid : e.endsSolid = true) :
    CharSet.solid.EndsAt text j := by
  induction e generalizing i j m m' with
  | char set =>
    obtain ⟨hStart, rfl, -⟩ := h
    exact ⟨Nat.succ_pos i, CharSet.startsAt_solid hSolid hStart⟩
  | chars set t =>
    rw [endsSolid, Bool.and_eq_true, decide_eq_true_eq] at hSolid
    have hLeast := h.2.2.1.1
    have hLast := h.contains_of_chars (k := j - 1) (by omega) (by omega)
    exact ⟨by omega, CharSet.startsAt_solid hSolid.2 hLast⟩
  | seq e f ihe ihf =>
    obtain ⟨k, u, he, hf⟩ := h
    rw [endsSolid, Bool.or_eq_true, Bool.and_eq_true] at hSolid
    rcases hSolid with hSecond | ⟨hWidth, hFirst⟩
    · exact ihf hf hSecond
    · exact hf.eq_of_isWeightless hWidth ▸ ihe he hFirst
  | alt e f ihe ihf =>
    rw [endsSolid, Bool.and_eq_true] at hSolid
    exact h.elim (ihe · hSolid.1) (ihf · hSolid.2)
  | group n e ih =>
    obtain ⟨u, he, -⟩ := h
    exact ih he hSolid
  | empty => cases hSolid
  | many e t _ => cases hSolid
  | backref n mode => cases hSolid
  | atomic e _ => cases hSolid
  | cond n e f _ _ => cases hSolid
  | anchor a => cases hSolid
  | look back positive e _ => cases hSolid

end Expr.Matches

end ContractAudit.Regex
