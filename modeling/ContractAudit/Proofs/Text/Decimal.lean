import ContractAudit.Text.Integer

/-!
# Decimal numerals

A whole number is written with digits and perhaps a hyphen in front. What is written is read back as
the same number, unless it has more digits than are read (`readInteger_toString`).
-/

namespace ContractAudit

theorem notMem_toString_nat {c : Char} (hDigit : c.isDigit = false) (n : Nat) :
    c ∉ (toString n).toList := by
  intro hc
  have hMem : c ∈ Nat.toDigits 10 n := by simpa using hc
  rw [Nat.isDigit_of_mem_toDigits (by decide) (by decide) hMem] at hDigit
  cases hDigit

theorem notMem_toString_int {c : Char} (hDigit : c.isDigit = false) (hSign : c ≠ '-') (n : Int) :
    c ∉ (toString n).toList := by
  rw [Int.toString_eq_repr, Int.repr_eq_if]
  split
  · exact notMem_toString_nat hDigit n.toNat
  · have hDigits := notMem_toString_nat hDigit (-n).toNat
    simpa [hSign] using hDigits

namespace Text

theorem isBlank_of_isDigit {c : Char} (h : c.isDigit = true) : isBlank c = false := by
  have hRange : 48 ≤ c.toNat ∧ c.toNat ≤ 57 := Char.isDigit_iff_toNat.mp h
  rw [isBlank, Ranges.contains, List.any_eq_false]
  intro r hr
  have hApart : ∀ r ∈ blankRanges, r.2 < 48 ∨ 57 < r.1 := by decide
  have := hApart r hr
  simp only [Bool.and_eq_true, decide_eq_true_eq]
  omega

theorem isBlank_of_mem_toString {n : Int} {c : Char} (h : c ∈ (toString n).toList) :
    isBlank c = false := by
  by_cases hSign : c = '-'
  · subst hSign
    decide
  · cases hDigit : c.isDigit with
    | true => exact isBlank_of_isDigit hDigit
    | false => exact absurd h (notMem_toString_int hDigit hSign n)

theorem digitValue?_of_isDigit {c : Char} (h : c.isDigit = true) :
    digitValue? c = some (c.toNat - 48) := by
  have hRange : 48 ≤ c.toNat ∧ c.toNat ≤ 57 := Char.isDigit_iff_toNat.mp h
  rw [digitValue?, zeros, List.find?_cons_of_pos]
  · rfl
  · simp only [Bool.and_eq_true, decide_eq_true_eq]
    omega

theorem readDigits_eq_map {digits : List Char} (hSome : digits ≠ [])
    (hDigits : ∀ c ∈ digits, c.isDigit = true) :
    readDigits digits = some (digits.map (·.toNat - 48)) := by
  fun_induction readDigits digits with
  | case1 => exact absurd rfl hSome
  | case2 c =>
    rw [digitValue?_of_isDigit (hDigits c List.mem_cons_self)]
    rfl
  | case3 c rest =>
    cases hDigits '_' (List.mem_cons_of_mem c List.mem_cons_self)
  | case4 c d rest hd ih =>
    obtain ⟨hc, hRest⟩ := List.forall_mem_cons.mp hDigits
    rw [digitValue?_of_isDigit hc, ih (List.cons_ne_nil _ _) hRest]
    rfl

def IsShort (n : Int) : Prop :=
  (Nat.toDigits 10 n.natAbs).length ≤ digitLimit

instance (n : Int) : Decidable (IsShort n) :=
  inferInstanceAs (Decidable (_ ≤ _))

theorem readNatural_toDigits {n : Nat} (h : (Nat.toDigits 10 n).length ≤ digitLimit) :
    readNatural (Nat.toDigits 10 n) = some n := by
  have hDigits : ∀ c ∈ Nat.toDigits 10 n, c.isDigit = true := fun c hc =>
    Nat.isDigit_of_mem_toDigits (by decide) (by decide) hc
  have hValue : ((Nat.toDigits 10 n).map (·.toNat - 48)).foldl (fun m d => m * 10 + d) 0 = n := by
    calc ((Nat.toDigits 10 n).map (·.toNat - 48)).foldl (fun m d => m * 10 + d) 0
      _ = Nat.ofDigitChars 10 (Nat.toDigits 10 n) 0 := by
        rw [List.foldl_map, Nat.ofDigitChars]
        simp only [Nat.mul_comm]
        rfl
      _ = n := Nat.ofDigitChars_toDigits (by decide) (by decide)
  rw [readNatural, readDigits_eq_map Nat.toDigits_ne_nil hDigits]
  change (if digitLimit < ((Nat.toDigits 10 n).map (·.toNat - 48)).length then none else some _) = _
  rw [if_neg (by rw [List.length_map]; omega), hValue]

theorem toList_toString_of_nonneg (n : Nat) : (toString (n : Int)).toList = Nat.toDigits 10 n := by
  simp [Int.repr_eq_if]

theorem toList_toString_of_neg (n : Nat) :
    (toString (Int.negSucc n)).toList = '-' :: Nat.toDigits 10 (n + 1) := by
  simp [Int.repr_eq_if]

theorem readInteger_toString {n : Int} (h : IsShort n) :
    readInteger (toString n) = some n := by
  have hSolid : ∀ c ∈ (toString n).toList, isNumberBlank c = false := by
    intro c hc
    rw [isNumberBlank, isBlank_of_mem_toString hc, Bool.false_and]
  have hBack : ∀ c ∈ (toString n).toList.reverse, isNumberBlank c = false := fun c hc =>
    hSolid c (List.mem_reverse.mp hc)
  simp only [readInteger, dropWhile_eq_self hSolid, dropWhile_eq_self hBack, List.reverse_reverse]
  cases n with
  | ofNat n =>
    rw [Int.ofNat_eq_natCast, toList_toString_of_nonneg]
    have hDigit : ∀ c ∈ Nat.toDigits 10 n, c.isDigit = true := fun c hc =>
      Nat.isDigit_of_mem_toDigits (by decide) (by decide) hc
    split
    · rename_i hSign
      cases hDigit '+' (hSign ▸ List.mem_cons_self)
    · rename_i hSign
      cases hDigit '-' (hSign ▸ List.mem_cons_self)
    · rw [readNatural_toDigits (n := n) h]
      rfl
  | negSucc n =>
    rw [toList_toString_of_neg]
    simp only [readNatural_toDigits (n := n + 1) h]
    rfl

end Text

end ContractAudit
