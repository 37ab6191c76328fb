import ContractAudit.Text.Lowercase
import Mathlib.Data.Bool.AllAny
import Mathlib.Data.List.Forall2

/-!
# Which texts have a given word for their small letters

Two characters beyond ASCII have an ASCII letter for a small form: a dotted capital i and the kelvin
sign. The first of them becomes two characters in a text in small letters. So a word without a `k`
is the small form of exactly those texts that spell it in capital and small letters of ASCII.
-/

namespace ContractAudit.Text

/-- From beyond ASCII, the rule leads to ASCII only if it is one of those about a dotted capital i
and about the kelvin sign. -/
def CaseRule.StaysBeyondAscii (r : CaseRule) : Prop :=
  r.last < 0x80 ∨ 0x80 ≤ r.first + r.shift ∨ r = ⟨0x130, 0x130, 1, -199⟩ ∨
    r = ⟨0x212A, 0x212A, 1, -8383⟩

instance (r : CaseRule) : Decidable r.StaysBeyondAscii :=
  inferInstanceAs (Decidable (_ ∨ _ ∨ _ ∨ _))

theorem CaseRule.StaysBeyondAscii.image {r : CaseRule} (h : r.StaysBeyondAscii) {n m : Nat}
    (hn : 0x80 ≤ n) (hm : r.image? n = some m) :
    0x80 ≤ m ∨ n = 0x130 ∧ m = 0x69 ∨ n = 0x212A ∧ m = 0x6B := by
  rw [image?] at hm
  split at hm
  · rename_i hCovers
    simp only [covers, Bool.and_eq_true, decide_eq_true_eq] at hCovers
    obtain ⟨⟨hFirst, hLast⟩, -⟩ := hCovers
    have hm : (n + r.shift).toNat = m := Option.some.inj hm
    rcases h with h | h | rfl | rfl
    · omega
    · omega
    · simp only at hFirst hLast hm
      omega
    · simp only at hFirst hLast hm
      omega
  · cases hm

theorem staysBeyondAscii_smallRules : ∀ r ∈ smallRules, r.StaysBeyondAscii := by
  decide +kernel

theorem smallCode_of_beyond {n : Nat} (hn : 0x80 ≤ n) :
    0x80 ≤ smallCode n ∨ n = 0x130 ∧ smallCode n = 0x69 ∨ n = 0x212A ∧ smallCode n = 0x6B := by
  rw [smallCode, if_neg (Nat.not_lt.mpr hn)]
  cases hRule : smallRules.findSome? (·.image? n) with
  | none => exact .inl hn
  | some m =>
    obtain ⟨r, hr, hm⟩ := List.exists_of_findSome?_eq_some hRule
    exact (staysBeyondAscii_smallRules r hr).image hn hm

theorem toNat_small (c : Char) : (small c).toNat = smallCode c.toNat ∨ (small c).toNat = 0 := by
  by_cases hValid : (smallCode c.toNat).isValidChar
  · exact .inl (by rw [small, Char.ofNat, dif_pos hValid]; rfl)
  · exact .inr (by rw [small, Char.ofNat, dif_neg hValid]; rfl)

theorem small_of_ascii : ∀ n < 0x80, small (Char.ofNat n) = (Char.ofNat n).toLower := by
  decide +kernel

theorem toLower_of_beyond {c : Char} (hc : 0x80 ≤ c.toNat) : c.toLower = c := by
  refine dif_neg fun hCapital => ?_
  have hLast : c.toNat ≤ 90 := UInt32.le_iff_toNat_le.mp hCapital.2
  omega

def IsFormOf (letter c : Char) : Prop :=
  c = letter ∨ c = letter.toUpper

instance (letter c : Char) : Decidable (IsFormOf letter c) :=
  inferInstanceAs (Decidable (_ ∨ _))

def plainLetters : List Char :=
  "abcdefghijlmnopqrstuvwxyz".toList

theorem isFormOf_small_of_ascii : ∀ n < 0x80, small (Char.ofNat n) ∈ plainLetters →
    IsFormOf (small (Char.ofNat n)) (Char.ofNat n) := by
  decide +kernel

theorem small_forms :
    ∀ letter ∈ plainLetters, small letter = letter ∧ small letter.toUpper = letter :=
  List.all_iff_forall_prop.mp (by decide +kernel)

theorem bounds_of_mem_plainLetters {letter : Char} (h : letter ∈ plainLetters) :
    0 < letter.toNat ∧ letter.toNat < 0x80 ∧ letter.toNat ≠ 0x6B ∧ letter.toUpper.toNat < 0x80 := by
  have hAll : ∀ letter ∈ plainLetters, 0 < letter.toNat ∧ letter.toNat < 0x80 ∧
      letter.toNat ≠ 0x6B ∧ letter.toUpper.toNat < 0x80 :=
    List.all_iff_forall_prop.mp (by decide +kernel)
  exact hAll letter h

theorem not_isFormOf_of_beyond {letter c : Char} (h : letter ∈ plainLetters)
    (hc : 0x80 ≤ c.toNat) : ¬IsFormOf letter c := by
  obtain ⟨-, hSmall, -, hCapital⟩ := bounds_of_mem_plainLetters h
  rintro (rfl | rfl) <;> omega

theorem small_eq_iff_isFormOf {letter c : Char} (h : letter ∈ plainLetters) (hc : c ≠ '\u0130') :
    small c = letter ↔ IsFormOf letter c := by
  constructor
  · rintro rfl
    rcases Nat.lt_or_ge c.toNat 0x80 with hAscii | hBeyond
    · have hForm := isFormOf_small_of_ascii c.toNat hAscii
      rw [Char.ofNat_toNat] at hForm
      exact hForm h
    · obtain ⟨hLow, hHigh, hk, -⟩ := bounds_of_mem_plainLetters h
      have hDotted : c.toNat ≠ 0x130 := fun hSame => hc (Char.toNat_inj.mp hSame)
      have hCode := toNat_small c
      have hSmall := smallCode_of_beyond hBeyond
      omega
  · rintro (rfl | rfl)
    · exact (small_forms c h).1
    · exact (small_forms letter h).2

theorem toNat_smallSigma (before after : List Char) : 0x80 ≤ (smallSigma before after).toNat := by
  rw [smallSigma]
  split <;> decide

theorem smallForm_append_eq_cons_iff {letter : Char} {letters : List Char}
    (hLetter : letter ∈ plainLetters) (hLetters : ∀ x ∈ letters, x ∈ plainLetters)
    {before after rest : List Char} {c : Char} :
    smallForm before c after ++ rest = letter :: letters ↔ IsFormOf letter c ∧ rest = letters := by
  rw [smallForm]
  split
  · rename_i hSigma
    refine iff_of_false (fun hSame => ?_) fun hForm => ?_
    · have hBeyond := toNat_smallSigma before after
      rw [(List.cons_eq_cons.mp hSame).1] at hBeyond
      have hBound := (bounds_of_mem_plainLetters hLetter).2.1
      omega
    · exact not_isFormOf_of_beyond hLetter (hSigma ▸ by decide) hForm.1
  · split
    · rename_i hDotted
      refine iff_of_false (fun hSame => ?_) fun hForm => ?_
      · obtain ⟨-, hMark⟩ := List.cons_eq_cons.mp hSame
        have hPlain := hLetters '\u0307' (hMark ▸ List.mem_cons_self)
        revert hPlain
        decide
      · exact not_isFormOf_of_beyond hLetter (hDotted ▸ by decide) hForm.1
    · rename_i hDotted
      rw [List.singleton_append, List.cons_eq_cons, small_eq_iff_isFormOf hLetter hDotted]

theorem smallForm_ne_nil (before : List Char) (c : Char) (after : List Char) :
    smallForm before c after ≠ [] := by
  rw [smallForm]
  split
  · simp
  · split <;> simp

theorem lowercaseBehind_eq_iff {letters : List Char} (h : ∀ letter ∈ letters, letter ∈ plainLetters)
    {before text : List Char} :
    lowercaseBehind before text = letters ↔ List.Forall₂ IsFormOf letters text := by
  induction text generalizing before letters with
  | nil => rw [lowercaseBehind, List.forall₂_nil_right_iff, eq_comm]
  | cons c text ih =>
    rw [lowercaseBehind]
    cases letters with
    | nil => simp [smallForm_ne_nil]
    | cons letter letters =>
      obtain ⟨hLetter, hLetters⟩ := List.forall_mem_cons.mp h
      rw [smallForm_append_eq_cons_iff hLetter hLetters, ih hLetters, List.forall₂_cons]

/-- A word of plain letters is the small form of the texts that spell it, and of no others. -/
theorem lowercase_eq_iff {letters : List Char} (h : ∀ letter ∈ letters, letter ∈ plainLetters)
    {text : List Char} : lowercase text = letters ↔ List.Forall₂ IsFormOf letters text :=
  lowercaseBehind_eq_iff h

example : lowercase ['M', 'E', 'D', '\u0130', 'U', 'M'] =
    ['m', 'e', 'd', 'i', '\u0307', 'u', 'm'] := by
  decide +kernel

end ContractAudit.Text
