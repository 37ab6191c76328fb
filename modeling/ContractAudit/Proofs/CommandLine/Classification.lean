import ContractAudit.CommandLine.Commands
import ContractAudit.Proofs.Fallible
import ContractAudit.Proofs.Regex.Spelling
import ContractAudit.Proofs.Regex.Walk
import ContractAudit.Proofs.Text.Decimal
import Mathlib.Data.List.TakeWhile

/-!
# What words are taken for

A word without a hyphen in front is an argument, whatever else it holds. So is a negative number,
since no option of the program is named by a digit.
-/

namespace ContractAudit.CommandLine

open Regex.Expr

def Unmarked (text : String) : Prop :=
  text.toList.head? ≠ some '-'

instance (text : String) : Decidable (Unmarked text) :=
  inferInstanceAs (Decidable (_ ≠ _))

def NamesNoDigit (options : List Opt) : Prop :=
  ∀ entry ∈ namesOf options, (entry.1[1]?).any Char.isDigit = false

structure IsArgument (text : String) : Prop where
  ne_separator : text ≠ separator
  classify : ∀ options, NamesNoDigit options → classify options text = .ok (.argument text)

theorem namesNoDigit_main : NamesNoDigit mainGrammar.options := by
  unfold NamesNoDigit
  decide

theorem namesNoDigit_audit : NamesNoDigit Command.audit.grammar.options := by
  unfold NamesNoDigit
  decide

theorem isArgument_of_unmarked {text : String} (h : Unmarked text) : IsArgument text := by
  refine ⟨?_, fun options _ => ?_⟩
  · rintro rfl
    exact h rfl
  · rw [CommandLine.classify, if_pos (show text.toList.head? ≠ some '-' from h)]

/-! ## Negative numbers -/

section Negative

variable {digits : List Char} (hSome : digits ≠ []) (hDigits : ∀ c ∈ digits, c.isDigit = true)
include hSome hDigits

theorem looksNegative_of_digits : looksNegative ('-' :: digits) = true := by
  have hMatches : negativeNumber.Matches ('-' :: digits) 0 (digits.length + 1) .blank .blank := by
    refine .inl (matches_all_cons.mpr ⟨0, .blank, ⟨rfl, rfl, rfl⟩, ?_⟩)
    refine matches_all_cons.mpr ⟨1, .blank, matches_text_iff.mpr ⟨?_, rfl, rfl⟩, ?_⟩
    · exact List.prefix_append ['-'] digits
    refine matches_all_cons.mpr ⟨digits.length + 1, .blank, ⟨by omega, by simp, ?_, ?_, rfl⟩, ?_⟩
    · refine ⟨?_, ?_⟩
      · simpa [Nat.one_le_iff_ne_zero] using hSome
      · simp
    · intro c hc
      have hMem : c ∈ digits := by simpa using hc
      simp [Regex.CharSet.contains, Text.isDecimal, Text.digitValue?_of_isDigit (hDigits c hMem)]
    · exact ⟨.inl rfl, rfl, rfl⟩
  rw [looksNegative, isSome_matchAt?_iff rfl]
  have hLength : digits.length + 1 ≤ (Regex.Cursor.start ('-' :: digits)).text.length :=
    Nat.le_refl _
  exact ⟨_, Nat.zero_le _, hLength, .blank, hMatches⟩

omit hSome in
theorem splitAssignment_of_digits : splitAssignment ('-' :: digits) = ('-' :: digits, none) := by
  have hNone : ('-' :: digits).dropWhile (· ≠ '=') = [] := by
    rw [List.dropWhile_eq_nil_iff]
    intro c hc
    rcases List.mem_cons.mp hc with rfl | hc
    · rfl
    · have hDigit := hDigits c hc
      refine decide_eq_true ?_
      rintro rfl
      cases hDigit
  rw [splitAssignment, hNone]

theorem classify_of_negative {options : List Opt} (hOptions : NamesNoDigit options) {text : String}
    (hText : text.toList = '-' :: digits) : classify options text = .ok (.argument text) := by
  obtain ⟨d, rest, rfl⟩ := List.exists_cons_of_ne_nil hSome
  have hDigit := hDigits d List.mem_cons_self
  have hSecond : ∀ entry ∈ namesOf options, entry.1[1]? ≠ some d := by
    intro entry hEntry hd
    have hNone := hOptions entry hEntry
    rw [hd, Option.any_some, hDigit] at hNone
    cases hNone
  have hFind : findName options ('-' :: d :: rest) = none := by
    rw [findName, List.lookup_eq_none_iff]
    intro entry hEntry
    rw [bne_iff_ne]
    intro hName
    exact hSecond entry hEntry (hName ▸ rfl)
  have hCandidates : candidates options ('-' :: d :: rest) = [] := by
    have hOne : ¬['-', '-'].isPrefixOf ('-' :: d :: rest) := by
      rw [List.isPrefixOf_iff_prefix]
      rintro ⟨tail, hTail⟩
      cases hTail
      cases hDigit
    rw [candidates, if_neg hOne, List.filterMap_eq_nil_iff]
    intro entry hEntry
    have hShort : entry.1 ≠ ('-' :: d :: rest).take 2 := fun hName =>
      hSecond entry hEntry (hName ▸ rfl)
    have hLong : ¬('-' :: d :: rest).isPrefixOf entry.1 := by
      rw [List.isPrefixOf_iff_prefix]
      rintro ⟨tail, hTail⟩
      exact hSecond entry hEntry (hTail ▸ rfl)
    simp only [if_neg hShort, if_neg hLong]
  simp only [classify, hText, hFind, splitAssignment_of_digits hDigits, hCandidates,
    looksNegative_of_digits hSome hDigits]
  rfl

end Negative

theorem isArgument_toString (n : Int) : IsArgument (toString n) := by
  cases n with
  | ofNat n =>
    refine isArgument_of_unmarked fun hHead => ?_
    rw [Int.ofNat_eq_natCast, Text.toList_toString_of_nonneg] at hHead
    cases Nat.isDigit_of_mem_toDigits (by decide) (by decide) (List.mem_of_mem_head? hHead)
  | negSucc n =>
    have hText := Text.toList_toString_of_neg n
    have hDigits : ∀ c ∈ Nat.toDigits 10 (n + 1), c.isDigit = true := fun c hc =>
      Nat.isDigit_of_mem_toDigits (by decide) (by decide) hc
    refine ⟨fun hSame => ?_, fun options hOptions => ?_⟩
    · rw [hSame] at hText
      cases hDigits '-' ((List.cons.inj hText).2 ▸ List.mem_cons_self)
    · exact classify_of_negative Nat.toDigits_ne_nil hDigits hOptions hText

/-! ## All words of a command line -/

theorem text_of_classify {options : List Opt} {text : String} {word : Word}
    (h : classify options text = .ok word) : word.text = text := by
  simp only [classify] at h
  repeat' split at h
  all_goals cases h
  all_goals rfl

theorem map_text_of_mapM {options : List Opt} {texts : List String} {words : List Word}
    (h : texts.mapM (classify options) = .ok words) : words.map Word.text = texts := by
  have hTexts : List.Forall₂ (fun text word => text = Word.text word) texts words :=
    (mapM_eq_ok_iff.mp h).imp fun _ _ hWord => (text_of_classify hWord).symm
  rw [← List.forall₂_map_right_iff, List.forall₂_eq_eq_eq] at hTexts
  exact hTexts.symm

theorem classifyAll_eq_mapM {options : List Opt} {texts : List String} (h : separator ∉ texts) :
    classifyAll options texts = texts.mapM (classify options) := by
  induction texts with
  | nil => rfl
  | cons text rest ih =>
    obtain ⟨hText, hRest⟩ := List.ne_and_not_mem_of_not_mem_cons h
    rw [classifyAll, if_neg (Ne.symm hText), ih hRest, List.mapM_cons]

theorem classify_of_findName {options : List Opt} {name : String} {o : Opt}
    (hMark : name.toList.head? = some '-') (h : findName options name.toList = some o) :
    classify options name = .ok (.option name (some ⟨o, name.toList, none⟩)) := by
  simp only [classify, hMark, h]
  rfl

end ContractAudit.CommandLine
