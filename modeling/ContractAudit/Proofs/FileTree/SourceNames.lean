import ContractAudit.FileTree.Path
import ContractAudit.Proofs.Text.LetterCase
import Mathlib.Data.List.DropRight

/-!
# Which names are names of sources

A name is a source's if it ends in `.sol` behind something else, whatever forms its letters have.
The test folds ASCII letters only. Nothing is lost by that, as the only characters beyond ASCII with
an ASCII letter for a small form are a dotted capital i and the kelvin sign.
-/

namespace ContractAudit

namespace Text

def foldsInAscii (letter : Char) : Bool :=
  0 < letter.toNat && letter.toNat < 0x80 && letter ≠ 'i' && letter ≠ 'k'

theorem small_eq_iff_toLower_eq {c letter : Char} (h : foldsInAscii letter = true) :
    small c = letter ↔ c.toLower = letter := by
  rcases Nat.lt_or_ge c.toNat 0x80 with hc | hc
  · have hSame := small_of_ascii c.toNat hc
    rw [Char.ofNat_toNat] at hSame
    rw [hSame]
  · have hSmall := smallCode_of_beyond hc
    have hCode := toNat_small c
    simp only [foldsInAscii, Bool.and_eq_true, decide_eq_true_eq] at h
    obtain ⟨⟨⟨hLow, hHigh⟩, hi⟩, hk⟩ := h
    have hi : letter.toNat ≠ 0x69 := fun hSame => hi (Char.toNat_inj.mp hSame)
    have hk : letter.toNat ≠ 0x6B := fun hSame => hk (Char.toNat_inj.mp hSame)
    rw [toLower_of_beyond hc, ← Char.toNat_inj, ← Char.toNat_inj]
    omega

theorem map_small_eq_iff {letters : List Char} (h : letters.all foldsInAscii = true)
    {text : List Char} : text.map small = letters ↔ text.map Char.toLower = letters := by
  induction letters generalizing text with
  | nil => rw [List.map_eq_nil_iff, List.map_eq_nil_iff]
  | cons letter letters ih =>
    rw [List.all_cons, Bool.and_eq_true] at h
    cases text with
    | nil => rfl
    | cons c text =>
      rw [List.map_cons, List.map_cons, List.cons_eq_cons, List.cons_eq_cons, ih h.2,
        small_eq_iff_toLower_eq h.1]

end Text

theorem suffix?_eq_some_iff {name ending : List Char} : suffix? name = some ending ↔
    ∃ stem rest, name = stem ++ '.' :: rest ∧ stem ≠ [] ∧ rest ≠ [] ∧ '.' ∉ rest ∧
      ending = '.' :: rest := by
  constructor
  · intro h
    rw [suffix?] at h
    set rest := name.rtakeWhile (· ≠ '.')
    set front := name.rdropWhile (· ≠ '.')
    have hName : front ++ rest = name := List.rdropWhile_append_rtakeWhile
    change (if rest ≠ [] ∧ rest.length + 1 < name.length then some ('.' :: rest) else none) =
      some ending at h
    split at h
    · rename_i hRest
      have hLong : 1 < front.length := by
        have hLength := congrArg List.length hName
        rw [List.length_append] at hLength
        omega
      have hSome : front ≠ [] := List.ne_nil_of_length_pos (by omega)
      have hDot : front.getLast hSome = '.' := by
        have hLast := List.rdropWhile_last_not _ _ hSome
        rwa [decide_eq_true_eq, not_not] at hLast
      refine ⟨front.dropLast, rest, ?_, ?_, hRest.1, ?_, (Option.some.inj h).symm⟩
      · rw [List.append_cons, ← hDot, List.dropLast_append_getLast, hName]
      · exact List.ne_nil_of_length_pos (by rw [List.length_dropLast]; omega)
      · intro hMem
        simpa using List.mem_rtakeWhile_imp hMem
    · cases h
  · rintro ⟨stem, rest, rfl, hStem, hRest, hDot, rfl⟩
    have hOthers : ∀ c ∈ rest.reverse, decide (c ≠ '.') = true := by
      intro c hc
      exact decide_eq_true (ne_of_mem_of_not_mem (List.mem_reverse.mp hc) hDot)
    have hEnding : ((stem ++ '.' :: rest).reverse.takeWhile (· ≠ '.')).reverse = rest := by
      rw [List.reverse_append, List.reverse_cons, List.append_assoc,
        List.takeWhile_append_of_pos hOthers]
      simp
    have hLong := List.length_pos_iff.mpr hStem
    rw [suffix?, hEnding, if_pos ⟨hRest, by simp; omega⟩]

def NamesSource (name : String) : Prop :=
  ∃ stem ending, name.toList = stem ++ '.' :: ending ∧ stem ≠ [] ∧
    ending.map Text.small = ['s', 'o', 'l']

theorem isSourceName_iff {name : String} : isSourceName name = true ↔ NamesSource name := by
  rw [isSourceName, decide_eq_true_eq, Option.map_eq_some_iff]
  constructor
  · rintro ⟨ending, hSuffix, hSol⟩
    obtain ⟨stem, rest, hName, hStem, -, -, rfl⟩ := suffix?_eq_some_iff.mp hSuffix
    rw [List.map_cons, List.cons_eq_cons] at hSol
    exact ⟨stem, rest, hName, hStem, (Text.map_small_eq_iff rfl).mpr hSol.2⟩
  · rintro ⟨stem, rest, hName, hStem, hSol⟩
    rw [Text.map_small_eq_iff rfl] at hSol
    refine ⟨'.' :: rest, suffix?_eq_some_iff.mpr ⟨stem, rest, hName, hStem, ?_, ?_, rfl⟩, ?_⟩
    · rintro rfl
      cases hSol
    · intro hDot
      have hMem := @List.mem_map_of_mem _ _ _ _ Char.toLower hDot
      rw [hSol] at hMem
      revert hMem
      decide
    · rw [List.map_cons, hSol]
      rfl

example : ["a.b.sOl", "..sol", ".sol", "a.sol.", "a.sol.bak", "asol"].map isSourceName =
    [true, true, false, false, false, false] := by
  decide +kernel

end ContractAudit
