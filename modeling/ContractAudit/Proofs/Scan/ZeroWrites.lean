import ContractAudit.Proofs.Catalog.Search
import ContractAudit.Proofs.Catalog.Words
import ContractAudit.Proofs.Scan.Titles

/-!
# Names that are set to zero and written again

The idiom of a name that is set to zero and written later asks for the same word twice, but not for
whole names: the word may be the end of a longer name. So all that counts of the two names is their
last character.
-/

namespace ContractAudit.Scan

open Patterns (avoiding blanks spells_avoiding spells_blanks spells_identifier)
open Regex.Expr (all spells_all_append spells_all_cons spells_all_nil spells_text text)

/-- What follows a name up to the end of the statement that sets it to zero. -/
inductive SetsToZero : List Char → Prop
  | mk {first second third : List Char} (hFirst : ∀ x ∈ first, Text.isBlank x = true)
      (hSecond : ∀ x ∈ second, Text.isBlank x = true)
      (hThird : ∀ x ∈ third, Text.isBlank x = true) :
      SetsToZero (first ++ "=".toList ++ second ++ "0".toList ++ third ++ ";".toList)

/-- What follows a name up to the sign that something is written to it. -/
inductive Writes : List Char → Prop
  | mk {blanks : List Char} (hBlanks : ∀ x ∈ blanks, Text.isBlank x = true) :
      Writes (blanks ++ "=".toList)

theorem spells_setsToZero_iff {w : List Char} :
    (all [blanks, text "=", blanks, text "0", blanks, text ";"]).Spells w ↔ SetsToZero w := by
  simp only [spells_all_cons, spells_all_nil, spells_text, spells_blanks]
  constructor
  · rintro ⟨first, _, rfl, hFirst, _, _, rfl, rfl, second, _, rfl, hSecond, _, _, rfl, rfl, third,
      _, rfl, hThird, _, _, rfl, rfl, rfl⟩
    have hZero := SetsToZero.mk hFirst hSecond hThird
    simpa only [List.append_assoc, List.append_nil] using hZero
  · rintro ⟨hFirst, hSecond, hThird⟩
    refine ⟨_, _, ?_, hFirst, _, _, rfl, rfl, _, _, rfl, hSecond, _, _, rfl, rfl, _, _, rfl, hThird,
      _, _, rfl, rfl, rfl⟩
    simp only [List.append_assoc, List.append_nil]

theorem spells_writes_iff {w : List Char} :
    (all [blanks, text "="]).Spells w ↔ Writes w := by
  simp only [spells_all_cons, spells_all_nil, spells_text, spells_blanks]
  constructor
  · rintro ⟨space, _, rfl, hSpace, _, _, rfl, rfl, rfl⟩
    exact .mk hSpace
  · rintro ⟨hSpace⟩
    exact ⟨_, _, rfl, hSpace, _, _, rfl, rfl, rfl⟩

/-- The pattern is present if some word is set to zero and written again before the next closing
brace. -/
theorem occursIn_zeroThenWrite_iff {content : List Char} :
    Patterns.zeroThenWrite.occursIn content = true ↔
      ∃ word zero between write, word ++ (zero ++ between) ++ word ++ write <:+: content ∧
        word ≠ [] ∧ (∀ x ∈ word, Text.isWord x = true) ∧ SetsToZero zero ∧ '\x7d' ∉ between ∧
        Writes write := by
  have hPattern : Patterns.zeroThenWrite ∈ Catalog.standard.patterns := by decide +kernel
  rw [Regex.Expr.occursIn_iff (Catalog.isPlain_of_mem_standard hPattern)]
  have hRow := @Regex.Expr.exists_matchAt_repeating_iff content 1 Patterns.identifier
    ([blanks, text "=", blanks, text "0", blanks, text ";"] ++ [avoiding '\x7d'])
    [blanks, text "="] rfl rfl rfl
  refine hRow.trans ?_
  simp only [spells_identifier, spells_all_append, spells_setsToZero_iff, spells_writes_iff]
  constructor
  · rintro ⟨word, _, write, hText, ⟨hSome, hWord⟩, ⟨zero, between, rfl, hZero, hBetween⟩, hWrite⟩
    exact ⟨word, zero, between, write, hText, hSome, hWord, hZero, spells_avoiding.mp hBetween,
      hWrite⟩
  · rintro ⟨word, zero, between, write, hText, hSome, hWord, hZero, hBetween, hWrite⟩
    exact ⟨word, _, write, hText, ⟨hSome, hWord⟩,
      ⟨zero, between, rfl, hZero, spells_avoiding.mpr hBetween⟩, hWrite⟩

/-- Of the word that comes twice, the last character is enough. -/
theorem exists_last_of_word {content word zero between write : List Char}
    (h : word ++ (zero ++ between) ++ word ++ write <:+: content) (hSome : word ≠ [])
    (hWord : ∀ x ∈ word, Text.isWord x = true) (hBetween : '\x7d' ∉ between) :
    ∃ c others, Text.isWord c = true ∧ '\x7d' ∉ others ∧
      [c] ++ (zero ++ others) ++ [c] ++ write <:+: content := by
  obtain ⟨start, c, rfl⟩ : ∃ start c, word = start ++ [c] :=
    ⟨_, _, (List.dropLast_concat_getLast hSome).symm⟩
  rw [List.forall_mem_append, List.forall_mem_singleton] at hWord
  refine ⟨c, between ++ start, hWord.2, ?_, ?_⟩
  · -- The rest of the word moves to what stands between, where a word character does no harm.
    rw [List.mem_append, not_or]
    exact ⟨hBetween, fun hBrace => absurd (hWord.1 _ hBrace) (by decide)⟩
  · refine List.IsInfix.trans (List.IsSuffix.isInfix ⟨start, ?_⟩) h
    simp only [List.append_assoc]

theorem pattern_of_zeroThenWrite : ∀ g ∈ Catalog.standard.gas,
    g.title = "Avoid zero to non-zero storage writes" → g.pattern = Patterns.zeroThenWrite := by
  decide

/-- The idiom is reported exactly if, for some character of words, the text holds the character, an
assignment of zero behind it, something without a closing brace, and the same character with a sign
of assignment behind it. -/
theorem zero_writes_reported_iff (content : String) :
    (∃ g ∈ gas .standard content, g.title = "Avoid zero to non-zero storage writes") ↔
      ∃ c zero between write, Text.isWord c = true ∧ SetsToZero zero ∧ '\x7d' ∉ between ∧
        Writes write ∧ [c] ++ zero ++ between ++ [c] ++ write <:+: content.toList := by
  rw [exists_title_gas_iff]
  constructor
  · rintro ⟨g, hg, hTitle, hPresent⟩
    rw [pattern_of_zeroThenWrite g hg hTitle, occursIn_zeroThenWrite_iff] at hPresent
    obtain ⟨word, zero, between, write, hText, hSome, hWord, hZero, hBetween, hWrite⟩ := hPresent
    obtain ⟨c, others, hc, hOthers, hInfix⟩ := exists_last_of_word hText hSome hWord hBetween
    exact ⟨c, zero, others, write, hc, hZero, hOthers, hWrite, by
      rwa [← List.append_assoc] at hInfix⟩
  · rintro ⟨c, zero, between, write, hc, hZero, hBetween, hWrite, hInfix⟩
    have hPresent : Patterns.zeroThenWrite.occursIn content.toList = true := by
      refine occursIn_zeroThenWrite_iff.mpr ⟨[c], zero, between, write, ?_, List.cons_ne_nil c [],
        List.forall_mem_singleton.mpr hc, hZero, hBetween, hWrite⟩
      rwa [← List.append_assoc]
    obtain ⟨g, hg, hTitle, hPattern⟩ : ∃ g ∈ Catalog.standard.gas,
        g.title = "Avoid zero to non-zero storage writes" ∧
          g.pattern = Patterns.zeroThenWrite := by
      decide
    exact ⟨g, hg, hTitle, hPattern ▸ hPresent⟩

example : (gas .standard "price = 0; rate = 1;").map GasFinding.title =
    [.text "Avoid zero to non-zero storage writes"] := by
  decide +kernel

end ContractAudit.Scan
