import ContractAudit.Catalog.Patterns
import ContractAudit.Proofs.Regex.Spelling

/-!
# Words of the parts of patterns

The patterns of the default catalogue are put together from texts and from a few kinds of runs. Each
kind of run has a law that tells its words.
-/

namespace ContractAudit.Patterns

open Regex Regex.Expr

variable {w : List Char}

theorem spells_blanks : blanks.Spells w ↔ ∀ x ∈ w, Text.isBlank x = true :=
  spells_star

theorem spells_gap : gap.Spells w ↔ w ≠ [] ∧ ∀ x ∈ w, Text.isBlank x = true :=
  spells_plus

theorem spells_identifier : identifier.Spells w ↔ w ≠ [] ∧ ∀ x ∈ w, Text.isWord x = true :=
  spells_plus

theorem spells_avoiding {c : Char} : (avoiding c).Spells w ↔ c ∉ w := by
  rw [avoiding, spells_star]
  simp only [CharSet.contains_other, bne_iff_ne]
  constructor
  · intro h hc
    exact h c hc rfl
  · rintro h x hx rfl
    exact h hx

theorem spells_dots : (star .dot).Spells w ↔ '\n' ∉ w :=
  spells_avoiding

end ContractAudit.Patterns
