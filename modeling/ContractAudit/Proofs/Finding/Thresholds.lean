import ContractAudit.Summary

/-!
# Findings above a threshold

A threshold keeps the findings of some levels and drops those of the others, and does not look at
anything else. So two thresholds together are the higher one of them, and what is counted of a level
is either all that there is or nothing.
-/

namespace ContractAudit

namespace Severity

def higher (a b : Severity) : Severity :=
  if a.rank ≤ b.rank then b else a

theorem rank_higher (a b : Severity) : (a.higher b).rank = max a.rank b.rank := by
  rw [higher]
  split <;> omega

theorem meets_higher (level a b : Severity) :
    level.meets (a.higher b) = (level.meets a && level.meets b) := by
  rw [Bool.eq_iff_iff, Bool.and_eq_true, meets_iff, meets_iff, meets_iff, rank_higher]
  omega

end Severity

namespace Findings

theorem atLeast_atLeast (minimum other : Severity) (findings : List Finding) :
    atLeast other (atLeast minimum findings) = atLeast (minimum.higher other) findings := by
  rw [atLeast, atLeast, atLeast, List.filter_filter]
  simp only [Severity.meets_higher, Bool.and_comm]

theorem atLeast_sublist (minimum : Severity) (findings : List Finding) :
    (atLeast minimum findings).Sublist findings :=
  List.filter_sublist

theorem atLeast_sublist_of_le {minimum other : Severity} (h : minimum.rank ≤ other.rank)
    (findings : List Finding) :
    (atLeast other findings).Sublist (atLeast minimum findings) := by
  have hHigher : minimum.higher other = other := if_pos h
  rw [← hHigher, ← atLeast_atLeast]
  exact atLeast_sublist other _

theorem atLeast_low (findings : List Finding) : atLeast .low findings = findings := by
  rw [atLeast, List.filter_eq_self]
  intro f _
  exact Severity.meets_iff.mpr (Nat.zero_le _)

theorem atLeast_flatten (minimum : Severity) (perFile : List (List Finding)) :
    atLeast minimum perFile.flatten = (perFile.map (atLeast minimum)).flatten :=
  List.filter_flatten

theorem atLeastNamed_of_parse {name : Cell} {minimum : Severity}
    (h : Severity.parse name.display = .ok minimum) (findings : List Finding) :
    atLeastNamed name findings = .ok (atLeast minimum findings) := by
  rw [atLeastNamed, h]
  rfl

theorem ofSeverity_atLeast_of_le {minimum level : Severity} (h : minimum.rank ≤ level.rank)
    (findings : List Finding) :
    ofSeverity level (atLeast minimum findings) = ofSeverity level findings := by
  rw [ofSeverity, atLeast, List.filter_filter]
  apply List.filter_congr
  intro f _
  rw [Bool.eq_iff_iff, Bool.and_eq_true, decide_eq_true_eq, Severity.meets_iff]
  constructor
  · exact And.left
  · rintro rfl
    exact ⟨rfl, h⟩

theorem ofSeverity_atLeast_of_lt {minimum level : Severity} (h : level.rank < minimum.rank)
    (findings : List Finding) : ofSeverity level (atLeast minimum findings) = [] := by
  rw [ofSeverity, List.filter_eq_nil_iff]
  intro f hf hLevel
  have hRank := (mem_atLeast_iff.mp hf).2
  rw [of_decide_eq_true hLevel] at hRank
  omega

end Findings

end ContractAudit
