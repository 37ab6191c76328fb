import ContractAudit.Proofs.Regex.Excerpt
import ContractAudit.Proofs.Regex.Overlap
import ContractAudit.Proofs.Scan.Padding

/-!
# The code shown in a finding

A finding shows one line of the file, stripped. If the occurrence that it reports does not go on to
a further line, the code that is shown holds an occurrence of the same signature, whatever else is
in the file.
-/

namespace ContractAudit

theorem Text.exists_around_strip (text : List Char) :
    ∃ p : Regex.Padding, p.around (strip text) = text := by
  obtain ⟨front, back, hFront, hBack, hText⟩ := exists_around_eq_strip text
  exact ⟨⟨front, back, hFront, hBack⟩, hText⟩

namespace Regex

theorem Expr.IsSolid.occursIn_strip {e : Expr} (h : e.IsSolid) (text : List Char) :
    e.occursIn (Text.strip text) = e.occursIn text := by
  obtain ⟨p, hText⟩ := Text.exists_around_strip text
  rw [← h.occursIn_around p, hText]

def Surroundings.ofLine (front back : List Char) (hFront : ∀ x ∈ front.getLast?, x = '\n')
    (hBack : ∀ x ∈ back.head?, x = '\n') : Surroundings where
  front
  back
  front_apart := fun x hx => hFront x hx ▸ rfl
  back_apart := fun x hx => hBack x hx ▸ rfl

theorem Expr.occursIn_line {e : Expr} (hPlain : e.isPlain = true)
    (hPasses : e.passesToExcerpts = true) {text : List Char} {start stop : Nat}
    (hMatch : e.MatchAt text start stop) (hFeed : '\n' ∉ text.extract start stop) :
    ∃ line, (Text.splitLines text)[Text.lineAt text start - 1]? = some line ∧
      e.occursIn line = true := by
  obtain ⟨front, line, back, hLine, hText, hStart, hStop, hFront, hBack⟩ :=
    Text.exists_around_line hMatch.1 hMatch.2.1 hFeed
  subst hText
  obtain ⟨i, rfl⟩ := Nat.exists_eq_add_of_le hStart
  obtain ⟨j, rfl⟩ := Nat.exists_eq_add_of_le (Nat.le_trans hStart hMatch.1)
  have hInner : e.MatchAt line i j :=
    matchAt_of_matchAt_around (s := .ofLine front back hFront hBack) hPasses hMatch
      (Nat.le_of_add_le_add_left hStop)
  exact ⟨line, hLine, (e.occursIn_iff hPlain).mpr ⟨i, j, hInner⟩⟩

end Regex

namespace Scan

theorem passesToExcerpts_of_mem_standard {s : Signature}
    (hs : s ∈ Catalog.standard.vulnerabilities) : s.pattern.passesToExcerpts = true := by
  have hAll : ∀ s ∈ Catalog.standard.vulnerabilities, s.pattern.passesToExcerpts = true := by
    decide
  exact hAll s hs

/-- A finding about an occurrence within one line shows code in which the signature occurs. -/
theorem shown_code_holds_occurrence {s : Signature} (hs : s ∈ Catalog.standard.vulnerabilities)
    (label : String) (content : List Char) :
    List.Forall₂ (fun span f => Reports label content s span f ∧
        ('\n' ∉ content.extract span.start span.stop →
          ∃ code, f.code = some code ∧ s.pattern.occursIn code.toList = true))
      (s.pattern.occurrences content) (ofSignature s label content) := by
  have hSolid := isSolid_of_mem_standard (Catalog.pattern_mem_patterns hs)
  rw [ofSignature, hits, List.map_map, List.forall₂_map_right_iff, List.forall₂_same]
  intro span hSpan
  refine ⟨reports_findingOf label s hSpan, ?_⟩
  intro hFeed
  have hMatch := Regex.Expr.matchAt_of_mem_occurrences hSolid.plain hSolid.wide hSpan
  obtain ⟨line, hLine, hOccurs⟩ :=
    Regex.Expr.occursIn_line hSolid.plain (passesToExcerpts_of_mem_standard hs) hMatch hFeed
  obtain ⟨shown, hShown, hCode⟩ := exists_line_hitOf content span
  obtain rfl : shown = line := Option.some.inj (hShown.symm.trans hLine)
  refine ⟨_, rfl, ?_⟩
  rw [hCode, String.toList_ofList, hSolid.occursIn_strip, hOccurs]

/-- The word fills its line but for a tabulator, so that both of its edges are where the code has
been cut out. -/
theorem shown_code_holds_occurrence_now :
    ∃ s ∈ Catalog.standard.vulnerabilities, s.name = "Timestamp Dependence" ∧
      s.pattern.occurrences "t =\n\tnow\n+ 1".toList = [⟨5, 8⟩] ∧
      '\n' ∉ "t =\n\tnow\n+ 1".toList.extract 5 8 ∧
      ∃ f, ofSignature s "a.sol" "t =\n\tnow\n+ 1".toList = [f] ∧ f.line = 2 ∧
        f.code = some "now" ∧ s.pattern.occursIn "now".toList = true := by
  obtain ⟨s, hs, hName, hSpans, hFindings⟩ : ∃ s ∈ Catalog.standard.vulnerabilities,
      s.name = "Timestamp Dependence" ∧
      s.pattern.occurrences "t =\n\tnow\n+ 1".toList = [⟨5, 8⟩] ∧
      (ofSignature s "a.sol" "t =\n\tnow\n+ 1".toList).map (fun f => (f.line, f.code)) =
        [(2, some "now")] := by
    decide +kernel
  obtain ⟨f, hf, hShown⟩ := List.map_eq_singleton_iff.mp hFindings
  have hFeed : '\n' ∉ "t =\n\tnow\n+ 1".toList.extract 5 8 := by decide
  have hAll := shown_code_holds_occurrence hs "a.sol" "t =\n\tnow\n+ 1".toList
  rw [hSpans, hf] at hAll
  obtain ⟨code, hCode, hOccurs⟩ := (List.forall₂_cons.mp hAll).1.2 hFeed
  obtain ⟨hLine, hNow⟩ := Prod.mk.inj hShown
  obtain rfl := Option.some.inj (hCode.symm.trans hNow)
  exact ⟨s, hs, hName, hSpans, hFeed, f, hf, hLine, hNow, hOccurs⟩

end Scan

end ContractAudit
