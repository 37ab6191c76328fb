import ContractAudit.Proofs.Catalog.Search
import ContractAudit.Proofs.Regex.Overlap
import ContractAudit.Proofs.Scan.Placement
import ContractAudit.Proofs.Scan.Titles

/-!
# Signatures whose occurrences hide no others

For most signatures of the default catalogue no match starts inside another one. Each place where
such a signature matches then has its own finding. In particular every use of the current time is
reported, also where several stand in one line.
-/

namespace ContractAudit.Scan

open Regex (CharSet Span)
open Regex.Expr (matches_text_iff matchAt_text_iff)

def unmaskedTitles : List Cell :=
  ["Floating Pragma", "Unprotected Selfdestruct", "Potential Integer Overflow",
    "Dangerous Delegatecall", "Timestamp Dependence", "Inline Assembly", "Force Send Ether",
    "Private State Variable", "Uninitialized Storage Pointer"]

theorem neverOverlaps_of_unmasked {s : Signature} (hs : s ∈ Catalog.standard.vulnerabilities)
    (hTitle : s.name ∈ unmaskedTitles) : s.pattern.neverOverlaps = true := by
  have hAll : ∀ s ∈ Catalog.standard.vulnerabilities, s.name ∈ unmaskedTitles →
      s.pattern.neverOverlaps = true := by
    decide +kernel
  exact hAll s hs hTitle

def ReportedAt (label : String) (content : List Char) (s : Signature) (i : Nat) (f : Finding) :
    Prop :=
  ∃ j, s.pattern.MatchAt content i j ∧ Reports label content s ⟨i, j⟩ f

theorem reportedAt_of_mem_occurrences {s : Signature}
    (hs : s ∈ Catalog.standard.vulnerabilities) (label : String) {content : List Char} {span : Span}
    (hSpan : span ∈ s.pattern.occurrences content) :
    ReportedAt label content s span.start
      (findingOf s label (hitOf content (Text.splitLines content) span)) := by
  have hMem := Catalog.pattern_mem_patterns hs
  exact ⟨span.stop, Regex.Expr.matchAt_of_mem_occurrences (Catalog.isPlain_of_mem_standard hMem)
    (Catalog.ownWidth_pos_of_mem_standard hMem) hSpan, reports_findingOf label s hSpan⟩

theorem forall₂_reportedAt {s : Signature} (hs : s ∈ Catalog.standard.vulnerabilities)
    (label : String) (content : List Char) :
    List.Forall₂ (ReportedAt label content s)
      ((s.pattern.occurrences content).map Span.start) (ofSignature s label content) := by
  rw [ofSignature, hits, List.map_map, List.forall₂_map_left_iff, List.forall₂_map_right_iff,
    List.forall₂_same]
  intro span hSpan
  exact reportedAt_of_mem_occurrences hs label hSpan

theorem exists_reportedAt {options : ScanOptions} {label content : String} {f : Finding}
    (hf : f ∈ scan .standard options label content) {s : Signature}
    (hs : s ∈ Catalog.standard.vulnerabilities) (hTitle : f.title = s.name) :
    ∃ i, ReportedAt label content.toList s i f := by
  obtain ⟨hit, hHit, rfl⟩ := List.mem_map.mp (mem_ofSignature_of_title hf hs hTitle)
  obtain ⟨span, hSpan, rfl⟩ := List.mem_map.mp hHit
  exact ⟨span.start, reportedAt_of_mem_occurrences hs label hSpan⟩

/-! ## Uses of the current time -/

/-- At the place stands `block.timestamp`, or `now` as a word of its own. -/
def TellsTime (content : List Char) (i : Nat) : Prop :=
  "block.timestamp".toList <+: content.drop i ∨
    "now".toList <+: content.drop i ∧ ¬CharSet.word.EndsAt content i ∧
      ¬CharSet.word.StartsAt content (i + 3)

theorem getElem?_of_prefix_drop {content w : List Char} {i n : Nat} (h : w <+: content.drop i)
    (hn : n < w.length) : content[i + n]? = w[n]? := by
  obtain ⟨rest, hRest⟩ := h
  rw [← List.getElem?_drop, ← hRest, List.getElem?_append_left hn]

theorem startsAt_now {content : List Char} {i : Nat} (h : "now".toList <+: content.drop i) :
    CharSet.word.StartsAt content i :=
  ⟨'n', getElem?_of_prefix_drop (n := 0) h (by decide), rfl⟩

theorem endsAt_now {content : List Char} {i : Nat} (h : "now".toList <+: content.drop i) :
    CharSet.word.EndsAt content (i + 3) :=
  ⟨Nat.succ_pos _, 'w', getElem?_of_prefix_drop (n := 2) h (by decide), rfl⟩

theorem exists_matchAt_timestamp_iff {content : List Char} {i : Nat} :
    (∃ j, Patterns.timestamp.MatchAt content i j) ↔ TellsTime content i := by
  constructor
  · rintro ⟨j, -, -, m, hBlock | ⟨k, u, ⟨hFront, rfl, rfl⟩, l, v, hNow, hBack, -⟩⟩
    · exact .inl (matches_text_iff.mp hBlock).1
    · obtain ⟨hPrefix, rfl, -⟩ := matches_text_iff.mp hNow
      refine .inr ⟨hPrefix, ?_, ?_⟩
      · intro hEnds
        exact hFront (iff_of_true hEnds (startsAt_now hPrefix))
      · intro hStarts
        exact hBack (iff_of_true (endsAt_now hPrefix) hStarts)
  · rintro (hPrefix | ⟨hPrefix, hFront, hBack⟩)
    · have hMatch : (Regex.Expr.text "block.timestamp").MatchAt content i (i + 15) :=
        (matchAt_text_iff (by decide)).mpr ⟨hPrefix, rfl⟩
      obtain ⟨hLe, hBound, m, hMatch⟩ := hMatch
      exact ⟨i + 15, hLe, hBound, m, .inl hMatch⟩
    · have hMatch : (Regex.Expr.text "now").MatchAt content i (i + 3) :=
        (matchAt_text_iff (by decide)).mpr ⟨hPrefix, rfl⟩
      obtain ⟨hLe, hBound, m, hMatch⟩ := hMatch
      refine ⟨i + 3, hLe, hBound, m, .inr ⟨i, .blank, ⟨?_, rfl, rfl⟩, i + 3, m, hMatch, ?_, rfl,
        rfl⟩⟩
      · intro hEdge
        exact hFront (hEdge.mpr (startsAt_now hPrefix))
      · intro hEdge
        exact hBack (hEdge.mp (endsAt_now hPrefix))

theorem pattern_of_timestamp {s : Signature} (hs : s ∈ Catalog.standard.vulnerabilities)
    (hName : s.name = "Timestamp Dependence") : s.pattern = Patterns.timestamp := by
  have hAll : ∀ s ∈ Catalog.standard.vulnerabilities, s.name = "Timestamp Dependence" →
      s.pattern = Patterns.timestamp := by
    decide
  exact hAll s hs hName

/-- For these signatures there is one finding for each place where the signature matches, in the
order of the text, and it shows the line of that place. Under `Timestamp Dependence` the places are
those of `block.timestamp` and of the word `now`. -/
theorem every_match_is_reported {s : Signature} (hs : s ∈ Catalog.standard.vulnerabilities)
    (hTitle : s.name ∈ unmaskedTitles) (gas : Bool) (label content : String) :
    ∃ places : List Nat, places.Pairwise (· < ·) ∧
      (∀ i, i ∈ places ↔ ∃ j, s.pattern.MatchAt content.toList i j) ∧
      List.Forall₂ (ReportedAt label content.toList s) places
        ((scan .standard ⟨true, gas⟩ label content).filter (·.title = s.name)) ∧
      (s.name = "Timestamp Dependence" → ∀ i, i ∈ places ↔ TellsTime content.toList i) := by
  have hMem := Catalog.pattern_mem_patterns hs
  obtain ⟨hOrder, hPlaces⟩ := Regex.Expr.occurrences_of_neverOverlaps
    (Catalog.isPlain_of_mem_standard hMem) (Catalog.ownWidth_pos_of_mem_standard hMem)
    (neverOverlaps_of_unmasked hs hTitle) content.toList
  have hActive : s ∈ Catalog.standard.active true := Catalog.mem_active_iff.mpr ⟨hs, .inl rfl⟩
  have hPlaces : ∀ i, i ∈ (s.pattern.occurrences content.toList).map Span.start ↔
      ∃ j, s.pattern.MatchAt content.toList i j := by
    intro i
    rw [List.mem_map]
    exact hPlaces i
  refine ⟨_, List.pairwise_map.mpr hOrder, hPlaces, ?_, ?_⟩
  · rw [@filter_title_scan ⟨true, gas⟩ s hActive]
    exact forall₂_reportedAt hs label content.toList
  · intro hName i
    rw [hPlaces, pattern_of_timestamp hs hName, exists_matchAt_timestamp_iff]

/-- The time is told three times, twice in one line, and not by the first word. -/
theorem every_match_is_reported_time :
    ∃ s ∈ Catalog.standard.vulnerabilities, s.name = "Timestamp Dependence" ∧
      s.name ∈ unmaskedTitles ∧
      ((scan .standard ⟨true, false⟩ "a.sol" "known = now;\nif (now < block.timestamp)").filter
        (·.title = s.name)).map (·.line) = [1, 2, 2] ∧
      ∃ places : List Nat, places.Pairwise (· < ·) ∧
        (∀ i, i ∈ places ↔
          TellsTime "known = now;\nif (now < block.timestamp)".toList i) ∧
        List.Forall₂ (ReportedAt "a.sol" "known = now;\nif (now < block.timestamp)".toList s) places
          ((scan .standard ⟨true, false⟩ "a.sol"
            "known = now;\nif (now < block.timestamp)").filter (·.title = s.name)) := by
  obtain ⟨s, hs, hName, hTitle, hLines⟩ : ∃ s ∈ Catalog.standard.vulnerabilities,
      s.name = "Timestamp Dependence" ∧ s.name ∈ unmaskedTitles ∧
      ((scan .standard ⟨true, false⟩ "a.sol" "known = now;\nif (now < block.timestamp)").filter
        (·.title = s.name)).map (·.line) = [1, 2, 2] := by
    decide +kernel
  obtain ⟨places, hOrder, -, hReported, hTime⟩ :=
    every_match_is_reported hs hTitle false "a.sol" "known = now;\nif (now < block.timestamp)"
  exact ⟨s, hs, hName, hTitle, hLines, places, hOrder, hTime hName, hReported⟩

end ContractAudit.Scan
