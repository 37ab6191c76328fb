import ContractAudit.Proofs.Regex.Ends
import ContractAudit.Proofs.Regex.Walk
import ContractAudit.Proofs.Regex.Spelling

/-!
# Matches that overlap

A walk resumes at the end of each match, so it passes over a match that starts inside another one.
For an expression with no such matches the walk meets every place where there is a match. Whether
two matches can overlap is tested on an outline of the expression: its alternatives, each as a row
of single characters and runs. The test reads two such rows side by side and drops a pair as soon as
they ask for different characters. It may take two matches for overlapping that are not, but never
the other way round.
-/

namespace ContractAudit.Regex

namespace CharSet

def isSingleOutside (t : CharSet) : CharSet → Bool
  | single c => !t.contains c
  | _ => false

def isApartFrom (s t : CharSet) : Bool :=
  s.isSingleOutside t || t.isSingleOutside s || s = blank && t = word || s = word && t = blank

theorem isSingleOutside_eq_false {s t : CharSet} {x : Char} (hs : s.contains x = true)
    (ht : t.contains x = true) : t.isSingleOutside s = false := by
  cases s with
  | single c =>
    rw [contains_single, beq_iff_eq] at hs
    rw [isSingleOutside, ← hs, ht]
    rfl
  | _ => rfl

theorem isApartFrom_eq_false {s t : CharSet} {x : Char} (hs : s.contains x = true)
    (ht : t.contains x = true) : s.isApartFrom t = false := by
  have hWord : Text.isBlank x = true → Text.isWord x ≠ true := by
    intro hBlank
    rw [Text.isWord_of_isBlank hBlank]
    exact Bool.false_ne_true
  rw [isApartFrom, isSingleOutside_eq_false hs ht, isSingleOutside_eq_false ht hs, Bool.false_or,
    Bool.false_or, Bool.or_eq_false_iff, ← Bool.not_eq_true, ← Bool.not_eq_true]
  simp only [Bool.and_eq_true, decide_eq_true_eq]
  constructor
  · rintro ⟨rfl, rfl⟩
    exact hWord hs ht
  · rintro ⟨rfl, rfl⟩
    exact hWord ht hs

end CharSet

/-! ## Outlines -/

inductive Piece where
  | one (set : CharSet)
  | run (set : CharSet)
  deriving DecidableEq, Repr

open Piece

def Reads : List Piece → List Char → Prop
  | [], w => w = []
  | one set :: row, w => ∃ x v, w = x :: v ∧ set.contains x = true ∧ Reads row v
  | run set :: row, w => ∃ u v, w = u ++ v ∧ (∀ x ∈ u, set.contains x = true) ∧ Reads row v

theorem Reads.append {a b : List Piece} {u v : List Char} (ha : Reads a u) (hb : Reads b v) :
    Reads (a ++ b) (u ++ v) := by
  induction a generalizing u with
  | nil =>
    rw [show u = [] from ha]
    exact hb
  | cons piece row ih =>
    cases piece with
    | one set =>
      obtain ⟨x, w, rfl, hSet, hRow⟩ := ha
      exact ⟨x, w ++ v, rfl, hSet, ih hRow⟩
    | run set =>
      obtain ⟨p, w, rfl, hSet, hRow⟩ := ha
      exact ⟨p, w ++ v, List.append_assoc p w v, hSet, ih hRow⟩

theorem reads_replicate_run {set : CharSet} {n : Nat} {w : List Char} (hn : n ≤ w.length)
    (hSet : ∀ x ∈ w, set.contains x = true) :
    Reads (List.replicate n (one set) ++ [run set]) w := by
  induction n generalizing w with
  | zero => exact ⟨w, [], (List.append_nil w).symm, hSet, rfl⟩
  | succ n ih =>
    cases w with
    | nil => cases hn
    | cons x w =>
      obtain ⟨hx, hRest⟩ := List.forall_mem_cons.mp hSet
      exact ⟨x, w, rfl, hx, ih (Nat.le_of_succ_le_succ hn) hRest⟩

namespace Expr

/-- The alternatives of an expression. Conditions on the surroundings are left out, and how long a
run may be. -/
def outline : Expr → List (List Piece)
  | empty | anchor _ | look _ _ _ => [[]]
  | char set => [[.one set]]
  | seq e f => e.outline.flatMap fun row => f.outline.map (row ++ ·)
  | alt e f => e.outline ++ f.outline
  | chars set t => [List.replicate t.least (.one set) ++ [.run set]]
  | group _ e => e.outline
  | backref _ _ => [[.run .any]]
  | many _ _ | atomic _ | cond _ _ _ => []

theorem Spells.exists_reads {e : Expr} {w : List Char} (h : e.Spells w) :
    ∃ row ∈ e.outline, Reads row w := by
  induction e generalizing w with
  | empty => exact ⟨[], List.mem_singleton_self _, h⟩
  | anchor a => exact ⟨[], List.mem_singleton_self _, h⟩
  | look back positive e _ => exact ⟨[], List.mem_singleton_self _, h⟩
  | char set =>
    obtain ⟨x, rfl, hSet⟩ := h
    exact ⟨[.one set], List.mem_singleton_self _, x, [], rfl, hSet, rfl⟩
  | seq e f ihe ihf =>
    obtain ⟨u, v, rfl, hu, hv⟩ := h
    obtain ⟨a, ha, hReadsA⟩ := ihe hu
    obtain ⟨b, hb, hReadsB⟩ := ihf hv
    refine ⟨a ++ b, ?_, hReadsA.append hReadsB⟩
    exact List.mem_flatMap.mpr ⟨a, ha, List.mem_map_of_mem hb⟩
  | alt e f ihe ihf =>
    rcases h with h | h
    · obtain ⟨row, hRow, hReads⟩ := ihe h
      exact ⟨row, List.mem_append_left _ hRow, hReads⟩
    · obtain ⟨row, hRow, hReads⟩ := ihf h
      exact ⟨row, List.mem_append_right _ hRow, hReads⟩
  | chars set t =>
    obtain ⟨hAllows, hSet⟩ := h
    exact ⟨_, List.mem_singleton_self _, reads_replicate_run hAllows.1 hSet⟩
  | group n e ih => exact ih h
  | backref n mode =>
    exact ⟨[.run .any], List.mem_singleton_self _, w, [], (List.append_nil w).symm,
      fun x _ => CharSet.contains_any x, rfl⟩
  | many e t _ => cases h
  | atomic e _ => cases h
  | cond n e f _ _ => cases h

end Expr

/-! ## Rows side by side -/

def meetsAfterOne (set : CharSet) (rest : List Piece → Bool) : List Piece → Bool
  | [] => true
  | one t :: row => !set.isApartFrom t && rest row
  | run t :: row => meetsAfterOne set rest row || !set.isApartFrom t && rest (run t :: row)

/-- `meets` for a row that begins with a run, given `meets` for the rest of the row. Where both rows
begin with a run, a character that goes into both runs leads back to the same two rows. -/
def meetsAfterRun (set : CharSet) (rest : List Piece → Bool) : List Piece → Bool
  | [] => true
  | one t :: row => rest (one t :: row) || !set.isApartFrom t && meetsAfterRun set rest row
  | run t :: row => rest (run t :: row) || meetsAfterRun set rest row

/-- Some text may begin with a word of the one row and with a word of the other. -/
def meets : List Piece → List Piece → Bool
  | [] => fun _ => true
  | one set :: row => meetsAfterOne set (meets row)
  | run set :: row => meetsAfterRun set (meets row)

/-- The test accepts every row that has a word at the start of a text which starts with a word of
the given row. -/
def Admits (row : List Piece) (test : List Piece → Bool) : Prop :=
  ∀ other u v text, Reads row u → Reads other v → u <+: text → v <+: text → test other = true

theorem admits_meetsAfterOne {row : List Piece} {rest : List Piece → Bool} (set : CharSet)
    (hRest : Admits row rest) : Admits (one set :: row) (meetsAfterOne set rest) := by
  rintro other u v text ⟨x, u, rfl, hSet, hu⟩ hv ⟨text, rfl⟩ hPrefix
  induction other generalizing v with
  | nil => rfl
  | cons piece other ih =>
    cases piece with
    | one t =>
      obtain ⟨y, v, rfl, hOther, hv⟩ := hv
      obtain ⟨rfl, hTail⟩ := List.cons_prefix_cons.mp hPrefix
      rw [meetsAfterOne, CharSet.isApartFrom_eq_false hSet hOther,
        hRest other u v _ hu hv (List.prefix_append u text) hTail]
      rfl
    | run t =>
      obtain ⟨p, v, rfl, hOther, hv⟩ := hv
      rw [meetsAfterOne, Bool.or_eq_true]
      cases p with
      | nil => exact .inl (ih v hv hPrefix)
      | cons y p =>
        obtain ⟨rfl, hTail⟩ := List.cons_prefix_cons.mp hPrefix
        obtain ⟨hy, hp⟩ := List.forall_mem_cons.mp hOther
        refine .inr ?_
        rw [CharSet.isApartFrom_eq_false hSet hy, hRest (run t :: other) u (p ++ v) _ hu
          ⟨p, v, rfl, hp, hv⟩ (List.prefix_append u text) hTail]
        rfl

theorem admits_meetsAfterRun {row : List Piece} {rest : List Piece → Bool} (set : CharSet)
    (hRest : Admits row rest) : Admits (run set :: row) (meetsAfterRun set rest) := by
  rintro other w v text ⟨p, u, rfl, hSet, hu⟩ hv hPrefix hPrefix'
  induction other generalizing p v text with
  | nil => rfl
  | cons piece other ih =>
    cases piece with
    | one t =>
      rw [meetsAfterRun, Bool.or_eq_true]
      cases p with
      | nil => exact .inl (hRest _ u v text hu hv hPrefix hPrefix')
      | cons x p =>
        obtain ⟨y, v, rfl, hOther, hv⟩ := hv
        obtain ⟨hx, hp⟩ := List.forall_mem_cons.mp hSet
        obtain ⟨text, rfl⟩ := hPrefix
        obtain ⟨rfl, hTail⟩ := List.cons_prefix_cons.mp hPrefix'
        refine .inr ?_
        rw [CharSet.isApartFrom_eq_false hx hOther,
          ih v _ p hp hv (List.prefix_append _ text) hTail]
        rfl
    | run t =>
      rw [meetsAfterRun, Bool.or_eq_true]
      obtain ⟨q, v, rfl, hOther, hv⟩ := hv
      -- Characters that both runs take are dropped from both until one of the runs is at its end.
      induction p generalizing q text with
      | nil => exact .inl (hRest _ u _ text hu ⟨q, v, rfl, hOther, hv⟩ hPrefix hPrefix')
      | cons x p ihp =>
        cases q with
        | nil => exact .inr (ih v text (x :: p) hSet hv hPrefix hPrefix')
        | cons y q =>
          obtain ⟨text, rfl⟩ := hPrefix
          obtain ⟨rfl, hTail⟩ := List.cons_prefix_cons.mp hPrefix'
          exact ihp (p ++ u ++ text) (List.forall_mem_cons.mp hSet).2 (List.prefix_append _ text) q
            hTail (List.forall_mem_cons.mp hOther).2

theorem admits_meets (row : List Piece) : Admits row (meets row) := by
  induction row with
  | nil =>
    intro other u v text _ _ _ _
    rfl
  | cons piece row ih =>
    cases piece with
    | one set => exact admits_meetsAfterOne set ih
    | run set => exact admits_meetsAfterRun set ih

/-- A word that begins with a character of `set` and goes on as `other` may start at some character
of a word of the row and agree with it from there on. -/
def startsInside (set : CharSet) (other : List Piece) : List Piece → Bool
  | [] => false
  | one s :: row => !s.isApartFrom set && meets row other || startsInside set other row
  | run s :: row => !s.isApartFrom set && meets (run s :: row) other || startsInside set other row

theorem startsInside_of_reads {set : CharSet} {other row : List Piece} {x : Char}
    {front back v text : List Char} (hRow : Reads row (front ++ x :: back))
    (hSet : set.contains x = true) (hOther : Reads other v) (hBack : back <+: text)
    (hv : v <+: text) : startsInside set other row = true := by
  induction row generalizing front with
  | nil => exact absurd hRow (List.append_ne_nil_of_right_ne_nil front (List.cons_ne_nil x back))
  | cons piece row ih =>
    cases piece with
    | one s =>
      obtain ⟨y, w, hWord, hy, hw⟩ := hRow
      rw [startsInside, Bool.or_eq_true]
      cases front with
      | nil =>
        obtain ⟨rfl, rfl⟩ := List.cons_eq_cons.mp hWord
        refine .inl ?_
        rw [CharSet.isApartFrom_eq_false hy hSet,
          admits_meets row other _ v text hw hOther hBack hv]
        rfl
      | cons z front =>
        obtain ⟨-, rfl⟩ := List.cons_eq_cons.mp hWord
        exact .inr (ih hw)
    | run s =>
      obtain ⟨p, w, hWord, hp, hw⟩ := hRow
      rw [startsInside, Bool.or_eq_true]
      rcases List.append_eq_append_iff.mp hWord with ⟨q, hFront, hRest⟩ | ⟨q, hFront, hRest⟩
      · cases q with
        | nil =>
          have hw : Reads row ([] ++ x :: back) := hRest ▸ hw
          exact .inr (ih hw)
        | cons y q =>
          obtain ⟨rfl, rfl⟩ := List.cons_eq_cons.mp hRest
          rw [hFront, List.forall_mem_append, List.forall_mem_cons] at hp
          refine .inl ?_
          rw [CharSet.isApartFrom_eq_false hp.2.1 hSet,
            admits_meets (run s :: row) other _ v text ⟨q, w, rfl, hp.2.2, hw⟩ hOther hBack hv]
          rfl
      · have hw : Reads row (q ++ x :: back) := hRest ▸ hw
        exact .inr (ih hw)

def mayOverlap : List Piece → List Piece → Bool
  | one _ :: row, one set :: other => startsInside set other row
  | _, _ => true

theorem exists_of_mayOverlap_eq_false {row other : List Piece} (h : mayOverlap row other = false) :
    ∃ s rest set others, row = one s :: rest ∧ other = one set :: others ∧
      startsInside set others rest = false := by
  cases row with
  | nil => cases h
  | cons piece rest =>
    cases piece with
    | run s => cases h
    | one s =>
      cases other with
      | nil => cases h
      | cons piece others =>
        cases piece with
        | run set => cases h
        | one set => exact ⟨s, rest, set, others, rfl, rfl, h⟩

namespace Expr

/-- No match starts inside another one. -/
def neverOverlaps (e : Expr) : Bool :=
  e.outline.all fun row => e.outline.all fun other => !mayOverlap row other

theorem MatchAt.le_of_neverOverlaps {e : Expr} (hApart : e.neverOverlaps = true)
    {text : List Char} {i j k l : Nat} (hFirst : e.MatchAt text i j)
    (hSecond : e.MatchAt text k l) (hik : i < k) : j ≤ k := by
  obtain ⟨row, hRow, hReads⟩ := hFirst.spells.exists_reads
  obtain ⟨other, hOther, hReads'⟩ := hSecond.spells.exists_reads
  have hNever := List.all_eq_true.mp (List.all_eq_true.mp hApart row hRow) other hOther
  rw [Bool.not_eq_true'] at hNever
  obtain ⟨_, rest, set, others, rfl, rfl, hInside⟩ := exists_of_mayOverlap_eq_false hNever
  obtain ⟨x, w, hWord, -, hw⟩ := hReads
  obtain ⟨y, v, hWord', hy, hv⟩ := hReads'
  obtain ⟨-, -, rfl⟩ := extract_eq_cons hWord
  obtain ⟨-, hText, rfl⟩ := extract_eq_cons hWord'
  refine Nat.le_of_not_lt fun hkj => ?_
  rw [← extract_append_extract text hik (Nat.le_of_lt hkj),
    Cursor.extract_succ_left hText hkj] at hw
  have hStarts := startsInside_of_reads hw hy hv (extract_prefix_drop text (k + 1) j)
    (extract_prefix_drop text (k + 1) l)
  exact Bool.false_ne_true (hInside.symm.trans hStarts)

end Expr

/-! ## What a walk passes -/

namespace LeftmostWalk

variable {found : Nat → Nat → Prop} {resume : Nat} {spans : List Span}

theorem found_of_mem (h : LeftmostWalk found resume spans) {span : Span} (hSpan : span ∈ spans) :
    found span.start span.stop := by
  induction h with
  | stop nothing => cases hSpan
  | next onward least here others ih =>
    rcases List.mem_cons.mp hSpan with rfl | hSpan
    · exact here
    · exact ih hSpan

theorem exists_of_found (h : LeftmostWalk found resume spans) {i j : Nat} (hResume : resume ≤ i)
    (hFound : found i j) :
    ∃ span ∈ spans, span.start = i ∨ span.start < i ∧ i < span.stop := by
  induction h with
  | stop nothing => exact absurd hFound (nothing i j hResume)
  | @next resume span rest onward least here others ih =>
    rcases Nat.lt_trichotomy i span.start with hBefore | rfl | hBehind
    · exact absurd hFound (least i j hResume hBefore)
    · exact ⟨span, List.mem_cons_self, .inl rfl⟩
    · by_cases hPassed : i < span.stop
      · exact ⟨span, List.mem_cons_self, .inr ⟨hBehind, hPassed⟩⟩
      · obtain ⟨other, hOther, hStart⟩ := ih (by omega)
        exact ⟨other, List.mem_cons_of_mem _ hOther, hStart⟩

theorem le_start (hWide : ∀ i j, found i j → i < j) (h : LeftmostWalk found resume spans)
    {span : Span} (hSpan : span ∈ spans) : resume ≤ span.start := by
  induction h with
  | stop nothing => cases hSpan
  | next onward least here others ih =>
    rcases List.mem_cons.mp hSpan with rfl | hSpan
    · exact onward
    · have hStop := hWide _ _ here
      have hRest := ih hSpan
      omega

theorem pairwise_start_lt (hWide : ∀ i j, found i j → i < j)
    (h : LeftmostWalk found resume spans) : spans.Pairwise (·.start < ·.start) := by
  induction h with
  | stop nothing => exact .nil
  | next onward least here others ih =>
    refine .cons ?_ ih
    intro span hSpan
    exact Nat.lt_of_lt_of_le (hWide _ _ here) (le_start hWide others hSpan)

end LeftmostWalk

namespace Expr

variable {e : Expr} {text : List Char}

theorem matchAt_of_mem_occurrences (hPlain : e.isPlain = true) (hWide : 0 < e.ownWidth.least)
    {span : Span} (h : span ∈ e.occurrences text) : e.MatchAt text span.start span.stop :=
  (leftmostWalk_occurrences hPlain hWide text).found_of_mem h

/-- The walk starts an occurrence at each place where there is a match, and goes from left to
right. -/
theorem occurrences_of_neverOverlaps (hPlain : e.isPlain = true) (hWide : 0 < e.ownWidth.least)
    (hApart : e.neverOverlaps = true) (text : List Char) :
    (e.occurrences text).Pairwise (·.start < ·.start) ∧
      ∀ i, (∃ span ∈ e.occurrences text, span.start = i) ↔ ∃ j, e.MatchAt text i j := by
  have hWalk := leftmostWalk_occurrences hPlain hWide text
  refine ⟨hWalk.pairwise_start_lt fun i j h => h.lt hWide, ?_⟩
  intro i
  constructor
  · rintro ⟨span, hSpan, rfl⟩
    exact ⟨span.stop, hWalk.found_of_mem hSpan⟩
  · rintro ⟨j, hMatch⟩
    obtain ⟨span, hSpan, hStart | ⟨hBefore, hInside⟩⟩ :=
      hWalk.exists_of_found (Nat.zero_le i) hMatch
    · exact ⟨span, hSpan, hStart⟩
    · have hStop := (hWalk.found_of_mem hSpan).le_of_neverOverlaps hApart hMatch hBefore
      omega

end Expr

end ContractAudit.Regex
