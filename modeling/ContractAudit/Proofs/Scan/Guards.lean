import ContractAudit.Proofs.Catalog.Words
import ContractAudit.Proofs.Scan.Unmasked

/-!
# Guards

Two signatures of the default catalogue leave out what is guarded: a low-level call behind which a
requirement stands, and a function with an address among its parameters whose body compares with
the zero address. A matcher that meets a guard goes back and tries other ways to read what stands
before it. There are none that end elsewhere: a call and a function header are followed by one text
only (`CallStatement.unique`, `FunctionHeader.unique`), so a guard cannot be passed by.
-/

namespace ContractAudit

namespace Text

def behindFirst (mark : Char) (text : List Char) : List Char :=
  (text.dropWhile (· ≠ mark)).tail

theorem behindFirst_append {mark : Char} {front : List Char} (h : mark ∉ front)
    (rest : List Char) : behindFirst mark (front ++ mark :: rest) = rest := by
  have hFront : ∀ x ∈ front, decide (x ≠ mark) = true := by
    intro x hx
    refine decide_eq_true ?_
    rintro rfl
    exact h hx
  rw [behindFirst, List.dropWhile_append_of_pos hFront, List.dropWhile_cons_of_neg (by simp),
    List.tail_cons]

theorem notMem_of_isBlank {c : Char} (hc : isBlank c = false) {blanks : List Char}
    (h : ∀ x ∈ blanks, isBlank x = true) : c ∉ blanks := by
  intro hMem
  rw [h c hMem] at hc
  cases hc

theorem prefix_dropWhile_iff {word : List Char} (hWord : word.head?.any (!isBlank ·) = true)
    (text : List Char) :
    word <+: text.dropWhile isBlank ↔
      ∃ blanks, (∀ x ∈ blanks, isBlank x = true) ∧ blanks ++ word <+: text := by
  constructor
  · rintro ⟨rest, hRest⟩
    refine ⟨text.takeWhile isBlank, List.all_eq_true.mp List.all_takeWhile, rest, ?_⟩
    rw [List.append_assoc, hRest, List.takeWhile_append_dropWhile]
  · rintro ⟨blanks, hBlanks, rest, rfl⟩
    cases word with
    | nil => cases hWord
    | cons c word =>
      have hc : ¬isBlank c = true := by simpa using hWord
      rw [List.append_assoc, List.dropWhile_append_of_pos hBlanks, List.cons_append,
        List.dropWhile_cons_of_neg hc]
      exact List.prefix_append (c :: word) rest

end Text

namespace Scan

open Patterns (spells_blanks spells_gap spells_identifier spells_avoiding)
open Regex.Expr (text all oneOf notAhead spells_all_cons spells_all_append
  spells_all_nil spells_text spells_oneOf_cons spells_oneOf_singleton)

/-! ## Calls and requirements -/

/-- The text begins with a low-level call and the semicolon behind it; `rest` is what follows. The
arguments end at the first closing parenthesis. -/
def CallStatement (code rest : List Char) : Prop :=
  ∃ name ∈ ["call", "send", "transfer"], ∃ blanks arguments gap : List Char,
    code = ".".toList ++ name.toList ++ blanks ++ "(".toList ++ arguments ++ ")".toList ++ gap ++
      ";".toList ++ rest ∧
    (∀ x ∈ blanks, Text.isBlank x = true) ∧ ')' ∉ arguments ∧ ∀ x ∈ gap, Text.isBlank x = true

def RequireFollows (rest : List Char) : Prop :=
  "require".toList <+: rest.dropWhile Text.isBlank

def callParts : List Regex.Expr :=
  [text ".", oneOf [text "call", text "send", text "transfer"], Patterns.blanks, text "(",
    Patterns.avoiding ')', text ")", Patterns.blanks, text ";"]

theorem callStatement_iff {code rest : List Char} :
    CallStatement code rest ↔ ∃ w, code = w ++ rest ∧ (all callParts).Spells w := by
  simp only [callParts, spells_all_cons, spells_all_nil, spells_oneOf_cons, spells_oneOf_singleton,
    spells_text, spells_blanks, spells_avoiding]
  constructor
  · rintro ⟨name, hName, blanks, arguments, gap, rfl, hBlanks, hArguments, hGap⟩
    refine ⟨_, rfl, _, _, ?_, rfl, name.toList, _, rfl, ?_, _, _, rfl, hBlanks, _, _, rfl, rfl,
      _, _, rfl, hArguments, _, _, rfl, rfl, _, _, rfl, hGap, _, _, rfl, rfl, rfl⟩
    · simp only [List.append_assoc, List.append_nil]
    · simp only [List.mem_cons, List.not_mem_nil, or_false] at hName
      rcases hName with rfl | rfl | rfl <;> simp
  · rintro ⟨w, rfl, _, _, rfl, rfl, name, _, rfl, hName, blanks, _, rfl, hBlanks, _, _, rfl, rfl,
      arguments, _, rfl, hArguments, _, _, rfl, rfl, gap, _, rfl, hGap, _, _, rfl, rfl, rfl⟩
    refine ⟨String.ofList name, ?_, blanks, arguments, gap, ?_, hBlanks, hArguments, hGap⟩
    · rcases hName with rfl | rfl | rfl <;> simp
    · simp only [String.toList_ofList, List.append_assoc, List.append_nil]

/-- A call is followed by one text only, whichever way the call is read. -/
theorem CallStatement.unique {code rest : List Char} (h : CallStatement code rest) :
    rest = Text.behindFirst ';' (Text.behindFirst ')' code) := by
  obtain ⟨name, hName, blanks, arguments, gap, rfl, hBlanks, hArguments, hGap⟩ := h
  have hFront : ')' ∉ ".".toList ++ name.toList ++ blanks ++ "(".toList ++ arguments := by
    have hWord : ')' ∉ name.toList := by
      simp only [List.mem_cons, List.not_mem_nil, or_false] at hName
      rcases hName with rfl | rfl | rfl <;> decide
    have hBlank := Text.notMem_of_isBlank (c := ')') rfl hBlanks
    simp [hWord, hBlank, hArguments]
  have hGap : ';' ∉ gap := Text.notMem_of_isBlank rfl hGap
  calc rest
      = Text.behindFirst ';' (gap ++ ';' :: rest) := (Text.behindFirst_append hGap rest).symm
    _ = Text.behindFirst ';' (Text.behindFirst ')' (_ ++ ')' :: (gap ++ ';' :: rest))) := by
      rw [Text.behindFirst_append hFront]
    _ = _ := by simp

theorem requireFollows_iff {rest : List Char} :
    RequireFollows rest ↔
      ∃ v, (all [Patterns.blanks, text "require"]).Spells v ∧ v <+: rest := by
  simp only [spells_all_cons, spells_all_nil, spells_text, spells_blanks]
  rw [RequireFollows, Text.prefix_dropWhile_iff (by decide)]
  constructor
  · rintro ⟨blanks, hBlanks, hPrefix⟩
    exact ⟨_, ⟨blanks, _, rfl, hBlanks, _, _, rfl, rfl, rfl⟩, by rwa [List.append_nil]⟩
  · rintro ⟨_, ⟨blanks, _, rfl, hBlanks, _, _, rfl, rfl, rfl⟩, hPrefix⟩
    rw [List.append_nil] at hPrefix
    exact ⟨blanks, hBlanks, hPrefix⟩

/-! ## Functions and comparisons with the zero address -/

/-- Among the parameters stands `address`, then white space, then a character of a word. -/
def NamesAddress (parameters : List Char) : Prop :=
  ∃ front gap back : List Char, ∃ x : Char,
    parameters = front ++ "address".toList ++ gap ++ [x] ++ back ∧
    gap ≠ [] ∧ (∀ x ∈ gap, Text.isBlank x = true) ∧ Text.isWord x = true

/-- The text begins with the head of a function that can be called from outside and takes an
address; `body` is what follows the opening brace. The parameters end at the first closing
parenthesis. -/
def FunctionHeader (code body : List Char) : Prop :=
  ∃ visibility ∈ ["public", "external"], ∃ gap name blanks parameters space modifiers : List Char,
    code = "function".toList ++ gap ++ name ++ blanks ++ "(".toList ++ parameters ++ ")".toList ++
      space ++ visibility.toList ++ modifiers ++ "\x7b".toList ++ body ∧
    (gap ≠ [] ∧ ∀ x ∈ gap, Text.isBlank x = true) ∧
    (name ≠ [] ∧ ∀ x ∈ name, Text.isWord x = true) ∧
    (∀ x ∈ blanks, Text.isBlank x = true) ∧
    (')' ∉ parameters ∧ NamesAddress parameters) ∧
    (∀ x ∈ space, Text.isBlank x = true) ∧ '\x7b' ∉ modifiers

/-- Before the first closing brace a requirement begins whose condition compares with the zero
address before the first closing parenthesis. -/
def ChecksZeroAddress (body : List Char) : Prop :=
  ∃ front blanks condition gap back : List Char,
    body = front ++ "require".toList ++ blanks ++ "(".toList ++ condition ++ "!=".toList ++ gap ++
      "address(0)".toList ++ back ∧
    '\x7d' ∉ front ∧ (∀ x ∈ blanks, Text.isBlank x = true) ∧ ')' ∉ condition ∧
    ∀ x ∈ gap, Text.isBlank x = true

def parametersParts : List Regex.Expr :=
  [Patterns.avoiding ')', text "address", Patterns.gap, Patterns.identifier, Patterns.avoiding ')']

def headerParts : List Regex.Expr :=
  [text "function", Patterns.gap, Patterns.identifier, Patterns.blanks, text "("] ++
    parametersParts ++
    [text ")", Patterns.blanks, oneOf [text "public", text "external"], Patterns.avoiding '\x7b',
      text "\x7b"]

def zeroCheck : Regex.Expr :=
  all [Patterns.avoiding '\x7d', text "require", Patterns.blanks, text "(", Patterns.avoiding ')',
    text "!=", Patterns.blanks, text "address(0)"]

theorem spells_parametersParts {w : List Char} :
    (all parametersParts).Spells w ↔ ')' ∉ w ∧ NamesAddress w := by
  simp only [parametersParts, spells_all_cons, spells_all_nil, spells_text, spells_gap,
    spells_identifier, spells_avoiding]
  constructor
  · rintro ⟨front, _, rfl, hFront, _, _, rfl, rfl, gap, _, rfl, ⟨hGap, hBlank⟩, name, _, rfl,
      ⟨hName, hWord⟩, back, _, rfl, hBack, rfl⟩
    obtain ⟨x, name, rfl⟩ := List.exists_cons_of_ne_nil hName
    refine ⟨?_, front, gap, name ++ back, x, by simp, hGap, hBlank, hWord x List.mem_cons_self⟩
    have hSpace := Text.notMem_of_isBlank (c := ')') rfl hBlank
    have hLetters : ')' ∉ x :: name := fun h => absurd (hWord _ h) (by decide)
    simp only [List.mem_append, not_or, List.append_nil]
    exact ⟨hFront, by decide, hSpace, hLetters, hBack⟩
  · rintro ⟨hEnd, front, gap, back, x, rfl, hGap, hBlank, hWord⟩
    simp only [List.mem_append, not_or] at hEnd
    refine ⟨front, _, ?_, hEnd.1.1.1.1, _, _, rfl, rfl, gap, _, rfl, ⟨hGap, hBlank⟩, [x], _, rfl,
      ⟨List.cons_ne_nil x [], ?_⟩, back, _, rfl, hEnd.2, rfl⟩
    · simp
    · rintro y hy
      rwa [List.mem_singleton.mp hy]

theorem functionHeader_iff {code body : List Char} :
    FunctionHeader code body ↔ ∃ w, code = w ++ body ∧ (all headerParts).Spells w := by
  simp only [headerParts, spells_all_append, spells_parametersParts, spells_all_cons,
    spells_all_nil, spells_oneOf_cons, spells_oneOf_singleton, spells_text, spells_blanks,
    spells_gap, spells_identifier, spells_avoiding]
  constructor
  · rintro ⟨visibility, hVisibility, gap, name, blanks, parameters, space, modifiers, rfl, hGap,
      hName, hBlanks, hParameters, hSpace, hModifiers⟩
    refine ⟨_, rfl, _, _, ?_, ⟨_, parameters, rfl, ⟨_, _, rfl, rfl, gap, _, rfl, hGap, name, _, rfl,
      hName, blanks, _, rfl, hBlanks, _, _, rfl, rfl, rfl⟩, hParameters⟩, _, _, rfl, rfl, space, _,
      rfl, hSpace, visibility.toList, _, rfl, ?_, modifiers, _, rfl, hModifiers, _, _, rfl, rfl,
      rfl⟩
    · simp only [List.append_assoc, List.append_nil]
    · simp only [List.mem_cons, List.not_mem_nil, or_false] at hVisibility
      rcases hVisibility with rfl | rfl <;> simp
  · rintro ⟨_, rfl, _, _, rfl, ⟨_, parameters, rfl, ⟨_, _, rfl, rfl, gap, _, rfl, hGap, name, _,
      rfl, hName, blanks, _, rfl, hBlanks, _, _, rfl, rfl, rfl⟩, hParameters⟩, _, _, rfl, rfl,
      space, _, rfl, hSpace, visibility, _, rfl, hVisibility, modifiers, _, rfl, hModifiers, _, _,
      rfl, rfl, rfl⟩
    refine ⟨String.ofList visibility, ?_, gap, name, blanks, parameters, space, modifiers, ?_, hGap,
      hName, hBlanks, hParameters, hSpace, hModifiers⟩
    · rcases hVisibility with rfl | rfl <;> simp
    · simp only [String.toList_ofList, List.append_assoc, List.append_nil]

theorem FunctionHeader.unique {code body : List Char} (h : FunctionHeader code body) :
    body = Text.behindFirst '\x7b' (Text.behindFirst ')' code) := by
  obtain ⟨visibility, hVisibility, gap, name, blanks, parameters, space, modifiers, rfl, hGap,
    hName, hBlanks, hParameters, hSpace, hModifiers⟩ := h
  have hFront : ')' ∉ "function".toList ++ gap ++ name ++ blanks ++ "(".toList ++ parameters := by
    have hWord : ')' ∉ name := fun h => absurd (hName.2 _ h) (by decide)
    have hGap := Text.notMem_of_isBlank (c := ')') rfl hGap.2
    have hBlank := Text.notMem_of_isBlank (c := ')') rfl hBlanks
    simp [hWord, hGap, hBlank, hParameters.1]
  have hBehind : '\x7b' ∉ space ++ visibility.toList ++ modifiers := by
    have hWord : '\x7b' ∉ visibility.toList := by
      simp only [List.mem_cons, List.not_mem_nil, or_false] at hVisibility
      rcases hVisibility with rfl | rfl <;> decide
    have hBlank := Text.notMem_of_isBlank (c := '\x7b') rfl hSpace
    simp [hWord, hBlank, hModifiers]
  calc body
      = Text.behindFirst '\x7b' (_ ++ '\x7b' :: body) := (Text.behindFirst_append hBehind body).symm
    _ = Text.behindFirst '\x7b' (Text.behindFirst ')' (_ ++ ')' :: (_ ++ '\x7b' :: body))) := by
      rw [Text.behindFirst_append hFront]
    _ = _ := by simp

theorem checksZeroAddress_iff {body : List Char} :
    ChecksZeroAddress body ↔ ∃ v, zeroCheck.Spells v ∧ v <+: body := by
  simp only [zeroCheck, spells_all_cons, spells_all_nil, spells_text, spells_blanks,
    spells_avoiding]
  constructor
  · rintro ⟨front, blanks, condition, gap, back, rfl, hFront, hBlanks, hCondition, hGap⟩
    refine ⟨_, ⟨front, _, rfl, hFront, _, _, rfl, rfl, blanks, _, rfl, hBlanks, _, _, rfl, rfl,
      condition, _, rfl, hCondition, _, _, rfl, rfl, gap, _, rfl, hGap, _, _, rfl, rfl, rfl⟩,
      back, ?_⟩
    simp only [List.append_assoc, List.append_nil]
  · rintro ⟨_, ⟨front, _, rfl, hFront, _, _, rfl, rfl, blanks, _, rfl, hBlanks, _, _, rfl, rfl,
      condition, _, rfl, hCondition, _, _, rfl, rfl, gap, _, rfl, hGap, _, _, rfl, rfl, rfl⟩,
      back, rfl⟩
    refine ⟨front, blanks, condition, gap, back, ?_, hFront, hBlanks, hCondition, hGap⟩
    simp only [List.append_assoc, List.append_nil]

/-! ## Findings -/

variable {code content : List Char} {i : Nat}

def UncheckedCall (code : List Char) : Prop :=
  ∃ rest, CallStatement code rest ∧ ¬RequireFollows rest

def UncheckedFunction (code : List Char) : Prop :=
  ∃ body, FunctionHeader code body ∧ ¬ChecksZeroAddress body

theorem UncheckedCall.not_requireFollows (h : UncheckedCall code) {rest : List Char}
    (hCall : CallStatement code rest) : ¬RequireFollows rest := by
  obtain ⟨other, hOther, hNone⟩ := h
  rwa [hCall.unique, ← hOther.unique]

theorem UncheckedFunction.not_checksZeroAddress (h : UncheckedFunction code) {body : List Char}
    (hHeader : FunctionHeader code body) : ¬ChecksZeroAddress body := by
  obtain ⟨other, hOther, hNone⟩ := h
  rwa [hHeader.unique, ← hOther.unique]

theorem exists_matchAt_uncheckedReturn_iff (hi : i ≤ content.length) :
    (∃ j, Patterns.uncheckedReturn.MatchAt content i j) ↔ UncheckedCall (content.drop i) := by
  have hPattern : Patterns.uncheckedReturn =
      all (callParts ++ [notAhead (all [Patterns.blanks, text "require"])]) := rfl
  rw [hPattern, Regex.Expr.exists_matchAt_guarded_iff rfl rfl hi]
  simp only [UncheckedCall, callStatement_iff, requireFollows_iff, not_exists, not_and]
  constructor
  · rintro ⟨w, rest, hCode, hWord, hNone⟩
    exact ⟨rest, ⟨w, hCode, hWord⟩, hNone⟩
  · rintro ⟨rest, ⟨w, hCode, hWord⟩, hNone⟩
    exact ⟨w, rest, hCode, hWord, hNone⟩

theorem exists_matchAt_missingZeroCheck_iff (hi : i ≤ content.length) :
    (∃ j, Patterns.missingZeroCheck.MatchAt content i j) ↔ UncheckedFunction (content.drop i) := by
  have hPattern : Patterns.missingZeroCheck = all (headerParts ++ [notAhead zeroCheck]) := rfl
  rw [hPattern, Regex.Expr.exists_matchAt_guarded_iff rfl rfl hi]
  simp only [UncheckedFunction, functionHeader_iff, checksZeroAddress_iff, not_exists, not_and]
  constructor
  · rintro ⟨w, body, hCode, hWord, hNone⟩
    exact ⟨body, ⟨w, hCode, hWord⟩, hNone⟩
  · rintro ⟨body, ⟨w, hCode, hWord⟩, hNone⟩
    exact ⟨w, body, hCode, hWord, hNone⟩

def StartsAt (label : String) (content : List Char) (f : Finding) (i : Nat) : Prop :=
  ∃ s ∈ Catalog.standard.vulnerabilities, s.name = f.title ∧ ReportedAt label content s i f

theorem exists_startsAt {options : ScanOptions} {label content : String} {f : Finding}
    (hf : f ∈ scan .standard options label content) {title : Cell} (hTitle : f.title = title)
    (hListed : title ∈ Catalog.standard.vulnerabilities.map Signature.name) :
    ∃ i, StartsAt label content.toList f i := by
  obtain ⟨s, hs, rfl⟩ := List.mem_map.mp hListed
  obtain ⟨i, hReported⟩ := exists_reportedAt hf hs hTitle
  exact ⟨i, s, hs, hTitle.symm, hReported⟩

theorem StartsAt.exists_matchAt {label : String} {f : Finding} (h : StartsAt label content f i)
    {title : Cell} (hTitle : f.title = title) {pattern : Regex.Expr}
    (hPattern : ∀ s ∈ Catalog.standard.vulnerabilities, s.name = title → s.pattern = pattern) :
    i ≤ content.length ∧ ∃ j, pattern.MatchAt content i j := by
  obtain ⟨s, hs, hName, j, hMatch, -⟩ := h
  refine ⟨Nat.le_trans hMatch.1 hMatch.2.1, j, ?_⟩
  rwa [← hPattern s hs (hName.trans hTitle)]

theorem pattern_of_uncheckedReturn : ∀ s ∈ Catalog.standard.vulnerabilities,
    s.name = "Unchecked Return Value" → s.pattern = Patterns.uncheckedReturn := by
  decide

theorem pattern_of_missingZeroCheck : ∀ s ∈ Catalog.standard.vulnerabilities,
    s.name = "Missing Zero Address Check" → s.pattern = Patterns.missingZeroCheck := by
  decide

/-- The two guarded signatures match exactly where a call or a function stands without its guard.
No finding of theirs starts where the guard is present. -/
theorem guards_cannot_be_evaded :
    (∀ c : Regex.Cursor,
      (Patterns.uncheckedReturn.matchAt? c).isSome = true ↔ UncheckedCall c.after) ∧
    (∀ c : Regex.Cursor,
      (Patterns.missingZeroCheck.matchAt? c).isSome = true ↔ UncheckedFunction c.after) ∧
    ∀ (options : ScanOptions) (label content : String),
      ∀ f ∈ scan .standard options label content,
        (f.title = "Unchecked Return Value" →
          (∃ i, StartsAt label content.toList f i) ∧
          ∀ i, StartsAt label content.toList f i →
            ∀ rest, CallStatement (content.toList.drop i) rest → ¬RequireFollows rest) ∧
        (f.title = "Missing Zero Address Check" →
          (∃ i, StartsAt label content.toList f i) ∧
          ∀ i, StartsAt label content.toList f i →
            ∀ body, FunctionHeader (content.toList.drop i) body → ¬ChecksZeroAddress body) := by
  refine ⟨?_, ?_, ?_⟩
  · intro c
    rw [Regex.Expr.isSome_matchAt?_iff rfl, exists_matchAt_uncheckedReturn_iff c.offset_le,
      c.drop_text]
  · intro c
    rw [Regex.Expr.isSome_matchAt?_iff rfl, exists_matchAt_missingZeroCheck_iff c.offset_le,
      c.drop_text]
  · intro options label content f hf
    constructor
    · intro hTitle
      refine ⟨exists_startsAt hf hTitle (by decide), ?_⟩
      intro i hStart rest hCall
      obtain ⟨hi, hMatch⟩ := hStart.exists_matchAt hTitle pattern_of_uncheckedReturn
      exact ((exists_matchAt_uncheckedReturn_iff hi).mp hMatch).not_requireFollows hCall
    · intro hTitle
      refine ⟨exists_startsAt hf hTitle (by decide), ?_⟩
      intro i hStart body hHeader
      obtain ⟨hi, hMatch⟩ := hStart.exists_matchAt hTitle pattern_of_missingZeroCheck
      exact ((exists_matchAt_missingZeroCheck_iff hi).mp hMatch).not_checksZeroAddress hHeader

def halfGuarded : String :=
  "function set(address a) public \x7b\n  x.send(1);\n  y.send(2); require(a != b);\n\x7d"

theorem guards_cannot_be_evaded_halfGuarded :
    (scan .standard ⟨true, false⟩ "a.sol" halfGuarded).map (fun f => (f.title, f.line)) =
      [(.text "Unchecked Return Value", 2), (.text "Missing Zero Address Check", 1)] ∧
    (∃ f ∈ scan .standard ⟨true, false⟩ "a.sol" halfGuarded, f.title = "Unchecked Return Value" ∧
      (∃ i, StartsAt "a.sol" halfGuarded.toList f i) ∧
      ∀ i, StartsAt "a.sol" halfGuarded.toList f i →
        ∀ rest, CallStatement (halfGuarded.toList.drop i) rest → ¬RequireFollows rest) ∧
    ∃ f ∈ scan .standard ⟨true, false⟩ "a.sol" halfGuarded,
      f.title = "Missing Zero Address Check" ∧
      (∃ i, StartsAt "a.sol" halfGuarded.toList f i) ∧
      ∀ i, StartsAt "a.sol" halfGuarded.toList f i →
        ∀ body, FunctionHeader (halfGuarded.toList.drop i) body → ¬ChecksZeroAddress body := by
  have hFindings := guards_cannot_be_evaded.2.2 ⟨true, false⟩ "a.sol" halfGuarded
  have hTold : (scan .standard ⟨true, false⟩ "a.sol" halfGuarded).map
      (fun f => (f.title, f.line)) =
      [(.text "Unchecked Return Value", 2), (.text "Missing Zero Address Check", 1)] := by
    decide +kernel
  obtain ⟨f, hf, hFirst⟩ := List.exists_of_mem_map (hTold ▸ List.mem_cons_self)
  obtain ⟨g, hg, hSecond⟩ :=
    List.exists_of_mem_map (hTold ▸ List.mem_cons_of_mem _ List.mem_cons_self)
  have hCall := (Prod.mk.inj hFirst).1
  have hFunction := (Prod.mk.inj hSecond).1
  exact ⟨hTold, ⟨f, hf, hCall, (hFindings f hf).1 hCall⟩,
    g, hg, hFunction, (hFindings g hg).2 hFunction⟩

end Scan

end ContractAudit
