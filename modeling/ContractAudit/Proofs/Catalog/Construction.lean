import ContractAudit.Catalog.Rows
import ContractAudit.Proofs.Fallible

/-!
# Building a catalogue from rows

A catalogue is built whole or not at all. If all rows are in order, each gives one entry, in the
order of the rows. Otherwise the first row that is not in order decides the error, the rows of
vulnerabilities being looked at before those of gas idioms, and in that row the first check that
fails: the number of cells, the category, the severity and the pattern, in this order
(`construction_is_all_or_nothing`).
-/

namespace ContractAudit.Catalog

/-! ## What rows have to be like -/

structure SoundRow (row : List Cell) : Prop where
  length : row.length = 6
  category : ∃ category : Category, row[1]? = some (.text category.name)
  severity : ∃ level : Severity, row[2]? = some (.text level.name)
  pattern : ∃ text e, row[3]? = some (.text text) ∧ Regex.parse text = .ok e

structure SoundGasRow (row : List Cell) : Prop where
  length : row.length = 4
  pattern : ∃ text e, row[1]? = some (.text text) ∧ Regex.parse text = .ok e

inductive LengthFails (expected : Nat) (row : List Cell) : RowError → Prop where
  | few (h : row.length < expected) : LengthFails expected row (.tooFewCells expected row.length)
  | many (h : expected < row.length) : LengthFails expected row (.tooManyCells expected)

/-- The error about a cell that should hold the pattern of a named row. A malformed text is reported
with the name, but one that asks for too much is not: its error goes by as it is. A cell that holds
no text has an error of its own. -/
inductive PatternFails (name : Cell) : Cell → RowError → Prop where
  | notText {cell : Cell} (h : ∀ text, cell ≠ .text text) : PatternFails name cell .patternNotText
  | malformed {text : String} {fault : Regex.Fault} (h : Regex.parse text = .error fault)
      (hFault : ∀ excess, fault ≠ .excess excess) :
      PatternFails name (.text text) (.malformed name text fault)
  | excessive {text : String} {excess : Regex.Excess}
      (h : Regex.parse text = .error (.excess excess)) :
      PatternFails name (.text text) (.excessive excess)

/-- The first check that the row of a vulnerability fails, with its error. -/
inductive RowFails : List Cell → RowError → Prop where
  | length {row : List Cell} {error : RowError} (h : LengthFails 6 row error) : RowFails row error
  | category {name category severity pattern description recommendation : Cell}
      (h : ∀ c : Category, category ≠ .text c.name) :
      RowFails [name, category, severity, pattern, description, recommendation]
        (.badCell (.notCategory category))
  | severity {name severity pattern description recommendation : Cell} (category : Category)
      (h : ∀ level : Severity, severity ≠ .text level.name) :
      RowFails [name, .text category.name, severity, pattern, description, recommendation]
        (.badCell (.notSeverity severity))
  | pattern {name pattern description recommendation : Cell} {error : RowError}
      (category : Category) (level : Severity) (h : PatternFails name pattern error) :
      RowFails [name, .text category.name, .text level.name, pattern, description, recommendation]
        error

inductive GasRowFails : List Cell → RowError → Prop where
  | length {row : List Cell} {error : RowError} (h : LengthFails 4 row error) :
      GasRowFails row error
  | pattern {title pattern description savings : Cell} {error : RowError}
      (h : PatternFails title pattern error) :
      GasRowFails [title, pattern, description, savings] error

def FirstFails (Passes : List Cell → Prop) (Fails : List Cell → RowError → Prop)
    (rows : List (List Cell)) (error : RowError) : Prop :=
  ∃ before row after, rows = before ++ row :: after ∧ (∀ r ∈ before, Passes r) ∧ Fails row error

def Describes (row : List Cell) (s : Signature) : Prop :=
  ∃ text, row = [s.name, .text s.category.name, .text s.severity.name, .text text, s.description,
    s.recommendation] ∧ Regex.parse text = .ok s.pattern

def DescribesIdiom (row : List Cell) (g : GasSignature) : Prop :=
  ∃ text, row = [g.title, .text text, g.description, g.savings] ∧ Regex.parse text = .ok g.pattern

/-! ## Single rows -/

theorem not_lengthFails {expected : Nat} {row : List Cell} (h : row.length = expected)
    {error : RowError} : ¬LengthFails expected row error := by
  rintro (hFew | hMany) <;> omega

theorem lengthFails_iff {expected : Nat} {row : List Cell} (h : row.length ≠ expected)
    {error : RowError} : LengthFails expected row error ↔ lengthError expected row = error := by
  rw [lengthError]
  constructor
  · rintro (hFew | hMany)
    · rw [if_pos hFew]
    · rw [if_neg (by omega)]
  · rintro rfl
    split
    · exact .few ‹_›
    · exact .many (by omega)

theorem patternOf_eq_ok_iff {name cell : Cell} {e : Regex.Expr} :
    patternOf name cell = .ok e ↔ ∃ text, cell = .text text ∧ Regex.parse text = .ok e := by
  cases cell with
  | text text =>
    rw [patternOf]
    split <;> simp_all
  | absent | flag | number => simp [patternOf]

theorem patternOf_eq_error_iff {name cell : Cell} {error : RowError} :
    patternOf name cell = .error error ↔ PatternFails name cell error := by
  constructor
  · intro h
    cases cell with
    | text text =>
      rw [patternOf] at h
      split at h
      · cases h
      · rename_i excess hParse
        cases h
        exact .excessive hParse
      · rename_i fault hFault hParse
        cases h
        exact .malformed hParse hFault
    | absent | flag | number =>
      cases h
      exact .notText (by simp)
  · intro h
    cases h with
    | notText h =>
      cases cell with
      | text text => exact absurd rfl (h text)
      | absent | flag | number => rfl
    | @malformed text fault h hFault =>
      rw [patternOf, h]
      cases fault with
      | excess e => exact absurd rfl (hFault e)
      | atPosition | variableLookBehind | templateRepeat => rfl
    | excessive h => rw [patternOf, h]

theorem signatureOfRow_eq_ok_iff {row : List Cell} {s : Signature} :
    signatureOfRow row = .ok s ↔ Describes row s := by
  constructor
  · intro h
    rw [signatureOfRow.eq_def] at h
    split at h
    · obtain ⟨category, hCategory, h⟩ := exists_of_bind_eq_ok h
      obtain ⟨severity, hSeverity, h⟩ := exists_of_bind_eq_ok h
      obtain ⟨pattern, hPattern, h⟩ := exists_of_bind_eq_ok h
      cases h
      have hCategory := Category.ofCell_eq_ok_iff.mp (eq_ok_of_mapError hCategory)
      have hSeverity := Severity.ofCell_eq_ok_iff.mp (eq_ok_of_mapError hSeverity)
      obtain ⟨text, hText, hParse⟩ := patternOf_eq_ok_iff.mp hPattern
      exact ⟨text, by rw [hCategory, hSeverity, hText], hParse⟩
    · cases h
  · rintro ⟨text, rfl, hParse⟩
    have hPattern := (@patternOf_eq_ok_iff s.name _ _).mpr ⟨text, rfl, hParse⟩
    rw [signatureOfRow, Category.ofCell_name, Severity.ofCell_name, hPattern]
    rfl

theorem signatureOfRow_of_length {row : List Cell} (h : row.length ≠ 6) :
    signatureOfRow row = .error (lengthError 6 row) := by
  rw [signatureOfRow.eq_def]
  split
  · exact absurd rfl h
  · rfl

theorem rowFails_of_signatureOfRow
    {name category severity pattern description recommendation : Cell} {error : RowError}
    (h : signatureOfRow [name, category, severity, pattern, description, recommendation] =
      .error error) :
    RowFails [name, category, severity, pattern, description, recommendation] error := by
  rw [signatureOfRow] at h
  cases hCategory : Category.ofCell category with
  | error reason =>
    rw [hCategory] at h
    cases h
    obtain ⟨hNone, rfl⟩ := Category.ofCell_eq_error_iff.mp hCategory
    exact .category hNone
  | ok named =>
    rw [hCategory] at h
    obtain rfl := Category.ofCell_eq_ok_iff.mp hCategory
    cases hSeverity : Severity.ofCell severity with
    | error reason =>
      rw [hSeverity] at h
      cases h
      obtain ⟨hNone, rfl⟩ := Severity.ofCell_eq_error_iff.mp hSeverity
      exact .severity named hNone
    | ok level =>
      rw [hSeverity] at h
      obtain rfl := Severity.ofCell_eq_ok_iff.mp hSeverity
      cases hPattern : patternOf name pattern with
      | error reason =>
        rw [hPattern] at h
        cases h
        exact .pattern named level (patternOf_eq_error_iff.mp hPattern)
      | ok e =>
        rw [hPattern] at h
        cases h

theorem signatureOfRow_eq_error_iff {row : List Cell} {error : RowError} :
    signatureOfRow row = .error error ↔ RowFails row error := by
  by_cases hLength : row.length = 6
  · constructor
    · match row, hLength with
      | [name, category, severity, pattern, description, recommendation], _ =>
        exact rowFails_of_signatureOfRow
    · intro h
      cases h with
      | length h => exact absurd h (not_lengthFails hLength)
      | category h =>
        rw [signatureOfRow, Category.ofCell_eq_error_iff.mpr ⟨h, rfl⟩]
        rfl
      | severity category h =>
        rw [signatureOfRow, Category.ofCell_name, Severity.ofCell_eq_error_iff.mpr ⟨h, rfl⟩]
        rfl
      | pattern category level h =>
        rw [signatureOfRow, Category.ofCell_name, Severity.ofCell_name,
          patternOf_eq_error_iff.mpr h]
        rfl
  · rw [signatureOfRow_of_length hLength, Except.error.injEq, ← lengthFails_iff hLength]
    constructor
    · exact .length
    · intro h
      cases h with
      | length h => exact h
      | category | severity | pattern => exact absurd rfl hLength

theorem exists_describes_iff {row : List Cell} : (∃ s, Describes row s) ↔ SoundRow row := by
  constructor
  · rintro ⟨s, text, rfl, hParse⟩
    exact ⟨rfl, ⟨s.category, rfl⟩, ⟨s.severity, rfl⟩, text, s.pattern, rfl, hParse⟩
  · rintro ⟨hLength, ⟨category, hCategory⟩, ⟨level, hSeverity⟩, text, e, hText, hParse⟩
    match row, hLength with
    | [name, c, s, p, description, recommendation], _ =>
      cases hCategory
      cases hSeverity
      cases hText
      exact ⟨⟨name, category, level, e, description, recommendation⟩, text, rfl, hParse⟩

theorem gasSignatureOfRow_eq_ok_iff {row : List Cell} {g : GasSignature} :
    gasSignatureOfRow row = .ok g ↔ DescribesIdiom row g := by
  constructor
  · intro h
    rw [gasSignatureOfRow.eq_def] at h
    split at h
    · obtain ⟨pattern, hPattern, h⟩ := exists_of_bind_eq_ok h
      cases h
      obtain ⟨text, rfl, hParse⟩ := patternOf_eq_ok_iff.mp hPattern
      exact ⟨text, rfl, hParse⟩
    · cases h
  · rintro ⟨text, rfl, hParse⟩
    have hPattern := (@patternOf_eq_ok_iff g.title _ _).mpr ⟨text, rfl, hParse⟩
    rw [gasSignatureOfRow, hPattern]
    rfl

theorem gasSignatureOfRow_eq_error_iff {row : List Cell} {error : RowError} :
    gasSignatureOfRow row = .error error ↔ GasRowFails row error := by
  by_cases hLength : row.length = 4
  · match row, hLength with
    | [title, pattern, description, savings], hLength =>
      rw [gasSignatureOfRow]
      constructor
      · intro h
        cases hPattern : patternOf title pattern with
        | error reason =>
          rw [hPattern] at h
          cases h
          exact .pattern (patternOf_eq_error_iff.mp hPattern)
        | ok e =>
          rw [hPattern] at h
          cases h
      · intro h
        cases h with
        | length h => exact absurd h (not_lengthFails hLength)
        | pattern h =>
          rw [patternOf_eq_error_iff.mpr h]
          rfl
  · have hRow : gasSignatureOfRow row = .error (lengthError 4 row) := by
      rw [gasSignatureOfRow.eq_def]
      split
      · exact absurd rfl hLength
      · rfl
    rw [hRow, Except.error.injEq, ← lengthFails_iff hLength]
    constructor
    · exact .length
    · intro h
      cases h with
      | length h => exact h
      | pattern => exact absurd rfl hLength

theorem exists_describesIdiom_iff {row : List Cell} :
    (∃ g, DescribesIdiom row g) ↔ SoundGasRow row := by
  constructor
  · rintro ⟨g, text, rfl, hParse⟩
    exact ⟨rfl, text, g.pattern, rfl, hParse⟩
  · rintro ⟨hLength, text, e, hText, hParse⟩
    match row, hLength with
    | [title, p, description, savings], _ =>
      cases hText
      exact ⟨⟨title, e, description, savings⟩, text, rfl, hParse⟩

/-! ## All rows -/

section Rows

variable {vulnerabilities gas : List (List Cell)} {error : RowError}

theorem ofRows_eq_ok_iff {catalog : Catalog} :
    ofRows (some vulnerabilities) (some gas) = .ok catalog ↔
      vulnerabilities.mapM signatureOfRow = .ok catalog.vulnerabilities ∧
        gas.mapM gasSignatureOfRow = .ok catalog.gas := by
  constructor
  · intro h
    obtain ⟨signatures, hSignatures, h⟩ := exists_of_bind_eq_ok h
    obtain ⟨idioms, hIdioms, h⟩ := exists_of_bind_eq_ok h
    cases h
    exact ⟨hSignatures, hIdioms⟩
  · rintro ⟨hSignatures, hIdioms⟩
    exact bind_eq_ok hSignatures (bind_eq_ok hIdioms rfl)

theorem exists_signatures_iff :
    (∃ signatures, vulnerabilities.mapM signatureOfRow = .ok signatures) ↔
      ∀ row ∈ vulnerabilities, SoundRow row := by
  simp only [exists_mapM_eq_ok_iff, signatureOfRow_eq_ok_iff, exists_describes_iff]

theorem exists_idioms_iff :
    (∃ idioms, gas.mapM gasSignatureOfRow = .ok idioms) ↔ ∀ row ∈ gas, SoundGasRow row := by
  simp only [exists_mapM_eq_ok_iff, gasSignatureOfRow_eq_ok_iff, exists_describesIdiom_iff]

theorem exists_ofRows_iff :
    (∃ catalog, ofRows (some vulnerabilities) (some gas) = .ok catalog) ↔
      (∀ row ∈ vulnerabilities, SoundRow row) ∧ ∀ row ∈ gas, SoundGasRow row := by
  rw [← exists_signatures_iff, ← exists_idioms_iff]
  simp only [ofRows_eq_ok_iff]
  constructor
  · rintro ⟨catalog, hSignatures, hIdioms⟩
    exact ⟨⟨_, hSignatures⟩, _, hIdioms⟩
  · rintro ⟨⟨signatures, hSignatures⟩, idioms, hIdioms⟩
    exact ⟨⟨signatures, idioms⟩, hSignatures, hIdioms⟩

theorem describes_of_ofRows {catalog : Catalog}
    (h : ofRows (some vulnerabilities) (some gas) = .ok catalog) :
    List.Forall₂ Describes vulnerabilities catalog.vulnerabilities ∧
      List.Forall₂ DescribesIdiom gas catalog.gas := by
  simpa only [ofRows_eq_ok_iff, mapM_eq_ok_iff, signatureOfRow_eq_ok_iff,
    gasSignatureOfRow_eq_ok_iff] using h

theorem signatures_eq_error_iff :
    vulnerabilities.mapM signatureOfRow = .error error ↔
      FirstFails SoundRow RowFails vulnerabilities error := by
  simp only [mapM_eq_error_iff, signatureOfRow_eq_ok_iff, exists_describes_iff,
    signatureOfRow_eq_error_iff, FirstFails]

theorem idioms_eq_error_iff :
    gas.mapM gasSignatureOfRow = .error error ↔
      FirstFails SoundGasRow GasRowFails gas error := by
  simp only [mapM_eq_error_iff, gasSignatureOfRow_eq_ok_iff, exists_describesIdiom_iff,
    gasSignatureOfRow_eq_error_iff, FirstFails]

theorem ofRows_eq_error_iff :
    ofRows (some vulnerabilities) (some gas) = .error error ↔
      FirstFails SoundRow RowFails vulnerabilities error ∨
        (∀ row ∈ vulnerabilities, SoundRow row) ∧
          FirstFails SoundGasRow GasRowFails gas error := by
  rw [← signatures_eq_error_iff, ← exists_signatures_iff, ← idioms_eq_error_iff]
  have hRows : ofRows (some vulnerabilities) (some gas) =
      vulnerabilities.mapM signatureOfRow >>= fun signatures =>
        gas.mapM gasSignatureOfRow >>= fun idioms => pure ⟨signatures, idioms⟩ := rfl
  rw [hRows]
  cases vulnerabilities.mapM signatureOfRow with
  | error reason => simp [bind, Except.bind]
  | ok signatures =>
    cases gas.mapM gasSignatureOfRow with
    | error reason => simp [bind, Except.bind]
    | ok idioms => simp [bind, Except.bind, pure, Except.pure]

theorem listing_of_describes {catalog : Catalog}
    (h : List.Forall₂ Describes vulnerabilities catalog.vulnerabilities) :
    catalog.listing.map (fun s => [s.name, .text s.category, .text s.severity]) =
      vulnerabilities.map (List.take 3) := by
  rw [listing, List.map_map]
  generalize catalog.vulnerabilities = signatures at h
  induction h with
  | nil => rfl
  | cons hRow hRest ih =>
    obtain ⟨text, rfl, -⟩ := hRow
    rw [List.map_cons, List.map_cons, ih]
    rfl

end Rows

/-- A catalogue is built exactly from rows that are all in order. Its listing then shows the first
three cells of each row of a vulnerability, and it has one entry for each row, in the order of the
rows. Otherwise the error is that of the first row that fails. -/
theorem construction_is_all_or_nothing (vulnerabilities gas : List (List Cell)) :
    ((∃ catalog, ofRows (some vulnerabilities) (some gas) = .ok catalog) ↔
      (∀ row ∈ vulnerabilities, SoundRow row) ∧ ∀ row ∈ gas, SoundGasRow row) ∧
    (∀ catalog, ofRows (some vulnerabilities) (some gas) = .ok catalog →
      catalog.listing.map (fun s => [s.name, .text s.category, .text s.severity]) =
        vulnerabilities.map (List.take 3) ∧
      List.Forall₂ Describes vulnerabilities catalog.vulnerabilities ∧
      List.Forall₂ DescribesIdiom gas catalog.gas) ∧
    (∀ error, ofRows (some vulnerabilities) (some gas) = .error error ↔
      FirstFails SoundRow RowFails vulnerabilities error ∨
        (∀ row ∈ vulnerabilities, SoundRow row) ∧
          FirstFails SoundGasRow GasRowFails gas error) := by
  refine ⟨exists_ofRows_iff, fun catalog h => ?_, fun error => ofRows_eq_error_iff⟩
  obtain ⟨hSignatures, hIdioms⟩ := describes_of_ofRows h
  exact ⟨listing_of_describes hSignatures, hSignatures, hIdioms⟩

/-- Rows that a catalogue is built of, and two attempts that fail. In the first of them, a row is
bad in its severity and in its pattern, and of what follows nothing is reported. In the second, all
vulnerabilities are in order, and the first bad idiom is reported. -/
theorem construction_is_all_or_nothing_mixed :
    (∃ catalog,
      ofRows (some [["Loop", "gas", "low", "for", "d", "r"]]) (some [["Add", "a+", "d", "s"]]) =
        .ok catalog ∧
      catalog.listing.map (fun s => [s.name, .text s.category, .text s.severity]) =
        [[.text "Loop", .text "gas", .text "low"]]) ∧
    ofRows (some [["Loop", "gas", "low", "for", "d", "r"], ["Odd", "gas", "urgent", "(", "d", "r"],
      ["Short"]]) (some [["Open", "(", "d", "s"]]) = .error (.badCell (.notSeverity "urgent")) ∧
    ∃ fault, ofRows (some [["Loop", "gas", "low", "for", "d", "r"]])
      (some [["Open", "(", "d", "s"], ["Short"]]) = .error (.malformed "Open" "(" fault) := by
  have hLoop : SoundRow ["Loop", "gas", "low", "for", "d", "r"] :=
    ⟨rfl, ⟨.gas, rfl⟩, ⟨.low, rfl⟩, "for", _, rfl, rfl⟩
  have hAdd : SoundGasRow ["Add", "a+", "d", "s"] := ⟨rfl, "a+", _, rfl, rfl⟩
  have hOdd : RowFails ["Odd", "gas", "urgent", "(", "d", "r"]
      (.badCell (.notSeverity "urgent")) :=
    .severity .gas (by rintro (_ | _ | _ | _) <;> decide)
  obtain ⟨fault, hOpen⟩ : ∃ fault, GasRowFails ["Open", "(", "d", "s"]
      (.malformed "Open" "(" fault) := ⟨_, .pattern (.malformed rfl (by simp))⟩
  refine ⟨?_, ?_, fault, ?_⟩
  · obtain ⟨hBuilt, hContents, -⟩ := construction_is_all_or_nothing
      [["Loop", "gas", "low", "for", "d", "r"]] [["Add", "a+", "d", "s"]]
    obtain ⟨catalog, h⟩ := hBuilt.mpr
      ⟨List.forall_mem_singleton.mpr hLoop, List.forall_mem_singleton.mpr hAdd⟩
    exact ⟨catalog, h, (hContents catalog h).1⟩
  · refine ((construction_is_all_or_nothing _ _).2.2 _).mpr (.inl ⟨[_], _, _, rfl, ?_, hOdd⟩)
    exact List.forall_mem_singleton.mpr hLoop
  · refine ((construction_is_all_or_nothing _ _).2.2 _).mpr
      (.inr ⟨List.forall_mem_singleton.mpr hLoop, ?_⟩)
    exact ⟨[], _, _, rfl, List.forall_mem_nil _, hOpen⟩

/-- Nothing can be matched with two alphabets. Asked for in one place they are reported with the
name of the row, and asked for in two places they are refused without it. -/
theorem second_alphabet_lacks_name :
    (∃ fault, ofRows (some [["Twice", "security", "low", "(?au)x", "d", "r"]]) (some []) =
      .error (.malformed "Twice" "(?au)x" fault)) ∧
    (∃ fault, Regex.parse "(?a)(?u)x" = .error fault) ∧
    (∃ error, ofRows (some [["Twice", "security", "low", "(?a)(?u)x", "d", "r"]]) (some []) =
      .error error) ∧
    ∀ fault, ofRows (some [["Twice", "security", "low", "(?a)(?u)x", "d", "r"]]) (some []) ≠
      .error (.malformed "Twice" "(?a)(?u)x" fault) := by
  have hRefused : ofRows (some [["Twice", "security", "low", "(?a)(?u)x", "d", "r"]]) (some []) =
      .error (.excessive .alphabets) := by
    decide +kernel
  refine ⟨⟨_, rfl⟩, ⟨_, rfl⟩, ⟨_, hRefused⟩, fun fault h => ?_⟩
  rw [hRefused] at h
  cases h

end ContractAudit.Catalog
