import ContractAudit.Proofs.Text.LetterCase
import ContractAudit.Severity

/-!
# Which texts name a severity

A text names a level if it spells the level's name in capital and small letters of ASCII, between
white space. Nothing else is accepted, although the text is put into small letters of any script
before it is looked at: no name holds a `k`, and a dotted capital i leaves its dot behind.
-/

namespace ContractAudit.Severity

/-- White space, the letters of the level's name in capital or small form, and white space. -/
def Spells (text : List Char) (level : Severity) : Prop :=
  ∃ front word back, text = front ++ word ++ back ∧ (∀ c ∈ front, Text.isBlank c = true) ∧
    (∀ c ∈ back, Text.isBlank c = true) ∧ List.Forall₂ Text.IsFormOf level.name.toList word

theorem mem_plainLetters_of_mem_name (level : Severity) :
    ∀ letter ∈ level.name.toList, letter ∈ Text.plainLetters :=
  List.all_iff_forall_prop.mp (by cases level <;> decide)

theorem isAlpha_of_isFormOf {letter c : Char} (h : letter ∈ Text.plainLetters)
    (hc : Text.IsFormOf letter c) : c.isAlpha = true ∧ Text.isBlank c = false := by
  have hAll : ∀ letter ∈ Text.plainLetters,
      (letter.isAlpha = true ∧ Text.isBlank letter = false) ∧
        letter.toUpper.isAlpha = true ∧ Text.isBlank letter.toUpper = false :=
    List.all_iff_forall_prop.mp (by decide +kernel)
  rcases hc with rfl | rfl
  · exact (hAll c h).1
  · exact (hAll letter h).2

theorem isAlpha_of_mem_word {level : Severity} {word : List Char}
    (h : List.Forall₂ Text.IsFormOf level.name.toList word) {c : Char} (hc : c ∈ word) :
    c.isAlpha = true ∧ Text.isBlank c = false := by
  obtain ⟨i, hi, rfl⟩ := List.getElem_of_mem hc
  have hLetter : i < level.name.toList.length := h.length_eq ▸ hi
  exact isAlpha_of_isFormOf (mem_plainLetters_of_mem_name level _ (List.getElem_mem hLetter))
    (h.get hLetter hi)

theorem parse_eq_ok_iff_lowercase {text : String} {level : Severity} :
    parse text = .ok level ↔
      Text.lowercase (Text.strip text.toList) = level.name.toList := by
  have hName : ofName? (String.ofList (Text.lowercase (Text.strip text.toList))) = some level ↔
      Text.lowercase (Text.strip text.toList) = level.name.toList := by
    rw [ofName?_eq_some_iff, ← String.toList_inj, String.toList_ofList]
  rw [← hName, parse]
  split
  · rename_i other hOther
    rw [hOther, Except.ok.injEq, Option.some.injEq]
  · rename_i hNone
    rw [hNone]
    simp

theorem parse_eq_ok_iff {text : String} {level : Severity} :
    parse text = .ok level ↔ Spells text.toList level := by
  rw [parse_eq_ok_iff_lowercase, Text.lowercase_eq_iff (mem_plainLetters_of_mem_name level)]
  constructor
  · intro hWord
    obtain ⟨front, back, hFront, hBack, hText⟩ := Text.exists_around_eq_strip text.toList
    exact ⟨front, _, back, hText.symm, hFront, hBack, hWord⟩
  · rintro ⟨front, word, back, hText, hFront, hBack, hWord⟩
    rwa [hText, Text.strip_around hFront hBack,
      Text.strip_eq_self fun c hc => (isAlpha_of_mem_word hWord hc).2]

theorem parse_eq_error_iff {text : String} {error : Unknown} :
    parse text = .error error ↔ (∀ level, ¬Spells text.toList level) ∧ error = ⟨text⟩ := by
  have hCases : parse text = .error ⟨text⟩ ∨ ∃ level, parse text = .ok level := by
    rw [parse]
    split
    · exact .inr ⟨_, rfl⟩
    · exact .inl rfl
  constructor
  · intro h
    refine ⟨fun level hSpells => ?_, ?_⟩
    · rw [parse_eq_ok_iff.mpr hSpells] at h
      cases h
    · rcases hCases with hError | ⟨level, hOk⟩
      · rw [hError] at h
        exact (Except.error.inj h).symm
      · rw [hOk] at h
        cases h
  · rintro ⟨hNone, rfl⟩
    rcases hCases with hError | ⟨level, hOk⟩
    · exact hError
    · exact absurd (parse_eq_ok_iff.mp hOk) (hNone level)

theorem Spells.cases {text : List Char} {level : Severity} (h : Spells text level) {c : Char}
    (hc : c ∈ text) : Text.isBlank c = true ∨ c.isAlpha = true := by
  obtain ⟨front, word, back, rfl, hFront, hBack, hWord⟩ := h
  rcases List.mem_append.mp hc with hc | hc
  · rcases List.mem_append.mp hc with hc | hc
    · exact .inl (hFront c hc)
    · exact .inr (isAlpha_of_mem_word hWord hc).1
  · exact .inl (hBack c hc)

theorem message_unknown (text : String) : (Unknown.mk text).message =
    "Unknown severity '" ++ text ++ "'. Allowed: low, medium, high, critical" := by
  have hAllowed : "'. Allowed: " ++ ", ".intercalate (all.map name) =
      "'. Allowed: low, medium, high, critical" := by
    decide +kernel
  exact String.append_assoc.trans (congrArg ("Unknown severity '" ++ text ++ ·) hAllowed)

/-- A text is read as a level exactly if it spells the level's name. So a text with a character that
is neither white space nor a letter of ASCII is refused. What is refused is quoted as it stands. -/
theorem severity_names_are_exact (text : String) :
    (∀ level, parse text = .ok level ↔ Spells text.toList level) ∧
    ((∃ c ∈ text.toList, Text.isBlank c = false ∧ c.isAlpha = false) →
      parse text = .error ⟨text⟩) ∧
    ∀ error, parse text = .error error ↔
      (∀ level, ¬Spells text.toList level) ∧ error.text = text ∧
        error.message =
          "Unknown severity '" ++ text ++ "'. Allowed: low, medium, high, critical" := by
  refine ⟨fun level => parse_eq_ok_iff, ?_, fun error => ?_⟩
  · rintro ⟨c, hc, hBlank, hAlpha⟩
    refine parse_eq_error_iff.mpr ⟨fun level hSpells => ?_, rfl⟩
    rcases hSpells.cases hc with h | h
    · rw [hBlank] at h
      cases h
    · rw [hAlpha] at h
      cases h
  · rw [parse_eq_error_iff]
    constructor
    · rintro ⟨hNone, rfl⟩
      exact ⟨hNone, rfl, message_unknown text⟩
    · rintro ⟨hNone, rfl, -⟩
      exact ⟨hNone, rfl⟩

/-- The dotted capital i has an `i` in its small form and is refused, also where an i should
stand. -/
theorem severity_names_are_exact_dotted :
    (∃ c ∈ "MED\u0130UM".toList, Text.isBlank c = false ∧ c.isAlpha = false) ∧
      'i' ∈ Text.lowercase "MED\u0130UM".toList ∧
      parse "MED\u0130UM" = .error ⟨"MED\u0130UM"⟩ ∧ parse "\u2003MeDiUm\u001f" = .ok .medium := by
  have hOther : ∃ c ∈ "MED\u0130UM".toList, Text.isBlank c = false ∧ c.isAlpha = false :=
    ⟨'\u0130', by decide, by decide, by decide⟩
  have hMedium := (severity_names_are_exact "\u2003MeDiUm\u001f").1 .medium
  exact ⟨hOther, by decide +kernel, (severity_names_are_exact "MED\u0130UM").2.1 hOther,
    hMedium.mpr ⟨['\u2003'], "MeDiUm".toList, ['\u001f'], by decide,
      List.forall_mem_singleton.mpr (by decide), List.forall_mem_singleton.mpr (by decide),
      by decide⟩⟩

end ContractAudit.Severity
