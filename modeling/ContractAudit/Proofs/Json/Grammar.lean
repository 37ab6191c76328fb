import ContractAudit.Json.Basic

/-!
# The grammar of JSON documents

`Document t v` says that a text is a written form of a value. It is the common grammar for values
whose numbers are whole: white space may stand between tokens, a character of a text may stand for
itself or be escaped in any of the ways there are, and a number has no superfluous zero in front.
What `render` writes is one of these forms (`document_render`).
-/

namespace ContractAudit.Json

/-! ## Tokens -/

def isGap (c : Char) : Bool :=
  c = ' ' || c = '\n' || c = '\r' || c = '\t'

def Gap (t : List Char) : Prop :=
  ∀ c ∈ t, isGap c = true

def hexValue? (c : Char) : Option Nat :=
  if '0' ≤ c ∧ c ≤ '9' then some (c.toNat - 48)
  else if 'a' ≤ c ∧ c ≤ 'f' then some (c.toNat - 87)
  else if 'A' ≤ c ∧ c ≤ 'F' then some (c.toNat - 55)
  else none

def shortEscape? : Char → Option Char
  | '"' => some '"'
  | '\\' => some '\\'
  | '/' => some '/'
  | 'b' => some '\x08'
  | 'f' => some '\x0c'
  | 'n' => some '\n'
  | 'r' => some '\r'
  | 't' => some '\t'
  | _ => none

def IsHighSurrogate (n : Nat) : Prop :=
  0xD800 ≤ n ∧ n < 0xDC00

def IsLowSurrogate (n : Nat) : Prop :=
  0xDC00 ≤ n ∧ n < 0xE000

instance (n : Nat) : Decidable (IsHighSurrogate n) :=
  inferInstanceAs (Decidable (_ ∧ _))

instance (n : Nat) : Decidable (IsLowSurrogate n) :=
  inferInstanceAs (Decidable (_ ∧ _))

def surrogatePair (high low : Nat) : Nat :=
  0x10000 + 0x400 * (high - 0xD800) + (low - 0xDC00)

inductive UnitForm : List Char → Nat → Prop
  | digits {a b c d : Char} {p q r s : Nat} (ha : hexValue? a = some p) (hb : hexValue? b = some q)
      (hc : hexValue? c = some r) (hd : hexValue? d = some s) :
      UnitForm ['\\', 'u', a, b, c, d] (((p * 16 + q) * 16 + r) * 16 + s)

inductive CharForm : List Char → Char → Prop
  | plain {c : Char} (hMark : c ≠ '"') (hEscape : c ≠ '\\') (hControl : 0x20 ≤ c.toNat) :
      CharForm [c] c
  | short {letter c : Char} (h : shortEscape? letter = some c) : CharForm ['\\', letter] c
  | unit {t : List Char} {c : Char} (h : UnitForm t c.toNat) : CharForm t c
  | pair {t u : List Char} {c : Char} {high low : Nat} (hHigh : UnitForm t high)
      (hLow : UnitForm u low) (isHigh : IsHighSurrogate high) (isLow : IsLowSurrogate low)
      (hCode : c.toNat = surrogatePair high low) : CharForm (t ++ u) c

inductive CharsForm : List Char → List Char → Prop
  | nil : CharsForm [] []
  | cons {t u : List Char} {c : Char} {rest : List Char} (h : CharForm t c)
      (hRest : CharsForm u rest) : CharsForm (t ++ u) (c :: rest)

inductive TextForm : List Char → String → Prop
  | quoted {t : List Char} {s : String} (h : CharsForm t s.toList) : TextForm ('"' :: t ++ ['"']) s

inductive DigitsForm : List Char → Nat → Prop
  | first {c : Char} (h : c.isDigit = true) : DigitsForm [c] (c.toNat - '0'.toNat)
  | next {t : List Char} {n : Nat} {c : Char} (hFront : DigitsForm t n) (hPos : 0 < n)
      (h : c.isDigit = true) : DigitsForm (t ++ [c]) (10 * n + (c.toNat - '0'.toNat))

inductive NumberForm : List Char → Int → Prop
  | natural {t : List Char} {n : Nat} (h : DigitsForm t n) : NumberForm t n
  | negative {t : List Char} {n : Nat} (h : DigitsForm t n) : NumberForm ('-' :: t) (-n)

/-! ## Values -/

mutual

/-- The written forms of a value, without white space around them. -/
inductive ValueForm : List Char → Value → Prop
  | null : ValueForm ['n', 'u', 'l', 'l'] .null
  | yes : ValueForm ['t', 'r', 'u', 'e'] (.flag true)
  | no : ValueForm ['f', 'a', 'l', 's', 'e'] (.flag false)
  | number {t : List Char} {n : Int} (h : NumberForm t n) : ValueForm t (.number n)
  | text {t : List Char} {s : String} (h : TextForm t s) : ValueForm t (.text s)
  | emptyList {g : List Char} (hGap : Gap g) : ValueForm ('[' :: g ++ [']']) (.list [])
  | list {t : List Char} {vs : List Value} (h : ItemsForm t vs) :
      ValueForm ('[' :: t ++ [']']) (.list vs)
  | emptyObject {g : List Char} (hGap : Gap g) : ValueForm ('\x7b' :: g ++ ['\x7d']) (.object [])
  | object {t : List Char} {fs : List (String × Value)} (h : FieldsForm t fs) :
      ValueForm ('\x7b' :: t ++ ['\x7d']) (.object fs)

inductive ItemsForm : List Char → List Value → Prop
  | last {g t g' : List Char} {v : Value} (hGap : Gap g) (h : ValueForm t v) (hGap' : Gap g') :
      ItemsForm (g ++ t ++ g') [v]
  | more {g t g' u : List Char} {v : Value} {vs : List Value} (hGap : Gap g) (h : ValueForm t v)
      (hGap' : Gap g') (hRest : ItemsForm u vs) : ItemsForm (g ++ t ++ g' ++ ',' :: u) (v :: vs)

inductive FieldsForm : List Char → List (String × Value) → Prop
  | last {g k g₁ g₂ t g' : List Char} {key : String} {v : Value} (hGap : Gap g)
      (hKey : TextForm k key) (hGap₁ : Gap g₁) (hGap₂ : Gap g₂) (h : ValueForm t v)
      (hGap' : Gap g') : FieldsForm (g ++ k ++ g₁ ++ ':' :: g₂ ++ t ++ g') [(key, v)]
  | more {g k g₁ g₂ t g' u : List Char} {key : String} {v : Value} {fs : List (String × Value)}
      (hGap : Gap g) (hKey : TextForm k key) (hGap₁ : Gap g₁) (hGap₂ : Gap g₂) (h : ValueForm t v)
      (hGap' : Gap g') (hRest : FieldsForm u fs) :
      FieldsForm (g ++ k ++ g₁ ++ ':' :: g₂ ++ t ++ g' ++ ',' :: u) ((key, v) :: fs)

end

inductive Document : List Char → Value → Prop
  | around {g t g' : List Char} {v : Value} (hGap : Gap g) (h : ValueForm t v) (hGap' : Gap g') :
      Document (g ++ t ++ g') v

/-! ## Tokens as they are laid out -/

theorem gap_nil : Gap [] := by
  simp [Gap]

theorem gap_blank : Gap [' '] := by
  simp [Gap, isGap]

theorem gap_newLine (level : Nat) : Gap (newLine level) := by
  intro c hc
  rcases List.mem_cons.mp hc with rfl | hc
  · rfl
  · rw [List.eq_of_mem_replicate hc]
    rfl

theorem hexValue?_hexDigit {n : Nat} (h : n < 16) : hexValue? (Text.hexDigit n) = some n := by
  have hAll : ∀ d < 16, hexValue? (Text.hexDigit d) = some d := by decide
  exact hAll n h

theorem unitForm_unitEscape {n : Nat} (h : n < 0x10000) : UnitForm (unitEscape n) n := by
  have hValue (m : Nat) : hexValue? (Text.hexDigit (m % 16)) = some (m % 16) :=
    hexValue?_hexDigit (Nat.mod_lt m (by decide))
  have hForm := UnitForm.digits (hValue (n / 16 / 16 / 16)) (hValue (n / 16 / 16))
    (hValue (n / 16)) (hValue n)
  have hSum : ((n / 16 / 16 / 16 % 16 * 16 + n / 16 / 16 % 16) * 16 + n / 16 % 16) * 16 + n % 16 =
      n := by
    omega
  rw [hSum] at hForm
  exact hForm

theorem charForm_codeEscape (c : Char) : CharForm (codeEscape c.toNat) c := by
  have hTop : c.toNat < 0x110000 := by
    rcases c.valid with h | h
    · exact Nat.lt_trans h (by decide)
    · exact h.2
  unfold codeEscape
  split
  case isTrue hSmall => exact .unit (unitForm_unitEscape hSmall)
  case isFalse hLarge =>
    generalize hHigh : 0xD800 + (c.toNat - 0x10000) / 0x400 = high
    generalize hLow : 0xDC00 + (c.toNat - 0x10000) % 0x400 = low
    have isHigh : IsHighSurrogate high := by unfold IsHighSurrogate; omega
    have isLow : IsLowSurrogate low := by unfold IsLowSurrogate; omega
    have hCode : c.toNat = surrogatePair high low := by unfold surrogatePair; omega
    have hHighForm : UnitForm (unitEscape high) high :=
      unitForm_unitEscape (Nat.lt_trans isHigh.2 (by decide))
    have hLowForm : UnitForm (unitEscape low) low :=
      unitForm_unitEscape (Nat.lt_trans isLow.2 (by decide))
    exact .pair hHighForm hLowForm isHigh isLow hCode

theorem charForm_encodeChar (c : Char) : CharForm (encodeChar c) c := by
  unfold encodeChar
  split
  case isTrue h => rcases h with rfl | rfl <;> exact .short rfl
  case isFalse hMark =>
    rw [not_or] at hMark
    iterate 5
      split
      case isTrue h => exact h ▸ .short rfl
    split
    case isTrue h => exact .plain hMark.1 hMark.2 h.1
    case isFalse => exact charForm_codeEscape c

theorem charsForm_flatMap (cs : List Char) : CharsForm (cs.flatMap encodeChar) cs := by
  induction cs with
  | nil => exact .nil
  | cons c rest ih =>
    rw [List.flatMap_cons]
    exact .cons (charForm_encodeChar c) ih

theorem textForm_encode (s : String) : TextForm (encode s) s :=
  .quoted (charsForm_flatMap s.toList)

theorem digitsForm_toDigits (n : Nat) : DigitsForm (Nat.toDigits 10 n) n := by
  have hValue {d : Nat} (hd : d < 10) : d.digitChar.toNat - '0'.toNat = d :=
    Nat.toNat_digitChar_sub_48_of_lt_ten hd
  induction n using Nat.base_induction 10 (by decide) with
  | single m hm =>
    have hForm := @DigitsForm.first m.digitChar (by simp [hm])
    rw [hValue hm] at hForm
    rw [Nat.toDigits_of_lt_base hm]
    exact hForm
  | digit m k hk hm ih =>
    have hForm := @DigitsForm.next _ _ k.digitChar ih hm (by simp [hk])
    rw [hValue hk] at hForm
    rw [← Nat.toDigits_append_toDigits (by decide) hm hk, Nat.toDigits_of_lt_base hk]
    exact hForm

theorem numberForm_toString (n : Int) : NumberForm (toString n).toList n := by
  cases n with
  | ofNat n =>
    have hText : (toString (Int.ofNat n)).toList = Nat.toDigits 10 n := by
      simp [Int.repr_eq_if]
    rw [hText]
    exact .natural (digitsForm_toDigits n)
  | negSucc n =>
    have hText : (toString (Int.negSucc n)).toList = '-' :: Nat.toDigits 10 (n + 1) := by
      simp [Int.repr_eq_if]
    rw [hText]
    exact .negative (digitsForm_toDigits (n + 1))

/-! ## Documents as they are laid out -/

mutual

theorem valueForm_layout (level : Nat) : (v : Value) → ValueForm (layout level v) v
  | .null => .null
  | .flag true => .yes
  | .flag false => .no
  | .number n => .number (numberForm_toString n)
  | .text s => .text (textForm_encode s)
  | .list [] => .emptyList gap_nil
  | .list (v :: rest) => by
    have hFirst := valueForm_layout (level + 1) v
    have hItems := itemsForm_layout (level + 1) rest hFirst (gap_newLine level)
    simpa [layout] using ValueForm.list hItems
  | .object [] => .emptyObject gap_nil
  | .object ((key, v) :: rest) => by
    have hFirst := valueForm_layout (level + 1) v
    have hFields := fieldsForm_layout (level + 1) rest key hFirst (gap_newLine level)
    simpa [layout] using ValueForm.object hFields

theorem itemsForm_layout (level : Nat) : (rest : List Value) → {t g : List Char} → {v : Value} →
    ValueForm t v → Gap g →
    ItemsForm (newLine level ++ t ++ (layoutItems level rest ++ g)) (v :: rest)
  | [], _, _, _, hFirst, hGap => .last (gap_newLine level) hFirst hGap
  | w :: rest, _, _, _, hFirst, hGap => by
    have hRest := itemsForm_layout level rest (valueForm_layout level w) hGap
    simpa [layoutItems] using ItemsForm.more (gap_newLine level) hFirst gap_nil hRest

theorem fieldsForm_layout (level : Nat) : (rest : List (String × Value)) → (key : String) →
    {t g : List Char} → {v : Value} → ValueForm t v → Gap g →
    FieldsForm (newLine level ++ encode key ++ [':', ' '] ++ t ++ (layoutFields level rest ++ g))
      ((key, v) :: rest)
  | [], key, _, _, _, hFirst, hGap => by
    simpa [layoutFields] using
      FieldsForm.last (gap_newLine level) (textForm_encode key) gap_nil gap_blank hFirst hGap
  | (key', w) :: rest, key, _, _, _, hFirst, hGap => by
    have hRest := fieldsForm_layout level rest key' (valueForm_layout level w) hGap
    simpa [layoutFields] using FieldsForm.more (gap_newLine level) (textForm_encode key) gap_nil
      gap_blank hFirst gap_nil hRest

end

theorem document_render (v : Value) : Document (render v).toList v := by
  have hDocument := Document.around gap_nil (valueForm_layout 0 v) gap_nil
  simpa [render] using hDocument

/-! ## Characters of a document -/

def isAscii (c : Char) : Bool :=
  c = '\n' || (0x20 ≤ c.toNat && c.toNat ≤ 0x7E)

theorem isAscii_hexDigit {n : Nat} (h : n < 16) : isAscii (Text.hexDigit n) = true := by
  have hAll : ∀ d < 16, isAscii (Text.hexDigit d) = true := by decide
  exact hAll n h

theorem all_isAscii_hexDigits (count n : Nat) : (Text.hexDigits count n).all isAscii = true := by
  induction count generalizing n with
  | zero => rfl
  | succ count ih =>
    have hLast := isAscii_hexDigit (Nat.mod_lt n (by decide : 0 < 16))
    simp [Text.hexDigits, List.all_append, -List.all_eq_true, ih, hLast]

theorem all_isAscii_unitEscape (n : Nat) : (unitEscape n).all isAscii = true := by
  rw [unitEscape, List.all_cons, List.all_cons, all_isAscii_hexDigits]
  rfl

theorem all_isAscii_encodeChar (c : Char) : (encodeChar c).all isAscii = true := by
  unfold encodeChar
  split
  case isTrue h => rcases h with rfl | rfl <;> rfl
  iterate 5
    split
    · rfl
  split
  case isTrue h => simp [isAscii, h.1, h.2]
  case isFalse =>
    unfold codeEscape
    split <;> simp only [List.all_append, all_isAscii_unitEscape, Bool.and_true]

theorem all_isAscii_encode (s : String) : (encode s).all isAscii = true := by
  have hInner : (s.toList.flatMap encodeChar).all isAscii = true := by
    rw [List.all_flatMap]
    simp only [all_isAscii_encodeChar, List.all_eq_true, implies_true]
  rw [encode, List.all_append, List.all_cons, hInner]
  rfl

theorem all_isAscii_newLine (level : Nat) : (newLine level).all isAscii = true := by
  rw [newLine, List.all_cons, List.all_replicate]
  split <;> rfl

theorem all_isAscii_toString (n : Int) : (toString n).toList.all isAscii = true := by
  have hDigits (m : Nat) : (Nat.toDigits 10 m).all isAscii = true := by
    rw [List.all_eq_true]
    intro c hc
    have hRange : 48 ≤ c.toNat ∧ c.toNat ≤ 57 :=
      Char.isDigit_iff_toNat.mp (Nat.isDigit_of_mem_toDigits (by decide) (by decide) hc)
    simp only [isAscii, Bool.or_eq_true, Bool.and_eq_true, decide_eq_true_eq]
    omega
  rw [Int.toString_eq_repr, Int.repr_eq_if]
  split
  · simp [hDigits, -List.all_eq_true]
  · simp [hDigits, -List.all_eq_true, isAscii]

mutual

theorem all_isAscii_layout (level : Nat) : (v : Value) → (layout level v).all isAscii = true
  | .null => rfl
  | .flag true => rfl
  | .flag false => rfl
  | .number n => all_isAscii_toString n
  | .text s => all_isAscii_encode s
  | .list [] => rfl
  | .list (v :: rest) => by
    simp only [layout, List.all_append, List.all_cons, all_isAscii_newLine, all_isAscii_layout,
      all_isAscii_layoutItems]
    rfl
  | .object [] => rfl
  | .object ((key, v) :: rest) => by
    simp only [layout, List.all_append, List.all_cons, all_isAscii_newLine, all_isAscii_encode,
      all_isAscii_layout, all_isAscii_layoutFields]
    rfl

theorem all_isAscii_layoutItems (level : Nat) :
    (rest : List Value) → (layoutItems level rest).all isAscii = true
  | [] => rfl
  | v :: rest => by
    simp only [layoutItems, List.all_append, List.all_cons, all_isAscii_newLine,
      all_isAscii_layout, all_isAscii_layoutItems]
    rfl

theorem all_isAscii_layoutFields (level : Nat) :
    (rest : List (String × Value)) → (layoutFields level rest).all isAscii = true
  | [] => rfl
  | (key, v) :: rest => by
    simp only [layoutFields, List.all_append, List.all_cons, all_isAscii_newLine,
      all_isAscii_encode, all_isAscii_layout, all_isAscii_layoutFields]
    rfl

end

end ContractAudit.Json
