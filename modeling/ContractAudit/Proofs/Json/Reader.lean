import ContractAudit.Proofs.Json.Grammar

/-!
# Reading JSON documents

A reader takes a document character by character and keeps the lists and objects that are still
open. It reads every written form of a value as that value (`read_document`), so a document is a
form of one value only (`Document.unique`).
-/

namespace ContractAudit.Json

/-! ## The reader -/

/-- A list or an object that is still open, with what stands in it, latest first. -/
inductive Frame where
  | list (items : List Value)
  | object (fields : List (String × Value)) (key : String)

inductive Escape where
  | none
  | begun
  | unit (high : Option Nat) (places value : Nat)
  | half (high : Nat)
  | halfBegun (high : Nat)

def Escape.behind : Option Nat → Escape
  | Option.none => none
  | some high => half high

inductive Role where
  | value
  | key (fields : List (String × Value))

/-- What the reader is in the middle of. Characters and fields stand latest first. -/
inductive Mode where
  | value
  | word (letters : List Char) (v : Value)
  | number (negative : Bool) (digits : Option Nat)
  | text (role : Role) (chars : List Char) (escape : Escape)
  | key (fields : List (String × Value))
  | colon (fields : List (String × Value)) (key : String)
  | behind (v : Value)

def Mode.isBetween : Mode → Bool
  | value | key _ | colon _ _ | behind _ => true
  | word _ _ | number _ _ | text _ _ _ => false

structure Reader where
  mode : Mode
  frames : List Frame

def decimal (c : Char) : Nat :=
  c.toNat - '0'.toNat

def signed (negative : Bool) (n : Nat) : Value :=
  .number (if negative then -(n : Int) else n)

namespace Reader

def begin (c : Char) (frames : List Frame) : Option Reader :=
  if isGap c then some ⟨.value, frames⟩
  else if c.isDigit then some ⟨.number false (some (decimal c)), frames⟩
  else match c, frames with
    | 'n', _ => some ⟨.word ['u', 'l', 'l'] .null, frames⟩
    | 't', _ => some ⟨.word ['r', 'u', 'e'] (.flag true), frames⟩
    | 'f', _ => some ⟨.word ['a', 'l', 's', 'e'] (.flag false), frames⟩
    | '-', _ => some ⟨.number true none, frames⟩
    | '"', _ => some ⟨.text .value [] .none, frames⟩
    | '[', _ => some ⟨.value, .list [] :: frames⟩
    | '\x7b', _ => some ⟨.key [], frames⟩
    | ']', .list [] :: outer => some ⟨.behind (.list []), outer⟩
    | _, _ => none

def follow (c : Char) (v : Value) (frames : List Frame) : Option Reader :=
  if isGap c then some ⟨.behind v, frames⟩
  else match c, frames with
    | ',', .list items :: outer => some ⟨.value, .list (v :: items) :: outer⟩
    | ']', .list items :: outer => some ⟨.behind (.list (v :: items).reverse), outer⟩
    | ',', .object fields key :: outer => some ⟨.key ((key, v) :: fields), outer⟩
    | '\x7d', .object fields key :: outer =>
      some ⟨.behind (.object ((key, v) :: fields).reverse), outer⟩
    | _, _ => none

def beginKey (c : Char) (fields : List (String × Value)) (frames : List Frame) : Option Reader :=
  if isGap c then some ⟨.key fields, frames⟩
  else match c, fields with
    | '"', _ => some ⟨.text (.key fields) [] .none, frames⟩
    | '\x7d', [] => some ⟨.behind (.object []), frames⟩
    | _, _ => none

def endText (role : Role) (chars : List Char) (frames : List Frame) : Reader :=
  match role with
  | .value => ⟨.behind (.text (String.ofList chars.reverse)), frames⟩
  | .key fields => ⟨.colon fields (String.ofList chars.reverse), frames⟩

def plain (c : Char) (role : Role) (chars : List Char) (frames : List Frame) : Option Reader :=
  if c = '"' then some (endText role chars frames)
  else if c = '\\' then some ⟨.text role chars .begun, frames⟩
  else if 0x20 ≤ c.toNat then some ⟨.text role (c :: chars) .none, frames⟩
  else none

def endUnit (high : Option Nat) (n : Nat) (role : Role) (chars : List Char)
    (frames : List Frame) : Option Reader :=
  match high with
  | none =>
    if IsHighSurrogate n then some ⟨.text role chars (.half n), frames⟩
    else if n.isValidChar then some ⟨.text role (Char.ofNat n :: chars) .none, frames⟩
    else none
  | some high =>
    if IsLowSurrogate n then
      some ⟨.text role (Char.ofNat (surrogatePair high n) :: chars) .none, frames⟩
    else none

def escaped (c : Char) (role : Role) (chars : List Char) (frames : List Frame) :
    Escape → Option Reader
  | .none => plain c role chars frames
  | .begun =>
    if c = 'u' then some ⟨.text role chars (.unit none 3 0), frames⟩
    else do return ⟨.text role ((← shortEscape? c) :: chars) .none, frames⟩
  | .unit high places value => do
    let n := value * 16 + (← hexValue? c)
    match places with
    | 0 => endUnit high n role chars frames
    | places + 1 => some ⟨.text role chars (.unit high places n), frames⟩
  | .half high => if c = '\\' then some ⟨.text role chars (.halfBegun high), frames⟩ else none
  | .halfBegun high =>
    if c = 'u' then some ⟨.text role chars (.unit (some high) 3 0), frames⟩ else none

def step (c : Char) : Reader → Option Reader
  | ⟨.value, frames⟩ => begin c frames
  | ⟨.word [] _, _⟩ => none
  | ⟨.word [letter] v, frames⟩ => if c = letter then some ⟨.behind v, frames⟩ else none
  | ⟨.word (letter :: rest) v, frames⟩ => if c = letter then some ⟨.word rest v, frames⟩ else none
  | ⟨.number negative none, frames⟩ =>
    if c.isDigit then some ⟨.number negative (some (decimal c)), frames⟩ else none
  | ⟨.number negative (some n), frames⟩ =>
    if ¬c.isDigit then follow c (signed negative n) frames
    else if 0 < n then some ⟨.number negative (some (10 * n + decimal c)), frames⟩
    else none
  | ⟨.text role chars escape, frames⟩ => escaped c role chars frames escape
  | ⟨.key fields, frames⟩ => beginKey c fields frames
  | ⟨.colon fields key, frames⟩ =>
    if isGap c then some ⟨.colon fields key, frames⟩
    else if c = ':' then some ⟨.value, .object fields key :: frames⟩
    else none
  | ⟨.behind v, frames⟩ => follow c v frames

def finish : Reader → Option Value
  | ⟨.behind v, []⟩ => some v
  | ⟨.number negative (some n), []⟩ => some (signed negative n)
  | _ => none

def read (r : Reader) : List Char → Option Value
  | [] => r.finish
  | c :: rest => (r.step c).bind (·.read rest)

end Reader

def read (text : List Char) : Option Value :=
  (⟨.value, []⟩ : Reader).read text

def EndsNumber (rest : List Char) : Prop :=
  ∀ c ∈ rest.head?, c.isDigit = false

theorem isGap_of_isDigit {c : Char} (h : c.isDigit = true) : isGap c = false := by
  rw [Bool.eq_false_iff]
  intro hGap
  simp only [isGap, Bool.or_eq_true, decide_eq_true_eq] at hGap
  rcases hGap with ((rfl | rfl) | rfl) | rfl <;> revert h <;> decide

theorem isDigit_of_isGap {c : Char} (h : isGap c = true) : c.isDigit = false := by
  rw [Bool.eq_false_iff]
  intro hDigit
  rw [isGap_of_isDigit hDigit] at h
  cases h

theorem endsNumber_cons {c : Char} (hc : c.isDigit = false) (rest : List Char) :
    EndsNumber (c :: rest) := by
  intro d hd
  exact Option.mem_some_iff.mp hd ▸ hc

theorem endsNumber_append {g rest : List Char} (hGap : Gap g) (hRest : EndsNumber rest) :
    EndsNumber (g ++ rest) := by
  cases g with
  | nil => exact hRest
  | cons c g => exact endsNumber_cons (isDigit_of_isGap (hGap c List.mem_cons_self)) _

theorem enclosed_append (left right : Char) (t rest : List Char) :
    left :: t ++ [right] ++ rest = left :: (t ++ right :: rest) := by
  simp

namespace Reader

theorem read_cons (r : Reader) (c : Char) (rest : List Char) :
    r.read (c :: rest) = (r.step c).bind (·.read rest) := rfl

theorem read_of_step {r r' : Reader} {c : Char} (h : r.step c = some r') (rest : List Char) :
    r.read (c :: rest) = r'.read rest := by
  rw [read_cons, h]
  rfl

/-! ## Tokens -/

theorem step_gap {mode : Mode} (hMode : mode.isBetween = true) (frames : List Frame) {c : Char}
    (hc : isGap c = true) : step c ⟨mode, frames⟩ = some ⟨mode, frames⟩ := by
  cases mode with
  | value => simp [step, begin, hc]
  | key fields => simp [step, beginKey, hc]
  | colon fields key => simp [step, hc]
  | behind v => simp [step, follow, hc]
  | word | number | text => cases hMode

theorem read_gap (mode : Mode) (hMode : mode.isBetween = true) (frames : List Frame)
    {g : List Char} (hGap : Gap g) (rest : List Char) :
    read ⟨mode, frames⟩ (g ++ rest) = read ⟨mode, frames⟩ rest := by
  induction g with
  | nil => rfl
  | cons c g ih =>
    have hStep := step_gap hMode frames (hGap c List.mem_cons_self)
    rw [List.cons_append, read_of_step hStep]
    exact ih fun d hd => hGap d (List.mem_cons_of_mem c hd)

section Text

variable (role : Role) (chars : List Char) (frames : List Frame)

theorem read_unit (high : Option Nat) {t : List Char} {n : Nat} (h : UnitForm t n)
    (rest : List Char) :
    read ⟨.text role chars (.behind high), frames⟩ (t ++ rest) =
      (endUnit high n role chars frames).bind (·.read rest) := by
  obtain ⟨ha, hb, hc, hd⟩ := h
  cases high <;> simp [Escape.behind, read_cons, step, escaped, plain, ha, hb, hc, hd]

theorem read_char {t : List Char} {c : Char} (h : CharForm t c) (rest : List Char) :
    read ⟨.text role chars .none, frames⟩ (t ++ rest) =
      read ⟨.text role (c :: chars) .none, frames⟩ rest := by
  cases h with
  | plain hMark hEscape hControl =>
    refine read_of_step ?_ rest
    simp [step, escaped, plain, hMark, hEscape, hControl]
  | @short letter _ h =>
    have hLetter : letter ≠ 'u' := by
      rintro rfl
      cases h
    simp [read_cons, step, escaped, plain, hLetter, h]
  | unit h =>
    have hValid : c.toNat.isValidChar := c.valid
    have hHigh : ¬IsHighSurrogate c.toNat := by
      rintro ⟨hLow, hTop⟩
      rcases hValid with hBelow | ⟨hAbove, -⟩ <;> omega
    have hUnit := read_unit role chars frames none h rest
    simpa [Escape.behind, endUnit, hHigh, hValid] using hUnit
  | @pair t u _ high low hHigh hLow isHigh isLow hCode =>
    have hFirst := read_unit role chars frames none hHigh (u ++ rest)
    have hSecond := read_unit role chars frames (some high) hLow rest
    simp only [Escape.behind, endUnit, if_pos isHigh, Option.bind_some] at hFirst
    simp only [Escape.behind, endUnit, if_pos isLow, Option.bind_some, ← hCode,
      Char.ofNat_toNat] at hSecond
    rw [List.append_assoc, hFirst, hSecond]

theorem read_chars {t cs : List Char} (h : CharsForm t cs) (rest : List Char) :
    read ⟨.text role chars .none, frames⟩ (t ++ rest) =
      read ⟨.text role (cs.reverse ++ chars) .none, frames⟩ rest := by
  induction h generalizing chars with
  | nil => rfl
  | cons h _ ih =>
    rw [List.append_assoc, read_char role chars frames h, ih]
    simp

theorem read_quoted {t : List Char} {s : String} (h : CharsForm t s.toList) (rest : List Char) :
    read ⟨.text role [] .none, frames⟩ (t ++ '"' :: rest) =
      (endText role s.toList.reverse frames).read rest := by
  rw [read_chars role [] frames h, List.append_nil]
  rfl

end Text

theorem read_text (frames : List Frame) {t : List Char} {s : String} (h : TextForm t s)
    (rest : List Char) :
    read ⟨.value, frames⟩ (t ++ rest) = read ⟨.behind (.text s), frames⟩ rest := by
  obtain ⟨h⟩ := h
  rw [enclosed_append, read_of_step rfl, read_quoted .value frames h]
  simp [endText]

theorem read_key (fields : List (String × Value)) (frames : List Frame) {t : List Char}
    {key : String} (h : TextForm t key) (rest : List Char) :
    read ⟨.key fields, frames⟩ (t ++ rest) = read ⟨.colon fields key, frames⟩ rest := by
  obtain ⟨h⟩ := h
  rw [enclosed_append, read_of_step rfl, read_quoted (.key fields) frames h]
  simp [endText]

theorem read_digits (negative : Bool) (frames : List Frame) {t : List Char} {n : Nat}
    (h : DigitsForm t n) (rest : List Char) :
    read ⟨.number negative none, frames⟩ (t ++ rest) =
      read ⟨.number negative (some n), frames⟩ rest := by
  induction h generalizing rest with
  | first h =>
    refine read_of_step ?_ rest
    simp [step, h, decimal]
  | next _ hPos h ih =>
    rw [List.append_assoc, ih]
    refine read_of_step ?_ rest
    simp [step, h, hPos, decimal]

theorem read_value_digits (frames : List Frame) {t : List Char} {n : Nat} (h : DigitsForm t n)
    (rest : List Char) :
    read ⟨.value, frames⟩ (t ++ rest) = read ⟨.number false none, frames⟩ (t ++ rest) := by
  induction h generalizing rest with
  | first h => simp [read_cons, step, begin, isGap_of_isDigit h, h]
  | next _ _ _ ih =>
    rw [List.append_assoc]
    exact ih _

theorem read_endsNumber (negative : Bool) (n : Nat) (frames : List Frame) {rest : List Char}
    (hRest : EndsNumber rest) :
    read ⟨.number negative (some n), frames⟩ rest =
      read ⟨.behind (signed negative n), frames⟩ rest := by
  cases rest with
  | nil => cases frames <;> rfl
  | cons c rest =>
    have hc : c.isDigit = false := hRest c rfl
    simp [read_cons, step, hc]

theorem read_number (frames : List Frame) {t : List Char} {n : Int} (h : NumberForm t n)
    {rest : List Char} (hRest : EndsNumber rest) :
    read ⟨.value, frames⟩ (t ++ rest) = read ⟨.behind (.number n), frames⟩ rest := by
  cases h with
  | natural h =>
    rw [read_value_digits frames h, read_digits false frames h,
      read_endsNumber false _ frames hRest]
    rfl
  | negative h =>
    rw [List.cons_append, read_of_step rfl, read_digits true frames h,
      read_endsNumber true _ frames hRest]
    rfl

/-! ## Values -/

/-- Wherever a value may stand, the text is read as this one. -/
def Reads (t : List Char) (v : Value) : Prop :=
  ∀ (frames : List Frame) {rest : List Char}, EndsNumber rest →
    read ⟨.value, frames⟩ (t ++ rest) = read ⟨.behind v, frames⟩ rest

theorem Reads.around {t : List Char} {v : Value} (h : Reads t v) {g g' rest : List Char}
    (hGap : Gap g) (hGap' : Gap g') (hRest : EndsNumber rest) (frames : List Frame) :
    read ⟨.value, frames⟩ (g ++ t ++ g' ++ rest) = read ⟨.behind v, frames⟩ rest := by
  have hEnd := endsNumber_append hGap' hRest
  rw [List.append_assoc, List.append_assoc, read_gap .value rfl _ hGap, h frames hEnd,
    read_gap (.behind v) rfl _ hGap']

theorem Reads.field {t : List Char} {v : Value} (h : Reads t v) {g k g₁ g₂ g' rest : List Char}
    {key : String} (hGap : Gap g) (hKey : TextForm k key) (hGap₁ : Gap g₁) (hGap₂ : Gap g₂)
    (hGap' : Gap g') (hRest : EndsNumber rest) (fields : List (String × Value))
    (frames : List Frame) :
    read ⟨.key fields, frames⟩ (g ++ k ++ g₁ ++ ':' :: g₂ ++ t ++ g' ++ rest) =
      read ⟨.behind v, .object fields key :: frames⟩ rest := by
  have hValue := h.around hGap₂ hGap' hRest (.object fields key :: frames)
  simp only [List.append_assoc, List.cons_append] at hValue ⊢
  rw [read_gap (.key fields) rfl _ hGap, read_key fields frames hKey,
    read_gap (.colon fields key) rfl _ hGap₁, read_of_step rfl, hValue]

mutual

theorem reads_value {t : List Char} {v : Value} : ValueForm t v → Reads t v
  | .null => fun _ _ _ => rfl
  | .yes => fun _ _ _ => rfl
  | .no => fun _ _ _ => rfl
  | .number h => fun frames _ hRest => read_number frames h hRest
  | .text h => fun frames rest _ => read_text frames h rest
  | .emptyList hGap => fun frames rest _ => by
    rw [enclosed_append, read_of_step rfl, read_gap .value rfl _ hGap]
    rfl
  | .list h => fun frames rest _ => by
    rw [enclosed_append, read_of_step rfl, read_items h []]
    rfl
  | .emptyObject hGap => fun frames rest _ => by
    rw [enclosed_append, read_of_step rfl, read_gap (.key []) rfl _ hGap]
    rfl
  | .object h => fun frames rest _ => by
    rw [enclosed_append, read_of_step rfl, read_fields h []]
    rfl

theorem read_items {t : List Char} {vs : List Value} : ItemsForm t vs → (items : List Value) →
    (frames : List Frame) → (rest : List Char) →
    read ⟨.value, .list items :: frames⟩ (t ++ ']' :: rest) =
      read ⟨.behind (.list (items.reverse ++ vs)), frames⟩ rest
  | .last hGap h hGap', items, frames, rest => by
    have hEnd := endsNumber_cons (c := ']') rfl rest
    rw [(reads_value h).around hGap hGap' hEnd, read_of_step rfl, List.reverse_cons]
  | .more hGap h hGap' hRest, items, frames, rest => by
    have hEnd := endsNumber_cons (c := ',') rfl
    rw [List.append_assoc, List.cons_append, (reads_value h).around hGap hGap' (hEnd _),
      read_of_step rfl, read_items hRest, List.reverse_cons, List.append_assoc,
      List.singleton_append]

theorem read_fields {t : List Char} {fs : List (String × Value)} : FieldsForm t fs →
    (fields : List (String × Value)) → (frames : List Frame) → (rest : List Char) →
    read ⟨.key fields, frames⟩ (t ++ '\x7d' :: rest) =
      read ⟨.behind (.object (fields.reverse ++ fs)), frames⟩ rest
  | .last hGap hKey hGap₁ hGap₂ h hGap', fields, frames, rest => by
    have hEnd := endsNumber_cons (c := '\x7d') rfl rest
    rw [(reads_value h).field hGap hKey hGap₁ hGap₂ hGap' hEnd, read_of_step rfl,
      List.reverse_cons]
  | .more hGap hKey hGap₁ hGap₂ h hGap' hRest, fields, frames, rest => by
    have hEnd := endsNumber_cons (c := ',') rfl
    rw [List.append_assoc, List.cons_append,
      (reads_value h).field hGap hKey hGap₁ hGap₂ hGap' (hEnd _), read_of_step rfl,
      read_fields hRest, List.reverse_cons, List.append_assoc, List.singleton_append]

end

end Reader

theorem read_document {t : List Char} {v : Value} (h : Document t v) : read t = some v := by
  obtain ⟨hGap, h, hGap'⟩ := h
  have hEnd : EndsNumber [] := by simp [EndsNumber]
  have hRead := (Reader.reads_value h).around hGap hGap' hEnd []
  rw [List.append_nil] at hRead
  exact hRead

example : read "[\"\\ud83d\\ude00\\/\", -12 ]".toList = some (.list [.text "😀/", .number (-12)]) :=
  rfl

theorem Document.unique {t : List Char} {v w : Value} (hv : Document t v) (hw : Document t w) :
    v = w := by
  have hRead := read_document hv
  rw [read_document hw] at hRead
  exact (Option.some.inj hRead).symm

end ContractAudit.Json
