import ContractAudit.Text.Utf8

/-!
# Reading back what was encoded

A text that is written as UTF-8 is decoded to itself, whatever characters it holds
(`decode_encode`). Each of the four lengths of an encoded character has its own leading bytes, and
the range of the second byte leaves out no character.
-/

namespace ContractAudit.Text.Utf8

theorem decodeFrom_cons (state : Option Pending) (b : UInt8) (rest : List UInt8) :
    decodeFrom state (b :: rest) =
      (step state b.toNat).1 ++ decodeFrom (step state b.toNat).2 rest := by
  rw [decodeFrom]

/-! ## Leading bytes -/

theorem start_of_two {b : Nat} (hb : 0xC2 ≤ b ∧ b ≤ 0xDF) :
    start b = ([], some ⟨0, 0x80, 0xBF, b - 0xC0⟩) := by
  rw [start, if_neg (by omega), if_pos hb]

theorem start_of_three {b second : Nat} (hb : 0xE0 ≤ b ∧ b ≤ 0xEF)
    (hSecond : 0x80 ≤ second ∧ second ≤ 0xBF) (hOverlong : b = 0xE0 → 0xA0 ≤ second)
    (hSurrogate : b = 0xED → second ≤ 0x9F) :
    ∃ lo hi, start b = ([], some ⟨1, lo, hi, b - 0xE0⟩) ∧ lo ≤ second ∧ second ≤ hi := by
  rw [start, if_neg (by omega), if_neg (by omega)]
  split
  · rename_i hFirst
    subst hFirst
    exact ⟨0xA0, 0xBF, rfl, hOverlong rfl, hSecond.2⟩
  · split
    · rename_i hFirst
      exact ⟨0x80, 0x9F, rfl, hSecond.1, hSurrogate hFirst⟩
    · rw [if_pos (by omega)]
      exact ⟨0x80, 0xBF, rfl, hSecond⟩

theorem start_of_four {b second : Nat} (hb : 0xF0 ≤ b ∧ b ≤ 0xF4)
    (hSecond : 0x80 ≤ second ∧ second ≤ 0xBF) (hOverlong : b = 0xF0 → 0x90 ≤ second)
    (hBeyond : b = 0xF4 → second ≤ 0x8F) :
    ∃ lo hi, start b = ([], some ⟨2, lo, hi, b - 0xF0⟩) ∧ lo ≤ second ∧ second ≤ hi := by
  rw [start, if_neg (by omega), if_neg (by omega), if_neg (by omega), if_neg (by omega),
    if_neg (by omega)]
  split
  · rename_i hFirst
    subst hFirst
    exact ⟨0x90, 0xBF, rfl, hOverlong rfl, hSecond.2⟩
  · split
    · rename_i hFirst
      exact ⟨0x80, 0x8F, rfl, hSecond.1, hBeyond hFirst⟩
    · rw [if_pos (by omega)]
      exact ⟨0x80, 0xBF, rfl, hSecond⟩

/-! ## Bytes that continue a character -/

theorem decodeFrom_last {lo hi bits : Nat} {b : UInt8} (hb : lo ≤ b.toNat ∧ b.toNat ≤ hi)
    (rest : List UInt8) :
    decodeFrom (some ⟨0, lo, hi, bits⟩) (b :: rest) =
      Char.ofNat (bits * 64 + (b.toNat - 0x80)) :: decodeFrom none rest := by
  rw [decodeFrom_cons, step, if_pos hb]
  rfl

theorem decodeFrom_more {more lo hi bits : Nat} {b : UInt8} (hb : lo ≤ b.toNat ∧ b.toNat ≤ hi)
    (rest : List UInt8) :
    decodeFrom (some ⟨more + 1, lo, hi, bits⟩) (b :: rest) =
      decodeFrom (some ⟨more, 0x80, 0xBF, bits * 64 + (b.toNat - 0x80)⟩) rest := by
  rw [decodeFrom_cons, step, if_pos hb]
  rfl

theorem decodeFrom_leading {b : UInt8} {p : Pending} (h : start b.toNat = ([], some p))
    (rest : List UInt8) : decodeFrom none (b :: rest) = decodeFrom (some p) rest := by
  rw [decodeFrom_cons, step, h]
  rfl

/-! ## Characters -/

theorem toNat_ofNat_of_lt {n : Nat} (h : n < 256) : (UInt8.ofNat n).toNat = n := by
  rw [UInt8.toNat_ofNat']
  omega

theorem decodeFrom_one {a : Nat} (ha : a ≤ 0x7F) (rest : List UInt8) :
    decodeFrom none (UInt8.ofNat a :: rest) = Char.ofNat a :: decodeFrom none rest := by
  rw [decodeFrom_cons, step, toNat_ofNat_of_lt (by omega), start, if_pos ha]
  rfl

theorem decodeFrom_two {a b : Nat} (ha : 0xC2 ≤ a ∧ a ≤ 0xDF) (hb : 0x80 ≤ b ∧ b ≤ 0xBF)
    (rest : List UInt8) :
    decodeFrom none (UInt8.ofNat a :: UInt8.ofNat b :: rest) =
      Char.ofNat ((a - 0xC0) * 64 + (b - 0x80)) :: decodeFrom none rest := by
  have hFirst := @toNat_ofNat_of_lt a (by omega)
  have hLast := @toNat_ofNat_of_lt b (by omega)
  have hStart := start_of_two ha
  rw [← hFirst] at hStart
  rw [decodeFrom_leading hStart, decodeFrom_last (by omega), hFirst, hLast]

theorem decodeFrom_three {a b c : Nat} (ha : 0xE0 ≤ a ∧ a ≤ 0xEF) (hb : 0x80 ≤ b ∧ b ≤ 0xBF)
    (hc : 0x80 ≤ c ∧ c ≤ 0xBF) (hOverlong : a = 0xE0 → 0xA0 ≤ b)
    (hSurrogate : a = 0xED → b ≤ 0x9F) (rest : List UInt8) :
    decodeFrom none (UInt8.ofNat a :: UInt8.ofNat b :: UInt8.ofNat c :: rest) =
      Char.ofNat (((a - 0xE0) * 64 + (b - 0x80)) * 64 + (c - 0x80)) :: decodeFrom none rest := by
  have hFirst := @toNat_ofNat_of_lt a (by omega)
  have hSecond := @toNat_ofNat_of_lt b (by omega)
  have hLast := @toNat_ofNat_of_lt c (by omega)
  obtain ⟨lo, hi, hStart, hRange⟩ := start_of_three ha hb hOverlong hSurrogate
  rw [← hFirst] at hStart
  rw [decodeFrom_leading hStart, decodeFrom_more (by omega), decodeFrom_last (by omega), hFirst,
    hSecond, hLast]

theorem decodeFrom_four {a b c d : Nat} (ha : 0xF0 ≤ a ∧ a ≤ 0xF4) (hb : 0x80 ≤ b ∧ b ≤ 0xBF)
    (hc : 0x80 ≤ c ∧ c ≤ 0xBF) (hd : 0x80 ≤ d ∧ d ≤ 0xBF) (hOverlong : a = 0xF0 → 0x90 ≤ b)
    (hBeyond : a = 0xF4 → b ≤ 0x8F) (rest : List UInt8) :
    decodeFrom none
        (UInt8.ofNat a :: UInt8.ofNat b :: UInt8.ofNat c :: UInt8.ofNat d :: rest) =
      Char.ofNat ((((a - 0xF0) * 64 + (b - 0x80)) * 64 + (c - 0x80)) * 64 + (d - 0x80)) ::
        decodeFrom none rest := by
  have hFirst := @toNat_ofNat_of_lt a (by omega)
  have hSecond := @toNat_ofNat_of_lt b (by omega)
  have hThird := @toNat_ofNat_of_lt c (by omega)
  have hLast := @toNat_ofNat_of_lt d (by omega)
  obtain ⟨lo, hi, hStart, hRange⟩ := start_of_four ha hb hOverlong hBeyond
  rw [← hFirst] at hStart
  rw [decodeFrom_leading hStart, decodeFrom_more (by omega), decodeFrom_more (by omega),
    decodeFrom_last (by omega), hFirst, hSecond, hThird, hLast]

theorem isScalar (c : Char) : c.toNat < 0xD800 ∨ 0xDFFF < c.toNat ∧ c.toNat < 0x110000 :=
  c.valid

theorem decodeFrom_utf8EncodeChar (c : Char) (rest : List UInt8) :
    decodeFrom none (String.utf8EncodeChar c ++ rest) = c :: decodeFrom none rest := by
  have hScalar := isScalar c
  have hChar (n : Nat) (hn : n = c.toNat) : Char.ofNat n = c := by
    rw [hn, Char.ofNat_toNat]
  rw [String.utf8EncodeChar, show c.val.toNat = c.toNat from rfl]
  split
  · rw [List.singleton_append, decodeFrom_one (by omega), hChar _ rfl]
  · split
    · rw [List.cons_append, List.singleton_append, decodeFrom_two (by omega) (by omega),
        hChar _ (by omega)]
    · split
      · rw [List.cons_append, List.cons_append, List.singleton_append,
          decodeFrom_three (by omega) (by omega) (by omega) (by omega) (by omega),
          hChar _ (by omega)]
      · rw [List.cons_append, List.cons_append, List.cons_append, List.singleton_append,
          decodeFrom_four (by omega) (by omega) (by omega) (by omega) (by omega) (by omega),
          hChar _ (by omega)]

theorem decodeFrom_encode_append (text : List Char) (rest : List UInt8) :
    decodeFrom none (encode text ++ rest) = text ++ decodeFrom none rest := by
  induction text with
  | nil => rfl
  | cons c text ih =>
    rw [encode, List.flatMap_cons, ← encode, List.append_assoc, decodeFrom_utf8EncodeChar, ih,
      List.cons_append]

theorem decode_encode (text : List Char) : decode (encode text) = text := by
  have hAlone := decodeFrom_encode_append text []
  rwa [List.append_nil, decodeFrom, List.append_nil] at hAlone

/-! ## Characters that have started -/

/-- The byte can only stand inside a character. -/
def Continues (b : UInt8) : Prop :=
  0x80 ≤ b.toNat ∧ b.toNat ≤ 0xBF

/-- What has started goes on with bytes that can only stand inside a character. -/
def Pending.Waits (p : Pending) : Prop :=
  0x80 ≤ p.lo ∧ p.hi ≤ 0xBF

theorem waits_of_start {b : Nat} {p : Pending} (h : (start b).2 = some p) : p.Waits := by
  rw [start] at h
  repeat' split at h
  all_goals cases h
  all_goals exact ⟨Nat.le_of_ble_eq_true rfl, Nat.le_of_ble_eq_true rfl⟩

theorem waits_of_step {state : Option Pending} {b : Nat} {p : Pending}
    (h : (step state b).2 = some p) : p.Waits := by
  cases state with
  | none => exact waits_of_start h
  | some q =>
    rw [step] at h
    split at h
    · split at h
      · cases h
      · cases h
        exact ⟨Nat.le_refl 0x80, Nat.le_refl 0xBF⟩
    · exact waits_of_start h

theorem decodeFrom_some_cons {p : Pending} (hp : p.Waits) {b : UInt8} (hb : ¬Continues b)
    (rest : List UInt8) :
    decodeFrom (some p) (b :: rest) = replacement :: decodeFrom none (b :: rest) := by
  have hOutside : ¬(p.lo ≤ b.toNat ∧ b.toNat ≤ p.hi) := by
    rintro ⟨hLo, hHi⟩
    exact hb ⟨Nat.le_trans hp.1 hLo, Nat.le_trans hHi hp.2⟩
  have hStep : step (some p) b.toNat =
      (replacement :: (start b.toNat).1, (start b.toNat).2) := by
    rw [step, if_neg hOutside]
  rw [decodeFrom_cons, decodeFrom_cons, hStep, List.cons_append, step]

/-- Where a byte stands that continues nothing, the bytes before it have no influence on what
follows. -/
theorem decodeFrom_append {rest : List UInt8} (hRest : ∀ b ∈ rest.head?, ¬Continues b)
    {state : Option Pending} (hState : ∀ p ∈ state, p.Waits) (bytes : List UInt8) :
    decodeFrom state (bytes ++ rest) = decodeFrom state bytes ++ decodeFrom none rest := by
  induction bytes generalizing state with
  | nil =>
    cases state with
    | none => rfl
    | some p =>
      cases rest with
      | nil => rfl
      | cons b rest => exact decodeFrom_some_cons (hState p rfl) (hRest b rfl) rest
  | cons a bytes ih =>
    rw [List.cons_append, decodeFrom_cons, decodeFrom_cons, List.append_assoc,
      ih fun p hp => waits_of_step hp]

theorem exists_head_utf8EncodeChar (c : Char) :
    ∃ b bytes, String.utf8EncodeChar c = b :: bytes ∧ ¬Continues b := by
  have hScalar := isScalar c
  rw [String.utf8EncodeChar, show c.val.toNat = c.toNat from rfl]
  repeat' split
  all_goals
    refine ⟨_, _, rfl, ?_⟩
    rw [Continues, toNat_ofNat_of_lt (by omega)]
    omega

/-- A text among any other bytes is decoded to itself, and what stands around it is decoded as if it
stood alone. -/
theorem decode_around_encode {text : List Char} (h : text ≠ []) (front back : List UInt8) :
    decode (front ++ encode text ++ back) = decode front ++ text ++ decode back := by
  have hFirst : ∀ b ∈ (encode text ++ back).head?, ¬Continues b := by
    obtain ⟨c, rest, rfl⟩ := List.exists_cons_of_ne_nil h
    obtain ⟨b, bytes, hBytes, hb⟩ := exists_head_utf8EncodeChar c
    rw [encode, List.flatMap_cons, hBytes]
    intro a ha
    rwa [← Option.some.inj ha]
  have hStart : ∀ p ∈ (none : Option Pending), p.Waits := by
    intro p hp
    cases hp
  rw [decode, List.append_assoc, decodeFrom_append hFirst hStart, decodeFrom_encode_append,
    List.append_assoc, decode, decode]

end ContractAudit.Text.Utf8
