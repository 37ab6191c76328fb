import ContractAudit.Proofs.Regex.Ends
import ContractAudit.Proofs.Regex.Places

/-!
# White space around a text

Every place of a text is a place of the text with white space around it (`Cursor.pad`), and every
move of a cursor leads from there to the same place as in the text alone or out of the text.
-/

namespace ContractAudit.Regex

structure Padding where
  front : List Char
  back : List Char
  blank_front : ∀ x ∈ front, Text.isBlank x = true
  blank_back : ∀ x ∈ back, Text.isBlank x = true

namespace Padding

variable (p : Padding)

def around (text : List Char) : List Char :=
  p.front ++ text ++ p.back

def covers (text : List Char) (c : Cursor) : Bool :=
  c.offset ≤ p.front.length + text.length

variable {p}

theorem covers_eq_false_iff {text : List Char} {c : Cursor} :
    p.covers text c = false ↔ p.front.length + text.length < c.offset := by
  rw [covers, decide_eq_false_iff_not, Nat.not_le]

theorem getElem?_around_front {text : List Char} {i : Nat} (h : i < p.front.length) :
    (p.around text)[i]? = p.front[i]? := by
  rw [around, List.append_assoc, List.getElem?_append_left h]

theorem getElem?_around_back {text : List Char} {i : Nat}
    (h : p.front.length + text.length ≤ i) :
    (p.around text)[i]? = p.back[i - (p.front.length + text.length)]? := by
  rw [around, List.getElem?_append_right (by rwa [List.length_append]), List.length_append]

theorem bounds_of_startsAt {text : List Char} {i : Nat}
    (h : CharSet.solid.StartsAt (p.around text) i) :
    p.front.length ≤ i ∧ i < p.front.length + text.length := by
  obtain ⟨x, hx, hSolid⟩ := h
  rw [CharSet.contains_solid, Bool.not_eq_true'] at hSolid
  refine ⟨Nat.le_of_not_lt fun hLow => ?_, Nat.lt_of_not_le fun hHigh => ?_⟩
  · rw [getElem?_around_front hLow] at hx
    rw [p.blank_front x (List.mem_of_getElem? hx)] at hSolid
    cases hSolid
  · rw [getElem?_around_back hHigh] at hx
    rw [p.blank_back x (List.mem_of_getElem? hx)] at hSolid
    cases hSolid

theorem le_of_endsAt {text : List Char} {j : Nat} (h : CharSet.solid.EndsAt (p.around text) j) :
    j ≤ p.front.length + text.length := by
  obtain ⟨hPos, hStart⟩ := h
  have hBounds := bounds_of_startsAt hStart
  omega

end Padding

namespace Cursor

variable (p : Padding)

def pad (c : Cursor) : Cursor :=
  ⟨c.before ++ p.front.reverse, c.after ++ p.back, p.front.length + c.offset,
    by rw [List.length_append, List.length_reverse, c.offset_eq, Nat.add_comm]⟩

@[simp] theorem offset_pad (c : Cursor) : (c.pad p).offset = p.front.length + c.offset := rfl

@[simp] theorem text_pad (c : Cursor) : (c.pad p).text = p.around c.text := by
  simp [pad, text, Padding.around]

theorem covers_pad (c : Cursor) : p.covers c.text (c.pad p) = true := by
  rw [Padding.covers, decide_eq_true_eq, offset_pad]
  exact Nat.add_le_add_left c.offset_le _

variable {p}

theorem next?_pad {c d : Cursor} {x : Char} (h : c.next? = some (x, d)) :
    (c.pad p).next? = some (x, d.pad p) := by
  obtain ⟨hHead, hText, hOffset⟩ := next?_eq_some_iff.mp h
  refine next?_eq_some_iff.mpr ⟨?_, by rw [text_pad, text_pad, hText], ?_⟩
  · rw [text_pad, offset_pad, Padding.around, List.append_assoc,
      List.getElem?_append_right (Nat.le_add_right _ _), Nat.add_sub_cancel_left,
      List.getElem?_append_left (List.getElem?_eq_some_iff.mp hHead).1]
    exact hHead
  · rw [offset_pad, offset_pad, hOffset, Nat.add_assoc]

theorem offset_eq_length_of_next?_eq_none {c : Cursor} (h : c.next? = none) :
    c.offset = c.text.length := by
  obtain ⟨before, after, offset, hOffset⟩ := c
  cases after with
  | nil => simp [text, hOffset]
  | cons x after => cases h

theorem skip?_pad (f : Char → Char) (c : Cursor) (expected : List Char) :
    (∃ d, c.skip? f expected = some d ∧ (c.pad p).skip? f expected = some (d.pad p)) ∨
      c.skip? f expected = none ∧
        ∀ d, (c.pad p).skip? f expected = some d → p.covers c.text d = false := by
  induction expected generalizing c with
  | nil => exact .inl ⟨c, rfl, rfl⟩
  | cons x rest ih =>
    cases hNext : c.next? with
    | none =>
      refine .inr ⟨by rw [skip?, hNext], ?_⟩
      intro d hd
      obtain ⟨-, hOffset, -⟩ := skip?_eq_some_iff.mp hd
      rw [offset_pad, offset_eq_length_of_next?_eq_none hNext, List.length_cons] at hOffset
      rw [Padding.covers_eq_false_iff]
      omega
    | some next =>
      obtain ⟨y, e⟩ := next
      simp only [skip?, hNext, next?_pad hNext]
      split
      · rw [← text_of_next? hNext]
        exact ih e
      · exact .inr ⟨rfl, fun d hd => by cases hd⟩

/-- The stops of a run in the text come first among those in the padded text. All others lie behind
the text. -/
theorem stopsFrom_pad (q : Char → Bool) {after before : List Char} {offset : Nat}
    (h : offset = before.length)
    (h' : p.front.length + offset = (before ++ p.front.reverse).length) :
    ∃ others, stopsFrom q (after ++ p.back) (before ++ p.front.reverse)
        (p.front.length + offset) h' = (stopsFrom q after before offset h).map (pad p) ++ others ∧
      ∀ d ∈ others, p.covers (before.reverse ++ after) d = false := by
  induction after generalizing before offset with
  | nil =>
    obtain ⟨first, others, hStops⟩ : ∃ first others, stopsFrom q ([] ++ p.back)
        (before ++ p.front.reverse) (p.front.length + offset) h' = first :: others := by
      cases hBack : p.back with
      | nil => exact ⟨_, _, rfl⟩
      | cons x back => exact ⟨_, _, rfl⟩
    have hFirst := getElem?_stopsFrom_zero q ([] ++ p.back) (before ++ p.front.reverse)
      (p.front.length + offset) h'
    rw [hStops, List.getElem?_cons_zero, Option.some.injEq] at hFirst
    refine ⟨others, by rw [hStops, hFirst]; rfl, ?_⟩
    intro d hd
    obtain ⟨n, hn⟩ := List.mem_iff_getElem?.mp hd
    rw [← List.getElem?_cons_succ (a := first), ← hStops, getElem?_stopsFrom] at hn
    rw [Padding.covers_eq_false_iff, hn.2.1, List.append_nil, List.length_reverse, h]
    omega
  | cons x after ih =>
    simp only [List.cons_append, stopsFrom, List.map_cons]
    split
    · obtain ⟨others, hStops, hOthers⟩ :=
        ih (show offset + 1 = (x :: before).length by simp [h]) (by simp [h]; omega)
      refine ⟨others, congrArg _ hStops, ?_⟩
      simpa using hOthers
    · exact ⟨[], by simp [pad], fun d hd => absurd hd List.not_mem_nil⟩

theorem stops_pad (q : Char → Bool) (c : Cursor) :
    ∃ others, (c.pad p).stops q = (c.stops q).map (pad p) ++ others ∧
      ∀ d ∈ others, p.covers c.text d = false :=
  stopsFrom_pad q c.offset_eq (c.pad p).offset_eq

theorem back?_pad (n : Nat) (c : Cursor) :
    (∃ d, c.back? n = some d ∧ (c.pad p).back? n = some (d.pad p)) ∨
      c.back? n = none ∧ ∀ d, (c.pad p).back? n = some d →
        d.text = p.around c.text ∧ d.offset < p.front.length := by
  by_cases h : n ≤ c.offset
  · obtain ⟨d, hText, hOffset⟩ := exists_at c.text (Nat.le_trans (Nat.sub_le c.offset n) c.offset_le)
    refine .inl ⟨d, back?_eq_some_iff.mpr ⟨hText, by omega⟩, back?_eq_some_iff.mpr ⟨?_, ?_⟩⟩
    · rw [text_pad, text_pad, hText]
    · simp only [offset_pad]
      omega
  · refine .inr ⟨?_, ?_⟩
    · rw [Option.eq_none_iff_forall_ne_some]
      intro d hd
      have hOffset := (back?_eq_some_iff.mp hd).2
      omega
    · intro d hd
      obtain ⟨hText, hOffset⟩ := back?_eq_some_iff.mp hd
      rw [offset_pad] at hOffset
      exact ⟨by rw [hText, text_pad], by omega⟩

theorem upTo_pad {c d : Cursor} (h : d.text = c.text) : (c.pad p).upTo (d.pad p) = c.upTo d := by
  have hBound := d.offset_le
  have hAfter := c.length_after
  rw [h] at hBound
  simp only [upTo, offset_pad, Nat.add_sub_add_left]
  exact List.take_append_of_le_length (by omega)

theorem any_head?_append {xs ys : List Char} {q : Char → Bool} (h : ∀ y ∈ ys, q y = false) :
    (xs ++ ys).head?.any q = xs.head?.any q := by
  cases xs with
  | cons x xs => rfl
  | nil =>
    cases ys with
    | nil => rfl
    | cons y ys => exact h y List.mem_cons_self

theorem wordEdge_pad (c : Cursor) : Anchor.wordEdge.holds (c.pad p) = Anchor.wordEdge.holds c := by
  have hFront : ∀ x ∈ p.front.reverse, CharSet.word.contains x = false := by
    intro x hx
    exact Text.isWord_of_isBlank (p.blank_front x (List.mem_reverse.mp hx))
  have hBack : ∀ x ∈ p.back, CharSet.word.contains x = false :=
    fun x hx => Text.isWord_of_isBlank (p.blank_back x hx)
  simp only [Anchor.holds, Anchor.holds.edge, pad, any_head?_append hFront, any_head?_append hBack]

theorem stopsFrom_append (first rest : List Char) {before : List Char} {offset : Nat}
    (h : offset = before.length)
    (h' : offset + first.length = (first.reverse ++ before).length) :
    ∃ cs, stopsFrom (fun _ => true) (first ++ rest) before offset h =
        cs ++ stopsFrom (fun _ => true) rest (first.reverse ++ before) (offset + first.length) h' ∧
      ∀ c ∈ cs, c.offset < offset + first.length := by
  induction first generalizing before offset with
  | nil => exact ⟨[], rfl, fun c hc => absurd hc List.not_mem_nil⟩
  | cons x first ih =>
    obtain ⟨cs, hStops, hcs⟩ :=
      ih (show offset + 1 = (x :: before).length by simp [h]) (by simp [h]; omega)
    refine ⟨⟨before, x :: (first ++ rest), offset, h⟩ :: cs, ?_, ?_⟩
    · simp only [List.cons_append, stopsFrom, if_true, hStops, List.length_cons,
        List.reverse_cons, List.append_assoc, List.nil_append, Nat.add_comm first.length 1,
        Nat.add_assoc]
    · intro c hc
      rw [List.length_cons]
      rcases List.mem_cons.mp hc with rfl | hc
      · exact Nat.lt_add_of_pos_right (Nat.succ_pos _)
      · have hLt := hcs c hc
        omega

/-- The places of the padded text: in front of the text, in the text, and behind it. -/
theorem places_around (text : List Char) :
    ∃ front back, places (p.around text) = front ++ (places text).map (pad p) ++ back ∧
      (∀ c ∈ front, c.offset < p.front.length) ∧ ∀ c ∈ back, p.covers text c = false := by
  obtain ⟨front, hFront, hBefore⟩ := stopsFrom_append p.front (text ++ p.back)
    (show 0 = ([] : List Char).length from rfl) (by simp)
  obtain ⟨back, hInner, hBehind⟩ := stops_pad (p := p) (fun _ => true) (start text)
  refine ⟨front, back, ?_, fun c hc => by simpa using hBefore c hc, hBehind⟩
  have hMiddle : stopsFrom (fun _ => true) (text ++ p.back) (p.front.reverse ++ [])
      (0 + p.front.length) (by simp) = (start text |>.pad p).stops fun _ => true := by
    simp [stops, pad, start]
  rw [places, stops]
  simp only [start, Padding.around, List.append_assoc]
  rw [hFront, hMiddle, hInner]
  rfl

end Cursor

end ContractAudit.Regex
