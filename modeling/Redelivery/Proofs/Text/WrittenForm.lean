import Mathlib.Tactic.SplitIfs
import Redelivery.Proofs.Text.Utf8
/-!
# Each text has one written form

Octets that read without a gap are the octets of the text that they read as, so a text has one
form in UTF-8 and the strict reader answers for no other (`decode?_eq_some_iff_eq_encode`). The
lenient reader answers for all octets, but each gap leaves a U+FFFD behind: a text without that
character is read from its written form only (`decodeLossy_eq_iff`).

The induction goes along the octets, one character at a time. `opening_eq_pending` says which
lead octets leave a character under way, `last_of_gapless` and `more_of_gapless` what must follow
if there is to be no gap, and `utf8EncodeChar_two` to `utf8EncodeChar_four` that what was read is
written in just these octets.
-/

namespace Redelivery

set_option autoImplicit false

namespace Utf8

def replacement : Char := Char.ofNat 0xFFFD

/-! ## One character -/

theorem code_ofNat {n : Nat} (valid : n.isValidChar) : (Char.ofNat n).val.toNat = n := by
  rw [Char.ofNat, dif_pos valid]
  rfl

theorem ofNat_eq (octet : UInt8) {n : Nat} (same : n = octet.toNat) : UInt8.ofNat n = octet := by
  rw [same]
  exact UInt8.ofNat_toNat

variable {lead second third fourth : UInt8}

theorem utf8EncodeChar_one (small : lead.toNat < 0x80) :
    String.utf8EncodeChar (Char.ofNat lead.toNat) = [lead] := by
  have code := code_ofNat (n := lead.toNat) (.inl (by omega))
  simp only [String.utf8EncodeChar, code]
  rw [if_pos (by omega), ofNat_eq lead rfl]

theorem utf8EncodeChar_two (above : 0xC2 ≤ lead.toNat) (below : lead.toNat < 0xE0)
    (low : 0x80 ≤ second.toNat) (high : second.toNat ≤ 0xBF) :
    String.utf8EncodeChar (Char.ofNat ((lead.toNat - 0xC0) * 64 + (second.toNat - 0x80))) =
      [lead, second] := by
  generalize read : (lead.toNat - 0xC0) * 64 + (second.toNat - 0x80) = v
  have code := code_ofNat (n := v) (.inl (by omega))
  simp only [String.utf8EncodeChar, code]
  rw [if_neg (by omega), if_pos (by omega), ofNat_eq lead (by omega), ofNat_eq second (by omega)]

theorem utf8EncodeChar_three (above : 0xE0 ≤ lead.toNat) (below : lead.toNat < 0xF0)
    (low : (if lead.toNat = 0xE0 then 0xA0 else 0x80) ≤ second.toNat)
    (high : second.toNat ≤ if lead.toNat = 0xED then 0x9F else 0xBF)
    (thirdLow : 0x80 ≤ third.toNat) (thirdHigh : third.toNat ≤ 0xBF) :
    String.utf8EncodeChar (Char.ofNat
        (((lead.toNat - 0xE0) * 64 + (second.toNat - 0x80)) * 64 + (third.toNat - 0x80))) =
      [lead, second, third] := by
  generalize read :
    ((lead.toNat - 0xE0) * 64 + (second.toNat - 0x80)) * 64 + (third.toNat - 0x80) = v
  have valid : v.isValidChar := by
    show v < 0xD800 ∨ 0xDFFF < v ∧ v < 0x110000
    split_ifs at low high <;> omega
  have wide : 0x7FF < v := by split_ifs at low <;> omega
  have continues : 0x80 ≤ second.toNat ∧ second.toNat ≤ 0xBF := by
    split_ifs at low high <;> omega
  have code := code_ofNat valid
  simp only [String.utf8EncodeChar, code]
  rw [if_neg (by omega), if_neg (by omega), if_pos (by omega), ofNat_eq lead (by omega),
    ofNat_eq second (by omega), ofNat_eq third (by omega)]

/-- The bounds of the second octet keep out overlong forms and what lies past the last code
point. -/
theorem utf8EncodeChar_four (above : 0xF0 ≤ lead.toNat) (below : lead.toNat ≤ 0xF4)
    (low : (if lead.toNat = 0xF0 then 0x90 else 0x80) ≤ second.toNat)
    (high : second.toNat ≤ if lead.toNat = 0xF4 then 0x8F else 0xBF)
    (thirdLow : 0x80 ≤ third.toNat) (thirdHigh : third.toNat ≤ 0xBF)
    (fourthLow : 0x80 ≤ fourth.toNat) (fourthHigh : fourth.toNat ≤ 0xBF) :
    String.utf8EncodeChar (Char.ofNat
        ((((lead.toNat - 0xF0) * 64 + (second.toNat - 0x80)) * 64 + (third.toNat - 0x80)) * 64 +
          (fourth.toNat - 0x80))) =
      [lead, second, third, fourth] := by
  generalize read :
    (((lead.toNat - 0xF0) * 64 + (second.toNat - 0x80)) * 64 + (third.toNat - 0x80)) * 64 +
      (fourth.toNat - 0x80) = v
  have wide : 0xFFFF < v := by split_ifs at low <;> omega
  have within : v < 0x110000 := by split_ifs at high <;> omega
  have continues : 0x80 ≤ second.toNat ∧ second.toNat ≤ 0xBF := by
    split_ifs at low high <;> omega
  have code := code_ofNat (n := v) (.inr ⟨by omega, within⟩)
  simp only [String.utf8EncodeChar, code]
  rw [if_neg (by omega), if_neg (by omega), if_neg (by omega), ofNat_eq lead (by omega),
    ofNat_eq second (by omega), ofNat_eq third (by omega), ofNat_eq fourth (by omega)]

/-! ## Octets without a gap -/

theorem opening_eq_character {c : Char} (opens : opening lead = .character c) :
    lead.toNat < 0x80 ∧ c = Char.ofNat lead.toNat := by
  simp only [opening] at opens
  split_ifs at opens with one
  rw [Opening.character.injEq] at opens
  exact ⟨one, opens.symm⟩

/-- The lead octets that leave a character under way. -/
theorem opening_eq_pending {p : Pending} (opens : opening lead = .pending p) :
    (0xC2 ≤ lead.toNat ∧ lead.toNat < 0xE0 ∧ p = ⟨lead.toNat - 0xC0, 1, 0x80, 0xBF⟩) ∨
    (0xE0 ≤ lead.toNat ∧ lead.toNat < 0xF0 ∧
      p = ⟨lead.toNat - 0xE0, 2, if lead.toNat = 0xE0 then 0xA0 else 0x80,
        if lead.toNat = 0xED then 0x9F else 0xBF⟩) ∨
    (0xF0 ≤ lead.toNat ∧ lead.toNat ≤ 0xF4 ∧
      p = ⟨lead.toNat - 0xF0, 3, if lead.toNat = 0xF0 then 0x90 else 0x80,
        if lead.toNat = 0xF4 then 0x8F else 0xBF⟩) := by
  simp only [opening] at opens
  split_ifs at opens with one stray two lowest surrogates three lowestFour four lastFour
  all_goals
    rw [Opening.pending.injEq] at opens
    subst opens
  · exact .inl ⟨by omega, by omega, rfl⟩
  · exact .inr (.inl ⟨by omega, by omega, by simp [lowest]⟩)
  · exact .inr (.inl ⟨by omega, by omega, by simp [surrogates]⟩)
  · exact .inr (.inl ⟨by omega, by omega, by simp [lowest, surrogates]⟩)
  · exact .inr (.inr ⟨by omega, by omega, by simp [lowestFour]⟩)
  · have notLast : lead.toNat ≠ 0xF4 := by omega
    exact .inr (.inr ⟨by omega, by omega, by simp [lowestFour, notLast]⟩)
  · exact .inr (.inr ⟨by omega, by omega, by simp [lastFour]⟩)

variable {octets : Octets} {characters : List Char} {bits owed low high : Nat}

/-- A character under way is followed by an octet within its bounds, or there is a gap. -/
theorem next_of_gapless
    (gapless : scanFrom (some ⟨bits, owed, low, high⟩) octets = characters.map some) :
    ∃ octet rest, octets = octet :: rest ∧ low ≤ octet.toNat ∧ octet.toNat ≤ high := by
  cases octets with
  | nil => cases characters <;> simp [scanFrom] at gapless
  | cons octet rest =>
      by_cases within : low ≤ octet.toNat ∧ octet.toNat ≤ high
      · exact ⟨octet, rest, rfl, within⟩
      · cases characters <;> simp [scanFrom, advance, within] at gapless

/-- After the octet that completes a character the rest reads on its own. -/
theorem last_of_gapless
    (gapless : scanFrom (some ⟨bits, 1, low, high⟩) octets = characters.map some) :
    ∃ octet rest others, octets = octet :: rest ∧ low ≤ octet.toNat ∧ octet.toNat ≤ high ∧
      characters = Char.ofNat (bits * 64 + (octet.toNat - 0x80)) :: others ∧
      scanFrom none rest = others.map some := by
  obtain ⟨octet, rest, rfl, above, below⟩ := next_of_gapless gapless
  rw [scanFrom_last above below] at gapless
  cases characters with
  | nil => cases gapless
  | cons c others =>
      rw [List.map_cons, List.cons.injEq, Option.some.injEq] at gapless
      obtain ⟨rfl, follows⟩ := gapless
      exact ⟨octet, rest, others, rfl, above, below, rfl, follows⟩

/-- After any other octet the character is still under way. -/
theorem more_of_gapless
    (gapless : scanFrom (some ⟨bits, owed + 2, low, high⟩) octets = characters.map some) :
    ∃ octet rest, octets = octet :: rest ∧ low ≤ octet.toNat ∧ octet.toNat ≤ high ∧
      scanFrom (some ⟨bits * 64 + (octet.toNat - 0x80), owed + 1, 0x80, 0xBF⟩) rest =
        characters.map some := by
  obtain ⟨octet, rest, rfl, above, below⟩ := next_of_gapless gapless
  rw [scanFrom_more above below] at gapless
  exact ⟨octet, rest, rfl, above, below, gapless⟩

/-- Octets that begin a character and read without a gap are those of one character, and others
that read without a gap. -/
theorem first_of_gapless (gapless : scanFrom none (lead :: octets) = characters.map some) :
    ∃ c rest others, lead :: octets = String.utf8EncodeChar c ++ rest ∧
      characters = c :: others ∧ scanFrom none rest = others.map some := by
  -- The lead octet fixes how many octets the character has.
  cases opens : opening lead with
  | illFormed =>
      cases characters <;> simp [scanFrom, advance, start, opens] at gapless
  | character c =>
      rw [scanFrom_character opens] at gapless
      obtain ⟨small, rfl⟩ := opening_eq_character opens
      cases characters with
      | nil => cases gapless
      | cons first others =>
          rw [List.map_cons, List.cons.injEq, Option.some.injEq] at gapless
          obtain ⟨rfl, follows⟩ := gapless
          exact ⟨_, octets, others, by rw [utf8EncodeChar_one small]; rfl, rfl, follows⟩
  | pending p =>
      rw [scanFrom_pending opens] at gapless
      obtain ⟨above, below, rfl⟩ | ⟨above, below, rfl⟩ | ⟨above, below, rfl⟩ :=
        opening_eq_pending opens
      · obtain ⟨second, rest, others, rfl, low, high, rfl, follows⟩ := last_of_gapless gapless
        refine ⟨_, rest, others, ?_, rfl, follows⟩
        rw [utf8EncodeChar_two above below low high]
        rfl
      · obtain ⟨second, rest, rfl, low, high, gapless⟩ := more_of_gapless gapless
        obtain ⟨third, rest, others, rfl, thirdLow, thirdHigh, rfl, follows⟩ :=
          last_of_gapless gapless
        refine ⟨_, rest, others, ?_, rfl, follows⟩
        rw [utf8EncodeChar_three above below low high thirdLow thirdHigh]
        rfl
      · obtain ⟨second, rest, rfl, low, high, gapless⟩ := more_of_gapless gapless
        obtain ⟨third, rest, rfl, thirdLow, thirdHigh, gapless⟩ := more_of_gapless gapless
        obtain ⟨fourth, rest, others, rfl, fourthLow, fourthHigh, rfl, follows⟩ :=
          last_of_gapless gapless
        refine ⟨_, rest, others, ?_, rfl, follows⟩
        rw [utf8EncodeChar_four above below low high thirdLow thirdHigh fourthLow fourthHigh]
        rfl

/-! ## Whole texts -/

/-- Octets that read without a gap are the octets of what they read as. -/
theorem eq_of_gapless (gapless : scanFrom none octets = characters.map some) :
    octets = characters.flatMap String.utf8EncodeChar := by
  induction characters generalizing octets with
  | nil =>
      cases octets with
      | nil => rfl
      | cons lead rest =>
          obtain ⟨_, _, _, _, absurd, _⟩ := first_of_gapless gapless
          cases absurd
  | cons c others ih =>
      cases octets with
      | nil => cases gapless
      | cons lead rest =>
          obtain ⟨first, after, left, begins, same, follows⟩ := first_of_gapless gapless
          obtain ⟨rfl, rfl⟩ := List.cons.inj same
          rw [begins, List.flatMap_cons, ih follows]

/-- A text is read from its written form and from nothing else. -/
theorem decode?_eq_some_iff_eq_encode {text : String} :
    decode? octets = some text ↔ octets = encode text := by
  rw [decode?_eq_some_iff]
  constructor
  · exact eq_of_gapless
  · rintro rfl
    exact scan_encode text

/-- A text without U+FFFD is read leniently from its written form and from nothing else. -/
theorem decodeLossy_eq_iff {text : String} (plain : replacement ∉ text.toList) :
    decodeLossy octets = text ↔ octets = encode text := by
  constructor
  · intro read
    have characters : (scan octets).map (·.getD replacement) = text.toList := by
      rw [← read, decodeLossy, String.toList_ofList]
      rfl
    -- a gap would have left its mark in the text
    have gapless : none ∉ scan octets := by
      intro gap
      apply plain
      rw [← characters]
      exact List.mem_map.mpr ⟨none, gap, rfl⟩
    apply eq_of_gapless
    calc scan octets
        = (scan octets).map (fun read => some (read.getD replacement)) := by
          refine ((List.map_congr_left fun read member => ?_).trans (List.map_id _)).symm
          cases read with
          | none => exact absurd member gapless
          | some c => rfl
      _ = text.toList.map some := by rw [← characters, List.map_map]; rfl
  · rintro rfl
    exact decodeLossy_of_decode? (decode?_encode text)

/-- A text with that character is read from other octets as well. -/
example : decodeLossy [0xFF] = String.ofList [replacement] ∧
    [0xFF] ≠ encode (String.ofList [replacement]) := by
  decide +kernel

end Utf8

namespace Header

variable {header : Header} {text : String}

/-- A header is read as a text exactly if it is that text, or its written form. -/
theorem text?_eq_some_iff :
    header.text? = some text ↔ header = shortText text ∨ header = longText (Utf8.encode text) := by
  cases header with
  | shortText value => simp [text?]
  | longText octets => simp [text?, Utf8.decode?_eq_some_iff_eq_encode]
  | _ => simp [text?]

theorem name?_eq_some_iff (plain : Utf8.replacement ∉ text.toList) :
    header.name? = some text ↔ header = shortText text ∨ header = longText (Utf8.encode text) := by
  cases header with
  | shortText value => simp [name?]
  | longText octets => simp [name?, Utf8.decodeLossy_eq_iff plain]
  | _ => simp [name?]

end Header

end Redelivery
