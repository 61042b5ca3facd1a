import Mathlib.Tactic.IntervalCases
import Redelivery.Header
/-!
# Reading back what was written in UTF-8

The octets of a text read as that text, and no gap is found in them: `scan_encode`.
Hence the strict reader inverts `encode` (`decode?_encode`). It answers exactly where there
is no gap (`decode?_eq_some_iff`), so the lenient one agrees with it wherever it answers,
and a header that holds a text holds it as its name too (`Header.name?_of_text?`).

A character takes one to four octets. `opening` sorts the lead octet into one of nine
ranges; the lemmas about a character under way (`scanFrom_more`, `scanFrom_last`) carry
the bits through the octets that follow.
-/

namespace Redelivery

set_option autoImplicit false

namespace Utf8

/-! ## One octet -/

theorem scanFrom_character {octet : UInt8} {c : Char} (opens : opening octet = .character c)
    (rest : Octets) : scanFrom none (octet :: rest) = some c :: scanFrom none rest := by
  simp [scanFrom, advance, start, opens]

theorem scanFrom_pending {octet : UInt8} {p : Pending} (opens : opening octet = .pending p)
    (rest : Octets) : scanFrom none (octet :: rest) = scanFrom (some p) rest := by
  simp [scanFrom, advance, start, opens]

theorem scanFrom_more {octet : UInt8} {bits owed low high : Nat} (above : low ≤ octet.toNat)
    (below : octet.toNat ≤ high) (rest : Octets) :
    scanFrom (some ⟨bits, owed + 2, low, high⟩) (octet :: rest) =
      scanFrom (some ⟨bits * 64 + (octet.toNat - 0x80), owed + 1, 0x80, 0xBF⟩) rest := by
  simp [scanFrom, advance, above, below]

/-- The continuation octet that completes a character. -/
theorem scanFrom_last {octet : UInt8} {bits low high : Nat} (above : low ≤ octet.toNat)
    (below : octet.toNat ≤ high) (rest : Octets) :
    scanFrom (some ⟨bits, 1, low, high⟩) (octet :: rest) =
      some (Char.ofNat (bits * 64 + (octet.toNat - 0x80))) :: scanFrom none rest := by
  simp [scanFrom, advance, above, below]

/-! ## The octets of a character -/

theorem toNat_ofNat_of_lt {n : Nat} (small : n < 256) : (UInt8.ofNat n).toNat = n := by
  simp [Nat.mod_eq_of_lt small]

theorem opening_of_two {n : Nat} (wide : 2 ≤ n) (fits : n < 32) :
    opening (UInt8.ofNat (n + 0xC0)) = .pending ⟨n, 1, 0x80, 0xBF⟩ := by
  interval_cases n <;> rfl

/-- The next octet of a character of three keeps out overlong forms and surrogates. -/
theorem opening_of_three {n : Nat} (fits : n < 16) :
    opening (UInt8.ofNat (n + 0xE0)) =
      .pending ⟨n, 2, if n = 0 then 0xA0 else 0x80, if n = 13 then 0x9F else 0xBF⟩ := by
  interval_cases n <;> rfl

/-- The next octet of a character of four keeps out overlong forms and what lies past
the last code point. -/
theorem opening_of_four {n : Nat} (fits : n < 5) :
    opening (UInt8.ofNat (n + 0xF0)) =
      .pending ⟨n, 3, if n = 0 then 0x90 else 0x80, if n = 4 then 0x8F else 0xBF⟩ := by
  interval_cases n <;> rfl

/-- A continuation octet carries six bits. -/
theorem toNat_continuation (n : Nat) : (UInt8.ofNat (n % 64 + 0x80)).toNat = n % 64 + 0x80 :=
  toNat_ofNat_of_lt (by omega)

theorem code_range (c : Char) :
    c.val.toNat < 0xD800 ∨ 0xDFFF < c.val.toNat ∧ c.val.toNat < 0x110000 :=
  c.valid

theorem ofNat_code (c : Char) {n : Nat} (same : n = c.val.toNat) : Char.ofNat n = c := by
  rw [same]
  exact Char.ofNat_toNat c

/-- A written character reads as that character, whatever follows. -/
theorem scanFrom_utf8EncodeChar (c : Char) (rest : Octets) :
    scanFrom none (String.utf8EncodeChar c ++ rest) = some c :: scanFrom none rest := by
  have range := code_range c
  unfold String.utf8EncodeChar
  generalize code : c.val.toNat = v at range
  simp only
  -- One case for each length. Surrogates and code points past the last one are no characters, so
  -- the narrower bounds of the second octet hold.
  split
  · rename_i small
    have opens : opening (UInt8.ofNat v) = .character (Char.ofNat v) := by
      simp only [opening, toNat_ofNat_of_lt (show v < 256 by omega)]
      rw [if_pos (by omega)]
    rw [List.cons_append, scanFrom_character opens, ofNat_code _ code.symm]
    rfl
  · split
    · rename_i wide small
      have lead : v / 64 % 0x20 = v / 64 := by omega
      rw [lead, List.cons_append,
        scanFrom_pending (opening_of_two (by omega) (by omega)), List.cons_append,
        scanFrom_last (by rw [toNat_continuation]; omega) (by rw [toNat_continuation]; omega),
        toNat_continuation, ofNat_code c (by omega)]
      rfl
    · split
      · rename_i wide small
        have lead : v / 4096 % 0x10 = v / 4096 := by omega
        rw [lead, List.cons_append, scanFrom_pending (opening_of_three (by omega)),
          List.cons_append,
          scanFrom_more (by rw [toNat_continuation]; split <;> omega)
            (by rw [toNat_continuation]; split <;> omega),
          List.cons_append,
          scanFrom_last (by rw [toNat_continuation]; omega) (by rw [toNat_continuation]; omega),
          toNat_continuation, toNat_continuation, ofNat_code c (by omega)]
        rfl
      · rename_i wide
        have lead : v / 262144 % 0x08 = v / 262144 := by omega
        rw [lead, List.cons_append, scanFrom_pending (opening_of_four (by omega)),
          List.cons_append,
          scanFrom_more (by rw [toNat_continuation]; split <;> omega)
            (by rw [toNat_continuation]; split <;> omega),
          List.cons_append,
          scanFrom_more (by rw [toNat_continuation]; omega) (by rw [toNat_continuation]; omega),
          List.cons_append,
          scanFrom_last (by rw [toNat_continuation]; omega) (by rw [toNat_continuation]; omega),
          toNat_continuation, toNat_continuation, toNat_continuation, ofNat_code c (by omega)]
        rfl

/-! ## Whole texts -/

/-- The octets of a text read as that text, without a gap. -/
theorem scan_encode (text : String) : scan (encode text) = text.toList.map some := by
  unfold scan encode
  induction text.toList with
  | nil => rfl
  | cons c rest ih =>
      rw [List.flatMap_cons, scanFrom_utf8EncodeChar, ih, List.map_cons]

/-- The strict reader answers exactly for octets without a gap. -/
theorem decode?_eq_some_iff {octets : Octets} {text : String} :
    decode? octets = some text ↔ scan octets = text.toList.map some := by
  have whole : ∀ (read : List (Option Char)) (characters : List Char),
      read.mapM id = some characters ↔ read = characters.map some := by
    intro read
    induction read with
    | nil => intro characters; cases characters <;> simp
    | cons first rest ih =>
        intro characters
        cases first with
        | none => cases characters <;> simp [List.mapM_cons]
        | some c =>
            cases characters with
            | nil => simp [List.mapM_cons, Option.bind_eq_some_iff]
            | cons other others =>
                simp only [List.mapM_cons, id, Option.bind_eq_bind, Option.bind_some,
                  Option.pure_def, Option.bind_eq_some_iff, Option.some.injEq, ih,
                  List.map_cons, List.cons.injEq]
                constructor
                · rintro ⟨tail, read, rfl, rfl⟩; exact ⟨rfl, read⟩
                · rintro ⟨rfl, read⟩; exact ⟨others, read, rfl, rfl⟩
  simp only [decode?, Option.map_eq_some_iff, whole]
  constructor
  · rintro ⟨characters, read, rfl⟩; simpa using read
  · intro read; exact ⟨text.toList, read, String.ofList_toList⟩

@[simp] theorem decode?_encode (text : String) : decode? (encode text) = some text :=
  decode?_eq_some_iff.mpr (scan_encode text)

/-- Where the strict reader answers, the lenient one agrees. -/
theorem decodeLossy_of_decode? {octets : Octets} {text : String}
    (read : decode? octets = some text) : decodeLossy octets = text := by
  simp [decodeLossy, decode?_eq_some_iff.mp read, Function.comp_def]

end Utf8

namespace Header

@[simp] theorem text?_ofText (text : String) : text? (ofText text) = some text :=
  Utf8.decode?_encode text

theorem name?_of_text? {header : Header} {text : String} (read : header.text? = some text) :
    header.name? = some text := by
  cases header with
  | shortText value => exact read
  | longText octets => exact congrArg some (Utf8.decodeLossy_of_decode? read)
  | _ => simp [text?] at read

end Header

end Redelivery
