import Redelivery.Text.Lowercase
/-!
# Lowering twice

The lower-case form of a text is its own lower-case form: `lowercase_lowercase`. So the texts
that agree up to letter case have one spelling among them that lowering leaves alone, and
`lowercase` finds it.

Lowering changes the characters of a few ranges, `changing`, and none of the characters that it
puts in their place lies in such a range (`lowerRanges_misses`, a fact of the tables). What stands
around a character matters for the capital sigma only, which is in one of the ranges.
-/

namespace Redelivery.Letters

set_option autoImplicit false

/-! ## The ranges -/

def CaseRange.image (range : CaseRange) (code : Nat) : Nat := (code + range.offset).toNat

/-- What a range maps to lies outside another one: entirely to one side of it, or code point by
code point. -/
def CaseRange.misses (range other : CaseRange) : Bool :=
  other.last < range.image range.first || range.image range.last < other.first ||
    (List.range (range.last - range.first + 1)).all fun step =>
      !(range.covers (range.first + step) && other.covers (range.image (range.first + step)))

/-- The characters that lowering changes: the capital letters of ASCII, the capital I with a dot,
and those that have a mapping. -/
def changing : List CaseRange := ⟨0x41, 0x5A, 1, 32⟩ :: ⟨0x130, 0x130, 1, 0⟩ :: lowerRanges

/-- No mapping leads to a character that lowering changes. -/
theorem lowerRanges_misses : (lowerRanges.all fun range => changing.all range.misses) = true := by
  decide +kernel

theorem CaseRange.covers_iff {range : CaseRange} {code : Nat} :
    range.covers code = true ↔
      (range.first ≤ code ∧ code ≤ range.last) ∧ (code - range.first) % range.stride = 0 := by
  simp [covers]

theorem CaseRange.covers_image_of_misses {range other : CaseRange}
    (missed : range.misses other = true) {code : Nat} (covered : range.covers code = true) :
    other.covers (range.image code) = false := by
  obtain ⟨⟨above, below⟩, -⟩ := covers_iff.mp covered
  rw [misses, Bool.or_eq_true, Bool.or_eq_true, decide_eq_true_eq, decide_eq_true_eq] at missed
  rw [Bool.eq_false_iff]
  intro met
  obtain ⟨⟨reached, passed⟩, -⟩ := covers_iff.mp met
  rcases missed with (left | right) | each
  · simp only [image] at left passed
    omega
  · simp only [image] at right reached
    omega
  · have step := List.all_eq_true.mp each (code - range.first) (List.mem_range.mpr (by omega))
    rw [Nat.add_sub_cancel' above, covered, met] at step
    cases step

/-! ## Characters that are left alone -/

/-- Lowering changes no character of this code point. -/
def Settled (code : Nat) : Prop := ∀ range ∈ changing, range.covers code = false

instance (code : Nat) : Decidable (Settled code) :=
  inferInstanceAs (Decidable (∀ range ∈ changing, range.covers code = false))

theorem not_settled_dotted : ¬ Settled 0x130 := by decide +kernel

theorem not_settled_sigma : ¬ Settled 0x3A3 := by decide +kernel

/-- A capital letter of ASCII. -/
def IsCapital (code : Nat) : Prop := 0x41 ≤ code ∧ code ≤ 0x5A

instance (code : Nat) : Decidable (IsCapital code) :=
  inferInstanceAs (Decidable (0x41 ≤ code ∧ code ≤ 0x5A))

theorem lowerRanges_beyond_ascii : ∀ range ∈ lowerRanges, 0x80 ≤ range.first := by decide +kernel

theorem settled_ascii_iff {code : Nat} (ascii : code < 0x80) :
    Settled code ↔ ¬ IsCapital code := by
  constructor
  · intro settled capital
    have covered := settled ⟨0x41, 0x5A, 1, 32⟩ List.mem_cons_self
    have met : CaseRange.covers ⟨0x41, 0x5A, 1, 32⟩ code = true :=
      CaseRange.covers_iff.mpr ⟨capital, Nat.mod_one _⟩
    rw [met] at covered
    cases covered
  · intro uncapital range member
    rw [Bool.eq_false_iff]
    intro covered
    obtain ⟨inside, -⟩ := CaseRange.covers_iff.mp covered
    rcases List.mem_cons.mp member with rfl | member
    · exact uncapital inside
    · rcases List.mem_cons.mp member with rfl | member
      · exact absurd (Nat.lt_of_le_of_lt inside.1 ascii) (by decide)
      · have beyond := lowerRanges_beyond_ascii range member
        omega

/-- Lowering in ASCII takes the capital letters out of it and leaves the rest alone. -/
theorem toLower_ascii : ∀ code < 0x80,
    (Char.ofNat code).toLower.toNat < 0x80 ∧ ¬ IsCapital (Char.ofNat code).toLower.toNat ∧
      (¬ IsCapital code → (Char.ofNat code).toLower = Char.ofNat code) := by
  decide +kernel

theorem settled_toLower {c : Char} (ascii : c.toNat < 0x80) : Settled c.toLower.toNat := by
  obtain ⟨within, uncapital, -⟩ := toLower_ascii c.toNat ascii
  rw [Char.ofNat_toNat] at within uncapital
  exact (settled_ascii_iff within).mpr uncapital

theorem toLower_of_settled {c : Char} (ascii : c.toNat < 0x80) (settled : Settled c.toNat) :
    c.toLower = c := by
  have kept := (toLower_ascii c.toNat ascii).2.2 ((settled_ascii_iff ascii).mp settled)
  rwa [Char.ofNat_toNat] at kept

theorem settled_nul : Settled 0 := by decide +kernel

/-- What is no code point is read as the null character. -/
theorem settled_ofNat {code : Nat} (settled : Settled code) :
    Settled (Char.ofNat code).toNat := by
  by_cases valid : code.isValidChar
  · rw [Char.ofNat, dif_pos valid]
    exact settled
  · rw [Char.ofNat, dif_neg valid]
    exact settled_nul

theorem lower_of_settled {c : Char} (settled : Settled c.toNat) : lower c = c := by
  rw [lower]
  split
  · rename_i ascii
    exact toLower_of_settled ascii settled
  · have unmapped : lowerRanges.find? (·.covers c.toNat) = none := by
      rw [List.find?_eq_none]
      intro range member
      rw [settled range (List.mem_cons_of_mem _ (List.mem_cons_of_mem _ member))]
      exact Bool.false_ne_true
    rw [unmapped]

theorem lowerBetween_of_settled {c : Char} (settled : Settled c.toNat)
    (before after : List Char) : lowerBetween before c after = [c] := by
  have undotted : c.toNat ≠ 0x130 := fun dotted => not_settled_dotted (dotted ▸ settled)
  have unsigma : c.toNat ≠ 0x3A3 := fun sigma => not_settled_sigma (sigma ▸ settled)
  rw [lowerBetween, if_neg undotted, if_neg unsigma, lower_of_settled settled]

theorem lowerFrom_of_settled {characters : List Char}
    (settled : ∀ c ∈ characters, Settled c.toNat) (before : List Char) :
    lowerFrom before characters = characters := by
  induction characters generalizing before with
  | nil => rfl
  | cons c rest ih =>
      rw [lowerFrom, lowerBetween_of_settled (settled c List.mem_cons_self),
        ih fun each member => settled each (List.mem_cons_of_mem _ member)]
      rfl

/-! ## What lowering leaves -/

/-- The letter that a character is lowered to is settled, if it is not the capital I with a dot. -/
theorem settled_lower {c : Char} (undotted : c.toNat ≠ 0x130) : Settled (lower c).toNat := by
  rw [lower]
  split
  · rename_i ascii
    exact settled_toLower ascii
  · rename_i beyond
    cases found : lowerRanges.find? (·.covers c.toNat) with
    | some range =>
        refine settled_ofNat fun other member => ?_
        have misses := List.all_eq_true.mp
          (List.all_eq_true.mp lowerRanges_misses range (List.mem_of_find?_eq_some found))
          other member
        exact CaseRange.covers_image_of_misses misses
          (List.find?_some (p := fun range : CaseRange => range.covers c.toNat) found)
    | none =>
        intro range member
        rcases List.mem_cons.mp member with rfl | member
        · simp [CaseRange.covers]
          omega
        · rcases List.mem_cons.mp member with rfl | member
          · simp [CaseRange.covers]
            omega
          · simpa using List.find?_eq_none.mp found range member

theorem settled_forms :
    Settled 'i'.toNat ∧ Settled 0x307 ∧ Settled 0x3C2 ∧ Settled 0x3C3 := by
  decide +kernel

theorem settled_lowerBetween {c d : Char} {before after : List Char}
    (member : d ∈ lowerBetween before c after) : Settled d.toNat := by
  obtain ⟨letter, dot, final, inner⟩ := settled_forms
  rw [lowerBetween] at member
  split at member
  · rcases List.mem_cons.mp member with rfl | member
    · exact letter
    · rw [List.mem_singleton.mp member]
      exact settled_ofNat dot
  · rename_i undotted
    split at member
    · rw [List.mem_singleton.mp member]
      split
      · exact settled_ofNat final
      · exact settled_ofNat inner
    · rw [List.mem_singleton.mp member]
      exact settled_lower undotted

theorem settled_lowerFrom {characters : List Char} {before : List Char} {c : Char}
    (member : c ∈ lowerFrom before characters) : Settled c.toNat := by
  induction characters generalizing before with
  | nil => cases member
  | cons first rest ih =>
      rcases List.mem_append.mp member with own | later
      · exact settled_lowerBetween own
      · exact ih later

/-- The lower-case form of a text is its own lower-case form. -/
theorem lowercase_lowercase (text : String) : lowercase (lowercase text) = lowercase text := by
  rw [lowercase, lowercase, String.toList_ofList,
    lowerFrom_of_settled fun c member => settled_lowerFrom member]

end Redelivery.Letters
