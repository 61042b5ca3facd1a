import Mathlib.Data.List.Basic
import Redelivery.Proofs.Text.LetterCase
import Redelivery.Proofs.Text.Utf8
import Redelivery.Trace.Context
/-!
# The fields of a context among the headers

A context is written field by field, each as a long text under its lower-case name. So the last
field of a name, letter case aside, is what stands under the lower-case name, and every other
header is what it was: `Trace.Context.find?_inject_eq`.

A reader asks for a header by its exact name. It finds a field under the lower-case name, and only
there; a name in any other spelling is never written, and reads as it did before
(`Trace.Context.written_read_iff`).
-/

namespace Redelivery

set_option autoImplicit false

theorem SortedTable.mem_names_iff {α : Type} {name : String} {table : SortedTable α} :
    name ∈ names table ↔ ∃ value, find? name table = some value := by
  induction table with
  | nil => simp [names, find?]
  | cons entry rest ih =>
      simp only [names] at ih
      by_cases own : name = entry.1
      · simp [names, find?, own]
      · simp [names, find?, own, ih]

namespace Trace.Context

/-! ## Writing -/

/-- The value that a context writes under a name: that of the last field whose lower-case name
it is. -/
def written? (fields : Context) (name : String) : Option String :=
  (fields.reverse.find? fun field => Letters.lowercase field.1 = name).map Prod.snd

theorem written?_cons (field : String × String) (rest : Context) (name : String) :
    written? (field :: rest) name =
      (written? rest name).or (if Letters.lowercase field.1 = name then some field.2 else none) := by
  rw [written?, List.reverse_cons, List.find?_append, Option.map_or, written?]
  by_cases own : Letters.lowercase field.1 = name <;> simp [own]

theorem written?_eq_none_iff {fields : Context} {name : String} :
    written? fields name = none ↔ ∀ field ∈ fields, Letters.lowercase field.1 ≠ name := by
  simp [written?]

theorem exists_written {fields : Context} {name : String}
    (named : ∃ field ∈ fields, Letters.lowercase field.1 = name) :
    ∃ value, written? fields name = some value := by
  rw [← Option.isSome_iff_exists, Option.isSome_iff_ne_none, Ne, written?_eq_none_iff]
  obtain ⟨field, member, own⟩ := named
  exact fun none => none field member own

/-- What stands among the headers after a context was written: the texts that it writes, and
elsewhere what stood there before. -/
theorem find?_inject_eq (fields : Context) (headers : Headers) (name : String) :
    SortedTable.find? name (inject fields headers) =
      ((written? fields name).map Header.ofText).or (SortedTable.find? name headers) := by
  induction fields generalizing headers with
  | nil => rfl
  | cons field rest ih =>
      have first : inject (field :: rest) headers =
          inject rest (setField headers field.1 field.2) := rfl
      rw [first, ih, written?_cons, setField, Option.map_or, Option.or_assoc]
      by_cases own : Letters.lowercase field.1 = name
      · rw [if_pos own, ← own, SortedTable.find?_insert_self]
        rfl
      · rw [if_neg own, SortedTable.find?_insert_of_ne (Ne.symm own)]
        rfl

theorem find?_inject_of_unwritten {fields : Context} {name : String}
    (unwritten : written? fields name = none) (headers : Headers) :
    SortedTable.find? name (inject fields headers) = SortedTable.find? name headers := by
  rw [find?_inject_eq, unwritten]
  rfl

theorem find?_inject_of_written {fields : Context} {name value : String}
    (written : written? fields name = some value) (headers : Headers) :
    SortedTable.find? name (inject fields headers) = some (Header.ofText value) := by
  rw [find?_inject_eq, written]
  rfl

theorem written?_of_ne {name : String} (spelled : Letters.lowercase name ≠ name)
    (fields : Context) : written? fields name = none := by
  rw [written?_eq_none_iff]
  rintro field - rfl
  exact spelled (Letters.lowercase_lowercase field.1)

/-! ## Reading back -/

/-- **A field is read back under its lower-case name, and under no other.** Take a name that was
set in some letter case. The last value set so is the text of the header of the lower-case name,
which is among the names that are listed, and it is read there. Under any other spelling what is
read is what was read before. Headers whose names were not set are what they were. -/
theorem written_read_iff {fields : Context} {name : String}
    (set : ∃ field ∈ fields, Letters.lowercase field.1 = Letters.lowercase name)
    (headers : Headers) :
    ∃ value, written? fields (Letters.lowercase name) = some value ∧
      Letters.lowercase name ∈ SortedTable.names (inject fields headers) ∧
      field? (inject fields headers) (Letters.lowercase name) = some value ∧
      (field? (inject fields headers) name = some value ↔
        Letters.lowercase name = name ∨ field? headers name = some value) ∧
      (Letters.lowercase name ≠ name →
        field? (inject fields headers) name = field? headers name) ∧
      ∀ other, (∀ field ∈ fields, Letters.lowercase field.1 ≠ other) →
        SortedTable.find? other (inject fields headers) = SortedTable.find? other headers := by
  obtain ⟨value, written⟩ := exists_written set
  have found := find?_inject_of_written written headers
  have read : field? (inject fields headers) (Letters.lowercase name) = some value := by
    rw [field?, found]
    exact Header.text?_ofText value
  have elsewhere : Letters.lowercase name ≠ name →
      field? (inject fields headers) name = field? headers name := by
    intro spelled
    rw [field?, field?, find?_inject_of_unwritten (written?_of_ne spelled fields)]
  refine ⟨value, written, SortedTable.mem_names_iff.mpr ⟨_, found⟩, read, ?_, elsewhere,
    fun other unset => find?_inject_of_unwritten (written?_eq_none_iff.mpr unset) headers⟩
  by_cases plain : Letters.lowercase name = name
  · rw [plain] at read
    exact ⟨fun _ => .inl plain, fun _ => read⟩
  · rw [elsewhere plain]
    exact ⟨.inr, fun either => either.resolve_left plain⟩

/-! ## Poles -/

def streets : Context := [("ΟΔΟΣ", "first"), ("baggage", "none"), ("οδος", "second")]

/-- The second value is read under the lower-case name, and under the capital one what stood
there before. -/
theorem written_read_iff_streets :
    (∃ field ∈ streets, Letters.lowercase field.1 = Letters.lowercase "ΟΔΟΣ") ∧
      field? (inject streets [("ΟΔΟΣ", .ofText "old")]) "οδος" = some "second" ∧
      field? (inject streets [("ΟΔΟΣ", .ofText "old")]) "ΟΔΟΣ" = some "old" := by
  have set : ∃ field ∈ streets, Letters.lowercase field.1 = Letters.lowercase "ΟΔΟΣ" :=
    ⟨("ΟΔΟΣ", "first"), List.mem_cons_self, rfl⟩
  have low : Letters.lowercase "ΟΔΟΣ" = "οδος" := by decide +kernel
  have last : written? streets "οδος" = some "second" := by decide +kernel
  obtain ⟨value, written, -, read, -, elsewhere, -⟩ :=
    written_read_iff set [("ΟΔΟΣ", .ofText "old")]
  rw [low] at written read elsewhere
  rw [last] at written
  cases written
  exact ⟨set, read, (elsewhere (by decide)).trans (Header.text?_ofText "old")⟩

/-- A field set under a name with capital letters is not found under that name. -/
theorem capital_name_unread :
    field? (inject [("TraceParent", "00-abc-def-01")] []) "traceparent" = some "00-abc-def-01" ∧
      field? (inject [("TraceParent", "00-abc-def-01")] []) "TraceParent" = none := by
  decide +kernel

end Trace.Context

end Redelivery
