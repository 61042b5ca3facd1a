import Mathlib.Logic.Relation
import Redelivery.Proofs.DeathRecord
import Redelivery.Proofs.Text.WrittenForm
/-!
# The record of one's own queue

A counter that asks for a queue looks among the items of the death record for one that names
that queue, and settles for the first record if there is none. The name of a record is read
leniently, so it has to be shown that nothing else reads as the name: `recordQueue?_eq_some_iff`
does, for a name without U+FFFD.

What the counter takes from the header is its first own item, so all other items may come and go
(`Reworked`): `reworked_iff` says that any such changes together are exactly those that leave the
own items and their order alone.

* `chosenRecord?_eq`: the chosen record, by the own items and the first record.
* `recordCount?_eq_some_iff`: the number that a record holds.
* `own_record_decides`: how a counter reads a header, and on which of its items this depends.
-/

namespace Redelivery

set_option autoImplicit false

namespace DeathRecord

/-! ## What names a queue, and what holds a number -/

/-- An item is a record whose queue is given as a short text, or as a long one in UTF-8. -/
inductive Names (queue : String) : Header → Prop where
  | short {record : Headers}
      (found : SortedTable.find? "queue" record = some (.shortText queue)) :
      Names queue (.table record)
  | long {record : Headers}
      (found : SortedTable.find? "queue" record = some (.longText (Utf8.encode queue))) :
      Names queue (.table record)

/-- The number that a record holds: an integer of any width, or a timestamp of 63 bits. -/
inductive Holds (record : Headers) : Int → Prop where
  | integer (width : IntegerWidth) (number : Int)
      (found : SortedTable.find? "count" record = some (.integer width number)) :
      Holds record number
  | timestamp (seconds : Nat)
      (found : SortedTable.find? "count" record = some (.timestamp seconds))
      (fits : seconds < 2 ^ 63) : Holds record seconds

/-- What a record counts for: the number that it holds, and 0 if it holds none. -/
def Counts (record : Headers) (number : Int) : Prop :=
  Holds record number ∨ number = 0 ∧ ∀ other, ¬ Holds record other

/-- A record is taken for one of a queue exactly if it names it. -/
theorem recordQueue?_eq_some_iff {queue : String} (plain : Utf8.replacement ∉ queue.toList)
    {record : Headers} :
    RetryCounter.recordQueue? record = some queue ↔ Names queue (.table record) := by
  rw [RetryCounter.recordQueue?, Option.bind_eq_some_iff]
  constructor
  · rintro ⟨header, found, read⟩
    obtain rfl | rfl := (Header.name?_eq_some_iff plain).mp read
    · exact .short found
    · exact .long found
  · intro names
    cases names with
    | short found => exact ⟨_, found, rfl⟩
    | long found => exact ⟨_, found, (Header.name?_eq_some_iff plain).mpr (.inr rfl)⟩

/-- The number of a record is the one that it holds. -/
theorem recordCount?_eq_some_iff {record : Headers} {number : Int} :
    RetryCounter.recordCount? record = some number ↔ Holds record number := by
  rw [RetryCounter.recordCount?, Option.bind_eq_some_iff]
  constructor
  · rintro ⟨header, found, read⟩
    cases header with
    | integer width value =>
        cases read
        exact .integer width _ found
    | timestamp seconds =>
        simp only [Header.count?, Option.ite_none_right_eq_some, Option.some.injEq] at read
        obtain ⟨fits, rfl⟩ := read
        exact .timestamp seconds found fits
    | _ => cases read
  · intro holds
    cases holds with
    | integer width _ found => exact ⟨_, found, rfl⟩
    | timestamp seconds found fits =>
        refine ⟨_, found, ?_⟩
        show (if seconds < 2 ^ 63 then some (seconds : Int) else none) = some (seconds : Int)
        rw [if_pos fits]

theorem counts_read (record : Headers) :
    Counts record ((RetryCounter.recordCount? record).getD 0) := by
  cases read : RetryCounter.recordCount? record with
  | some number => exact .inl (recordCount?_eq_some_iff.mp read)
  | none =>
      refine .inr ⟨rfl, fun other holds => ?_⟩
      rw [recordCount?_eq_some_iff.mpr holds] at read
      cases read

/-! ## Own items -/

/-- Whether a counter of a queue takes an item for a record of it. -/
def takenFor (queue : String) (item : Header) : Bool :=
  (entries? item).any fun record => RetryCounter.recordQueue? record = some queue

theorem takenFor_iff {queue : String} (plain : Utf8.replacement ∉ queue.toList) {item : Header} :
    takenFor queue item = true ↔ Names queue item := by
  cases item with
  | table record =>
      rw [← recordQueue?_eq_some_iff plain]
      simp [takenFor, entries?]
  | _ =>
      constructor
      · intro taken; cases taken
      · intro names; cases names

theorem exists_of_taken {queue : String} {item : Header} (taken : takenFor queue item = true) :
    ∃ record, item = .table record ∧ entries? item = some record := by
  cases item with
  | table record => exact ⟨record, rfl, rfl⟩
  | _ => cases taken

/-- The record that is counted: that of the first own item, else the first of all. -/
theorem chosenRecord?_eq (queue : String) (headers : Headers) :
    RetryCounter.chosenRecord? (some queue) headers =
      (((items headers).filter (takenFor queue)).head?.bind entries?).or
        ((items headers).findSome? entries?) := by
  rw [RetryCounter.chosenRecord?, deathRecords_eq, List.head?_filter, List.head?_filterMap,
    Option.bind_some, List.find?_filterMap]
  rfl

theorem chosenRecord?_none (headers : Headers) :
    RetryCounter.chosenRecord? none headers = (items headers).findSome? entries? := by
  rw [RetryCounter.chosenRecord?, deathRecords_eq, List.head?_filterMap]
  rfl

theorem chosenRecord?_of_own {queue : String} {headers : Headers} {record : Headers}
    {rest : List Header}
    (own : (items headers).filter (takenFor queue) = .table record :: rest) :
    RetryCounter.chosenRecord? (some queue) headers = some record := by
  rw [chosenRecord?_eq, own]
  rfl

theorem chosenRecord?_of_foreign {queue : String} {headers : Headers}
    (foreign : (items headers).filter (takenFor queue) = []) :
    RetryCounter.chosenRecord? (some queue) headers = RetryCounter.chosenRecord? none headers := by
  rw [chosenRecord?_eq, chosenRecord?_none, foreign]
  rfl

/-! ## Changes among the other items -/

/-- One change among the items that are not own: one is put in, taken away or replaced by
another such, or changes places with a neighbour, which may be own. -/
inductive Reworked (queue : String) : List Header → List Header → Prop where
  | insert (before after : List Header) {item : Header} (foreign : ¬ Names queue item) :
      Reworked queue (before ++ after) (before ++ item :: after)
  | remove (before after : List Header) {item : Header} (foreign : ¬ Names queue item) :
      Reworked queue (before ++ item :: after) (before ++ after)
  | replace (before after : List Header) {old new : Header} (foreign : ¬ Names queue old)
      (still : ¬ Names queue new) :
      Reworked queue (before ++ old :: after) (before ++ new :: after)
  | exchange (before after : List Header) {first second : Header}
      (foreign : ¬ Names queue first ∨ ¬ Names queue second) :
      Reworked queue (before ++ first :: second :: after) (before ++ second :: first :: after)

theorem Reworked.symm {queue : String} {these others : List Header}
    (reworked : Reworked queue these others) : Reworked queue others these := by
  cases reworked with
  | insert before after foreign => exact .remove before after foreign
  | remove before after foreign => exact .insert before after foreign
  | replace before after foreign still => exact .replace before after still foreign
  | exchange before after foreign => exact .exchange before after foreign.symm

instance (queue : String) : Std.Symm (Reworked queue) := ⟨fun _ _ => Reworked.symm⟩

theorem Reworked.behind {queue : String} (item : Header) {these others : List Header}
    (reworked : Reworked queue these others) : Reworked queue (item :: these) (item :: others) := by
  cases reworked with
  | insert before after foreign => exact .insert (item :: before) after foreign
  | remove before after foreign => exact .remove (item :: before) after foreign
  | replace before after foreign still => exact .replace (item :: before) after foreign still
  | exchange before after foreign => exact .exchange (item :: before) after foreign

section Reworking

variable {queue : String} (plain : Utf8.replacement ∉ queue.toList)

include plain

theorem not_taken {item : Header} (foreign : ¬ Names queue item) : takenFor queue item = false :=
  Bool.eq_false_iff.mpr fun taken => foreign ((takenFor_iff plain).mp taken)

/-- A change leaves the own items and their order alone. -/
theorem filter_of_reworked {these others : List Header} (reworked : Reworked queue these others) :
    others.filter (takenFor queue) = these.filter (takenFor queue) := by
  cases reworked with
  | insert before after foreign => simp [not_taken plain foreign]
  | remove before after foreign => simp [not_taken plain foreign]
  | replace before after foreign still => simp [not_taken plain foreign, not_taken plain still]
  | exchange before after foreign =>
      rcases foreign with foreign | foreign
      · simp [List.filter_cons, not_taken plain foreign]
      · simp [List.filter_cons, not_taken plain foreign]

/-- All other items can be taken away, one after the other. -/
theorem reworked_filter (these : List Header) :
    Relation.ReflTransGen (Reworked queue) these (these.filter (takenFor queue)) := by
  induction these with
  | nil => exact .refl
  | cons item rest ih =>
      have left : Relation.ReflTransGen (Reworked queue) (item :: rest)
          (item :: rest.filter (takenFor queue)) :=
        ih.lift (item :: ·) fun _ _ => Reworked.behind item
      cases taken : takenFor queue item with
      | true => rwa [List.filter_cons_of_pos taken]
      | false =>
          have foreign : ¬ Names queue item := fun names => by
            rw [(takenFor_iff plain).mpr names] at taken
            cases taken
          rw [List.filter_cons_of_neg (by simp [taken])]
          exact left.tail (.remove [] _ foreign)

/-- Changes among the other items lead from one array to another exactly if both have the same
own items in the same order. -/
theorem reworked_iff {these others : List Header} :
    Relation.ReflTransGen (Reworked queue) these others ↔
      others.filter (takenFor queue) = these.filter (takenFor queue) := by
  constructor
  · intro reworked
    induction reworked with
    | refl => rfl
    | tail _ last ih => rw [filter_of_reworked plain last, ih]
  · intro same
    have back : Relation.ReflTransGen (Reworked queue) (others.filter (takenFor queue)) others :=
      Relation.ReflTransGen.stdSymm.symm _ _ (reworked_filter plain others)
    rw [same] at back
    exact (reworked_filter plain these).trans back

end Reworking

/-! ## Reading the header -/

/-- How the counter of a queue reads a header. -/
structure OwnDecides (queue : String) (headers : Headers) : Prop where
  /-- A record is taken for one of the queue exactly if it names it. -/
  taken_iff : ∀ record,
    RetryCounter.recordQueue? record = some queue ↔ Names queue (.table record)
  /-- No octets outside UTF-8 read as the name. -/
  illFormed : ∀ octets, Utf8.decode? octets = none → Utf8.decodeLossy octets ≠ queue
  /-- If there are records of the queue, the first of them is counted. -/
  own : (∃ item ∈ items headers, Names queue item) → ∃ before record after,
    items headers = before ++ .table record :: after ∧ (∀ item ∈ before, ¬ Names queue item) ∧
      Names queue (.table record) ∧ ∀ redelivered,
        Counts record ((RetryCounter.deaths (some queue)).count headers redelivered)
  /-- It is counted the same after any changes among the other items. -/
  undisturbed : (∃ item ∈ items headers, Names queue item) → ∀ others : Headers,
    Relation.ReflTransGen (Reworked queue) (items headers) (items others) →
      ∀ redelivered again, (RetryCounter.deaths (some queue)).count others again =
        (RetryCounter.deaths (some queue)).count headers redelivered
  /-- Otherwise the counter is the one that asks for no queue. -/
  foreign : (∀ item ∈ items headers, ¬ Names queue item) → ∀ redelivered,
    (RetryCounter.deaths (some queue)).count headers redelivered =
      (RetryCounter.deaths none).count headers redelivered
  /-- That one counts the first record. -/
  newest : ∀ record, (items headers).findSome? entries? = some record → ∀ redelivered,
    Counts record ((RetryCounter.deaths none).count headers redelivered)
  unrecorded : (items headers).findSome? entries? = none → ∀ redelivered,
    (RetryCounter.deaths none).count headers redelivered = 0
  /-- It looks at nothing else. -/
  newest_only : ∀ others : Headers,
    (items others).findSome? entries? = (items headers).findSome? entries? →
      ∀ redelivered again, (RetryCounter.deaths none).count others again =
        (RetryCounter.deaths none).count headers redelivered

theorem count_of_chosen {queue : Option String} {headers record : Headers}
    (chosen : RetryCounter.chosenRecord? queue headers = some record) (redelivered : Bool) :
    Counts record ((RetryCounter.deaths queue).count headers redelivered) := by
  rw [RetryCounter.count, chosen, Option.bind_some]
  exact counts_read record

theorem count_congr {queue other : Option String} {headers others : Headers}
    (chosen : RetryCounter.chosenRecord? other others = RetryCounter.chosenRecord? queue headers)
    (redelivered again : Bool) :
    (RetryCounter.deaths other).count others again =
      (RetryCounter.deaths queue).count headers redelivered := by
  rw [RetryCounter.count, RetryCounter.count, chosen]

theorem own_of_names {queue : String} (plain : Utf8.replacement ∉ queue.toList)
    {these : List Header} (names : ∃ item ∈ these, Names queue item) :
    ∃ record rest, these.filter (takenFor queue) = .table record :: rest := by
  obtain ⟨item, member, names⟩ := names
  cases own : these.filter (takenFor queue) with
  | nil =>
      have passed := List.filter_eq_nil_iff.mp own item member
      exact absurd ((takenFor_iff plain).mpr names) passed
  | cons first rest =>
      have kept : first ∈ these.filter (takenFor queue) := own ▸ List.mem_cons_self
      have taken := (List.mem_filter.mp kept).2
      obtain ⟨record, rfl, -⟩ := exists_of_taken taken
      exact ⟨record, rest, rfl⟩

/-- **A counter never reads the record of another queue when its own exists**, in any header and
for any queue whose name is without U+FFFD. -/
theorem own_record_decides {queue : String} (plain : Utf8.replacement ∉ queue.toList)
    (headers : Headers) : OwnDecides queue headers where
  taken_iff _ := recordQueue?_eq_some_iff plain
  illFormed := by
    intro octets illFormed read
    rw [(Utf8.decodeLossy_eq_iff plain).mp read, Utf8.decode?_encode] at illFormed
    cases illFormed
  own := by
    intro names
    obtain ⟨record, rest, own⟩ := own_of_names plain names
    have found : (items headers).find? (takenFor queue) = some (.table record) := by
      rw [← List.head?_filter, own]
      rfl
    obtain ⟨taken, before, after, split, passed⟩ := List.find?_eq_some_iff_append.mp found
    refine ⟨before, record, after, split, fun item member is => ?_,
      (takenFor_iff plain).mp taken, count_of_chosen (chosenRecord?_of_own own)⟩
    have skipped := passed item member
    rw [(takenFor_iff plain).mpr is] at skipped
    cases skipped
  undisturbed := by
    intro names others reworked
    obtain ⟨record, rest, own⟩ := own_of_names plain names
    have same := ((reworked_iff plain).mp reworked).trans own
    exact count_congr ((chosenRecord?_of_own same).trans (chosenRecord?_of_own own).symm)
  foreign := by
    intro absent redelivered
    apply count_congr
    apply chosenRecord?_of_foreign
    rw [List.filter_eq_nil_iff]
    intro item member taken
    exact absent item member ((takenFor_iff plain).mp taken)
  newest := by
    intro record first
    exact count_of_chosen ((chosenRecord?_none headers).trans first)
  unrecorded := by
    intro empty redelivered
    rw [RetryCounter.count, chosenRecord?_none, empty]
    rfl
  newest_only := by
    intro others same
    apply count_congr
    rw [chosenRecord?_none, chosenRecord?_none, same]

/-! ## Poles -/

/-- A header whose first record has a name outside UTF-8 that begins like `tick`, behind it two
records of `tick` with different counts. -/
def lookalike : Headers :=
  [(RetryCounter.deathHeader, .array [
    .shortText "tick",
    .table [("count", .ofInt 9), ("queue", .longText (Utf8.encode "tick" ++ [0xFF]))],
    .table [("count", .integer .uint8 3), ("queue", .shortText "tick")],
    .table [("count", .ofInt 7), ("queue", .ofText "tick")]])]

/-- The first own record is counted, and not the one before it that only looks like it. -/
theorem own_record_decides_lookalike :
    Utf8.replacement ∉ "tick".toList ∧ OwnDecides "tick" lookalike ∧
      (RetryCounter.deaths (some "tick")).count lookalike true = 3 ∧
      (RetryCounter.deaths none).count lookalike true = 9 := by
  have plain : Utf8.replacement ∉ "tick".toList := by decide
  exact ⟨plain, own_record_decides plain lookalike, by decide +kernel, by decide +kernel⟩

end DeathRecord

end Redelivery
