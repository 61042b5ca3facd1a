import Mathlib.Data.List.Find
import Redelivery.Proofs.Deaths.OwnRecord
/-!
# Deaths in many queues

A message can die in the queues of several classes, in any order, and a broker names a queue by
octets that need not be text. `Death.deadLetter` is the rule of `DeathRecord.deadLetter` for such
names (`deadLetter_ofTexts`): the record of the latest death moves to the front, and the others
keep their order.

The record of a death is found by its queue and reason wherever it stands, so its number does not
depend on the deaths between (`tallyOf_register`). A counter looks for the queue alone. It finds
that record if the message never died there for another reason (`FoundBy`).

* `tallyOf_deadLetterAll`: a record holds the number of its deaths, over any sequence of deaths.
* `own_deaths_counted`: what the counter of a queue reads after any sequence of deaths.
-/

namespace Redelivery

set_option autoImplicit false

def Header.octets? : Header → Option Octets
  | shortText value => some (Utf8.encode value)
  | longText octets => some octets
  | _ => none

/-- A death of a message, by the octets of the queue in which it died and of the reason. -/
structure Death where
  queue : Octets
  reason : Octets
  deriving DecidableEq

namespace Death

open DeathRecord (items entries? tally increment takenFor Names)

/-! ## The broker's rule, for any names -/

/-- A death in a queue that has a text for a name. -/
def ofTexts (queue reason : String) : Death := ⟨Utf8.encode queue, Utf8.encode reason⟩

/-- Whether an item of the header records such a death. -/
def isRecordedBy (death : Death) : Header → Bool
  | .table record =>
      (SortedTable.find? "queue" record).bind Header.octets? = some death.queue ∧
        (SortedTable.find? "reason" record).bind Header.octets? = some death.reason
  | _ => false

def first (death : Death) : Header :=
  .table (SortedTable.ofPairs [("count", .ofInt 1), ("queue", .longText death.queue),
    ("reason", .longText death.reason)])

/-- Registers a death among the items of the header. -/
def register (death : Death) (items : List Header) : List Header :=
  (items.find? death.isRecordedBy).elim death.first increment :: items.eraseP death.isRecordedBy

def deadLetter (headers : Headers) (death : Death) : Headers :=
  SortedTable.insert RetryCounter.deathHeader (.array (death.register (items headers))) headers

def deadLetterAll (deaths : List Death) (headers : Headers) : Headers :=
  deaths.foldl deadLetter headers

@[simp] theorem items_deadLetter (headers : Headers) (death : Death) :
    items (deadLetter headers death) = death.register (items headers) := by
  simp [items, deadLetter, SortedTable.find?_insert_self]

theorem encode_inj {text other : String} (same : Utf8.encode text = Utf8.encode other) :
    text = other := by
  have read := Utf8.decode?_encode text
  rw [same, Utf8.decode?_encode] at read
  exact (Option.some.inj read).symm

theorem octets?_eq_encode_iff {header : Header} {text : String} :
    header.octets? = some (Utf8.encode text) ↔ header.text? = some text := by
  rw [Header.text?_eq_some_iff]
  cases header with
  | shortText value =>
      simp only [Header.octets?, Option.some.injEq, Header.shortText.injEq, reduceCtorEq, or_false]
      exact ⟨encode_inj, congrArg Utf8.encode⟩
  | longText octets => simp [Header.octets?]
  | _ => simp [Header.octets?]

theorem isRecordedBy_ofTexts (queue reason : String) :
    (ofTexts queue reason).isRecordedBy = DeathRecord.isOf queue reason := by
  have reads : ∀ (field : Option Header) (text : String),
      field.bind Header.octets? = some (Utf8.encode text) ↔
        field.bind Header.text? = some text := by
    intro field text
    cases field with
    | none => simp
    | some header => exact octets?_eq_encode_iff
  funext item
  cases item with
  | table record => simp only [isRecordedBy, DeathRecord.isOf, ofTexts, reads]
  | _ => rfl

/-- For names that are texts the rule is the one for texts. -/
theorem deadLetter_ofTexts (queue reason : String) (headers : Headers) :
    deadLetter headers (ofTexts queue reason) = DeathRecord.deadLetter queue reason headers := by
  rw [deadLetter, DeathRecord.deadLetter, register, DeathRecord.register, isRecordedBy_ofTexts]
  rfl

/-! ## The number of a record -/

/-- The number of deaths that the items record. -/
def tallyOf (death : Death) (items : List Header) : Int :=
  (items.find? death.isRecordedBy).elim 0 tally

theorem isRecordedBy_table_iff {death : Death} {record : Headers} :
    death.isRecordedBy (.table record) = true ↔
      (SortedTable.find? "queue" record).bind Header.octets? = some death.queue ∧
        (SortedTable.find? "reason" record).bind Header.octets? = some death.reason := by
  simp [isRecordedBy]

theorem eq_of_isRecordedBy {death other : Death} {item : Header}
    (recorded : death.isRecordedBy item = true) (also : other.isRecordedBy item = true) :
    death = other := by
  cases item with
  | table record =>
      obtain ⟨queue, reason⟩ := isRecordedBy_table_iff.mp recorded
      obtain ⟨otherQueue, otherReason⟩ := isRecordedBy_table_iff.mp also
      cases death
      cases other
      rw [queue] at otherQueue
      rw [reason] at otherReason
      cases otherQueue
      cases otherReason
      rfl
  | _ => cases recorded

theorem first_eq (death : Death) :
    death.first = .table (SortedTable.insert "reason" (.longText death.reason)
      (SortedTable.insert "queue" (.longText death.queue)
        (SortedTable.insert "count" (.ofInt 1) []))) := by
  simp only [first, SortedTable.ofPairs, List.foldl_cons, List.foldl_nil]

/-- The record of the latest death stands at the front, and holds one more than before. -/
theorem register_eq (death : Death) (items : List Header) :
    ∃ record, death.register items = .table record :: items.eraseP death.isRecordedBy ∧
      death.isRecordedBy (.table record) = true ∧
      SortedTable.find? "count" record = some (.ofInt (death.tallyOf items + 1)) := by
  cases found : items.find? death.isRecordedBy with
  | none =>
      refine ⟨_, by rw [register, found, Option.elim_none, first_eq], ?_, ?_⟩
      · apply isRecordedBy_table_iff.mpr
        constructor
        · rw [SortedTable.find?_insert_of_ne (by decide), SortedTable.find?_insert_self]
          rfl
        · rw [SortedTable.find?_insert_self]
          rfl
      · rw [SortedTable.find?_insert_of_ne (by decide), SortedTable.find?_insert_of_ne (by decide),
          SortedTable.find?_insert_self, tallyOf, found]
        rfl
  | some item =>
      have recorded := List.find?_some found
      cases item with
      | table record =>
          obtain ⟨queue, reason⟩ := isRecordedBy_table_iff.mp recorded
          refine ⟨_, by rw [register, found, Option.elim_some, increment], ?_, ?_⟩
          · apply isRecordedBy_table_iff.mpr
            rw [SortedTable.find?_insert_of_ne (by decide),
              SortedTable.find?_insert_of_ne (by decide)]
            exact ⟨queue, reason⟩
          · rw [SortedTable.find?_insert_self, tallyOf, found]
            rfl
      | _ => cases recorded

theorem tally_of_found {record : Headers} {number : Int}
    (found : SortedTable.find? "count" record = some (.ofInt number)) :
    tally (.table record) = number := by
  simp [tally, RetryCounter.recordCount?, found, Header.ofInt, Header.count?]

/-- To move the record of a death leaves it to others which of theirs is found. -/
theorem find?_eraseP_other {death other : Death} (different : other ≠ death)
    (items : List Header) :
    (items.eraseP other.isRecordedBy).find? death.isRecordedBy =
      items.find? death.isRecordedBy := by
  rcases List.exists_or_eq_self_of_eraseP other.isRecordedBy items with
    same | ⟨item, before, after, -, recorded, split, left⟩
  · rw [same]
  · have passed : ¬ death.isRecordedBy item = true := fun also =>
      different (eq_of_isRecordedBy recorded also)
    rw [left, split, List.find?_append, List.find?_append, List.find?_cons_of_neg passed]

/-- A death adds one to its own number and leaves the others alone. -/
theorem tallyOf_register (death other : Death) (items : List Header) :
    death.tallyOf (other.register items) =
      death.tallyOf items + if other = death then 1 else 0 := by
  -- The record in front is that of the latest death, and it is the only one that was touched.
  obtain ⟨record, registered, recorded, held⟩ := register_eq other items
  by_cases same : other = death
  · subst same
    rw [tallyOf, registered, List.find?_cons_of_pos recorded, if_pos rfl]
    exact tally_of_found held
  · have passed : ¬ death.isRecordedBy (.table record) = true := fun also =>
      same (eq_of_isRecordedBy recorded also)
    rw [tallyOf, registered, List.find?_cons_of_neg passed, find?_eraseP_other same, if_neg same,
      Int.add_zero, tallyOf]

/-- A record holds the number of its deaths, whatever other deaths come before, between and
after them. -/
theorem tallyOf_deadLetterAll (death : Death) (deaths : List Death) (headers : Headers) :
    death.tallyOf (items (deadLetterAll deaths headers)) =
      death.tallyOf (items headers) + deaths.count death := by
  induction deaths generalizing headers with
  | nil => simp [deadLetterAll]
  | cons latest rest ih =>
      have after := ih (deadLetter headers latest)
      rw [items_deadLetter, tallyOf_register] at after
      show death.tallyOf (items (deadLetterAll rest (deadLetter headers latest))) = _
      rw [after, List.count_cons]
      by_cases same : latest = death
      · simp only [same, beq_self_eq_true, if_true]
        omega
      · simp [same]

/-! ## What a counter finds -/

theorem names_iff {queue : String} {record : Headers} :
    Names queue (.table record) ↔
      (SortedTable.find? "queue" record).bind Header.octets? = some (Utf8.encode queue) := by
  rw [Option.bind_eq_some_iff]
  constructor
  · intro names
    cases names with
    | short found => exact ⟨_, found, rfl⟩
    | long found => exact ⟨_, found, rfl⟩
  · rintro ⟨header, found, read⟩
    obtain rfl | rfl := Header.text?_eq_some_iff.mp (octets?_eq_encode_iff.mp read)
    · exact .short found
    · exact .long found

theorem takenFor_iff_of_recorded {queue : String} (plain : Utf8.replacement ∉ queue.toList)
    {death : Death} {item : Header} (recorded : death.isRecordedBy item = true) :
    takenFor queue item = true ↔ death.queue = Utf8.encode queue := by
  rw [DeathRecord.takenFor_iff plain]
  cases item with
  | table record =>
      rw [names_iff, (isRecordedBy_table_iff.mp recorded).1, Option.some.injEq]
  | _ => cases recorded

/-- Every record that is taken for one of a queue is that of a certain death. -/
def FoundBy (queue : String) (death : Death) (items : List Header) : Prop :=
  ∀ item ∈ items, takenFor queue item = true → death.isRecordedBy item = true

theorem foundBy_register {queue : String} (plain : Utf8.replacement ∉ queue.toList)
    {death latest : Death} (oneReason : latest.queue = Utf8.encode queue → latest = death)
    {items : List Header} (foundBy : FoundBy queue death items) :
    FoundBy queue death (latest.register items) := by
  obtain ⟨record, registered, recorded, -⟩ := register_eq latest items
  rw [registered]
  intro item member taken
  rcases List.mem_cons.mp member with rfl | member
  · have own := (takenFor_iff_of_recorded plain recorded).mp taken
    rw [← oneReason own]
    exact recorded
  · exact foundBy item (List.mem_of_mem_eraseP member) taken

theorem foundBy_deadLetterAll {queue : String} (plain : Utf8.replacement ∉ queue.toList)
    {death : Death} {deaths : List Death}
    (oneReason : ∀ each ∈ deaths, each.queue = Utf8.encode queue → each = death)
    {headers : Headers} (foundBy : FoundBy queue death (items headers)) :
    FoundBy queue death (items (deadLetterAll deaths headers)) := by
  induction deaths generalizing headers with
  | nil => exact foundBy
  | cons latest rest ih =>
      apply ih (fun each member => oneReason each (List.mem_cons_of_mem _ member))
      rw [items_deadLetter]
      exact foundBy_register plain (oneReason latest List.mem_cons_self) foundBy

/-- The counter of a queue reads the number of the death by which the queue is found. -/
theorem count_of_foundBy {queue : String} (plain : Utf8.replacement ∉ queue.toList)
    {death : Death} (own : death.queue = Utf8.encode queue) {headers : Headers}
    (foundBy : FoundBy queue death (items headers)) {item : Header}
    (found : (items headers).find? death.isRecordedBy = some item) (redelivered : Bool) :
    (RetryCounter.deaths (some queue)).count headers redelivered = tally item := by
  have same : (items headers).find? (takenFor queue) = some item := by
    rw [← found]
    apply List.find?_congr
    intro each member
    rw [Bool.eq_iff_iff]
    exact ⟨foundBy each member, fun recorded =>
      (takenFor_iff_of_recorded plain recorded).mpr own⟩
  obtain ⟨record, rfl, -⟩ := DeathRecord.exists_of_taken (List.find?_some same)
  have chosen : RetryCounter.chosenRecord? (some queue) headers = some record := by
    rw [DeathRecord.chosenRecord?_eq, List.head?_filter, same]
    rfl
  rw [RetryCounter.count, chosen]
  rfl

/-! ## The width of a number -/

/-- Every item is a record whose number is a signed 64-bit field, of at least one and at most a
number of deaths. -/
def Numbered (most : Nat) (items : List Header) : Prop :=
  ∀ item ∈ items, ∃ record number, item = .table record ∧
    SortedTable.find? "count" record = some (.integer .int64 number) ∧ 1 ≤ number ∧ number ≤ most

theorem tallyOf_le {most : Nat} {items : List Header} (numbered : Numbered most items)
    (death : Death) : 0 ≤ death.tallyOf items ∧ death.tallyOf items ≤ most := by
  cases found : items.find? death.isRecordedBy with
  | none =>
      rw [tallyOf, found, Option.elim_none]
      omega
  | some item =>
      obtain ⟨record, number, rfl, held, low, high⟩ :=
        numbered item (List.mem_of_find?_eq_some found)
      rw [tallyOf, found, Option.elim_some, tally_of_found held]
      omega

theorem numbered_register {most : Nat} {items : List Header} (numbered : Numbered most items)
    (death : Death) : Numbered (most + 1) (death.register items) := by
  obtain ⟨record, registered, -, held⟩ := register_eq death items
  obtain ⟨low, high⟩ := tallyOf_le numbered death
  rw [registered]
  intro item member
  rcases List.mem_cons.mp member with rfl | member
  · exact ⟨record, _, rfl, held, by omega, by omega⟩
  · obtain ⟨record, number, same, held, above, below⟩ :=
      numbered item (List.mem_of_mem_eraseP member)
    exact ⟨record, number, same, held, above, by omega⟩

theorem numbered_deadLetterAll {most : Nat} {headers : Headers}
    (numbered : Numbered most (items headers)) (deaths : List Death) :
    Numbered (most + deaths.length) (items (deadLetterAll deaths headers)) := by
  induction deaths generalizing most headers with
  | nil => exact numbered
  | cons latest rest ih =>
      have after : Numbered (most + 1) (items (deadLetter headers latest)) := by
        rw [items_deadLetter]
        exact numbered_register numbered latest
      have counted := ih after
      rwa [Nat.add_assoc, Nat.add_comm 1] at counted

theorem holds_int64 {number : Int} (low : 0 ≤ number) (high : number < 2 ^ 63) :
    IntegerWidth.int64.holds number = true := by
  have bounds : IntegerWidth.int64.low = -2 ^ 63 ∧ IntegerWidth.int64.high = 2 ^ 63 - 1 :=
    ⟨rfl, rfl⟩
  simp only [IntegerWidth.holds, bounds, Bool.and_eq_true, decide_eq_true_eq]
  omega

/-! ## Counting -/

/-- The counter of a queue reads the number of the one kind of death that happened there. -/
theorem count_deadLetterAll {queue : String} (plain : Utf8.replacement ∉ queue.toList)
    {death : Death} (own : death.queue = Utf8.encode queue) {deaths : List Death}
    (occurs : death ∈ deaths)
    (oneReason : ∀ each ∈ deaths, each.queue = Utf8.encode queue → each = death)
    {headers : Headers} (empty : items headers = []) (redelivered : Bool) :
    (RetryCounter.deaths (some queue)).count (deadLetterAll deaths headers) redelivered =
      deaths.count death := by
  have foundBy : FoundBy queue death (items (deadLetterAll deaths headers)) := by
    apply foundBy_deadLetterAll plain oneReason
    rw [empty]
    intro item member
    cases member
  have told : death.tallyOf (items (deadLetterAll deaths headers)) = deaths.count death := by
    rw [tallyOf_deadLetterAll, empty]
    exact Int.zero_add _
  -- Without a record the tally would be zero, and the death occurs.
  have occurred := List.count_pos_iff.mpr occurs
  cases found : (items (deadLetterAll deaths headers)).find? death.isRecordedBy with
  | none =>
      rw [tallyOf, found, Option.elim_none] at told
      omega
  | some item =>
      rw [tallyOf, found, Option.elim_some] at told
      rw [count_of_foundBy plain own foundBy found, told]

/-- **The counter of a queue reads how often the message died there**, after any sequence of
deaths in any queues, if it died there at all and always for one reason. The numbers fit the
broker's 64-bit fields as long as there were fewer than `2 ^ 63` deaths. -/
theorem own_deaths_counted {queue : String} (plain : Utf8.replacement ∉ queue.toList)
    {deaths : List Death}
    (oneReason : ∃! reason, (⟨Utf8.encode queue, reason⟩ : Death) ∈ deaths)
    {headers : Headers}
    (new : SortedTable.find? RetryCounter.deathHeader headers = none) :
    (∀ redelivered, (RetryCounter.deaths (some queue)).count (deadLetterAll deaths headers)
        redelivered = deaths.countP fun death => death.queue = Utf8.encode queue) ∧
      (deaths.length < 2 ^ 63 → ∀ item ∈ items (deadLetterAll deaths headers), ∃ record number,
        item = .table record ∧
          SortedTable.find? "count" record = some (.integer .int64 number) ∧
          IntegerWidth.int64.holds number = true) := by
  obtain ⟨reason, occurs, only⟩ := oneReason
  have empty := DeathRecord.items_of_absent new
  constructor
  · intro redelivered
    have same : ∀ each ∈ deaths,
        each.queue = Utf8.encode queue → each = ⟨Utf8.encode queue, reason⟩ := by
      intro each member own
      obtain ⟨_, cause⟩ := each
      subst own
      rw [only cause member]
    have counted : deaths.countP (fun death => death.queue = Utf8.encode queue) =
        deaths.count ⟨Utf8.encode queue, reason⟩ := by
      apply List.countP_congr
      intro each member
      rw [decide_eq_true_iff, beq_iff_eq]
      exact ⟨same each member, fun is => by rw [is]⟩
    rw [counted]
    exact count_deadLetterAll plain rfl occurs same empty redelivered
  · intro few item member
    have numbered : Numbered 0 (items headers) := by
      rw [empty]
      intro each absurd
      cases absurd
    obtain ⟨record, number, same, held, low, high⟩ :=
      numbered_deadLetterAll numbered deaths item member
    exact ⟨record, number, same, held, holds_int64 (by omega) (by omega)⟩

/-! ## Poles -/

/-- Deaths on the retry cycles of two classes, and one in a queue whose name is that of the first
with an octet behind it that is not UTF-8. -/
def mixedDeaths : List Death :=
  [ofTexts "tick" "rejected", ofTexts "tick-dlq" "expired",
    ⟨Utf8.encode "tick" ++ [0xFF], Utf8.encode "rejected"⟩, ofTexts "tock" "rejected",
    ofTexts "tick" "rejected", ofTexts "tock-dlq" "expired"]

def delayed : Headers := [("x-delay", .ofInt 5)]

/-- The two rejections are counted, though other records stand before and behind theirs. -/
theorem own_deaths_counted_mixed :
    Utf8.replacement ∉ "tick".toList ∧
      (∃! reason, (⟨Utf8.encode "tick", reason⟩ : Death) ∈ mixedDeaths) ∧
      SortedTable.find? RetryCounter.deathHeader delayed = none ∧
      (RetryCounter.deaths (some "tick")).count (deadLetterAll mixedDeaths delayed) true = 2 ∧
      (RetryCounter.deaths none).count (deadLetterAll mixedDeaths delayed) true = 1 := by
  have plain : Utf8.replacement ∉ "tick".toList := by decide
  have oneReason : ∃! reason, (⟨Utf8.encode "tick", reason⟩ : Death) ∈ mixedDeaths := by
    refine ⟨Utf8.encode "rejected", by decide, ?_⟩
    intro reason member
    simpa +decide [mixedDeaths, ofTexts] using member
  have new : SortedTable.find? RetryCounter.deathHeader delayed = none := by decide
  exact ⟨plain, oneReason, new, (own_deaths_counted plain oneReason new).1 true, by decide +kernel⟩

end Death

end Redelivery
