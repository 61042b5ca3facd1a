import Redelivery.MessageClass
import Redelivery.Proofs.Text.Utf8
import Redelivery.RetryCounter
/-!
# What a broker records of dead-lettered messages

A broker keeps one record in the header `x-death` for each queue and reason for which it
dead-lettered a message. Dead-lettering it again raises the count of that record and moves
the record to the front, or puts a new one with the count 1 there (`DeathRecord.register`).
On the retry cycle a message dies twice: in its direct queue when it is rejected, and in
its dead-letter queue when its time is up (`DeathRecord.goRound`).

* `goRound_inCycle`: after a cycle the two records of the class stand at the front, and
  the one of the direct queue counts the rejections, whatever the header held before.
* `count_of_inCycle`: the counter of the direct queue reads exactly that number; records
  of other queues are not read once the direct queue has one of its own.
* `goRound_cycled`, `count_of_cycled`: the records of a message that had none before are those
  two only, and whichever queue is asked for, the number of cycles is read.
-/

namespace Redelivery

set_option autoImplicit false

namespace DeathRecord

/-! ## The broker's rule -/

def isOf (queue reason : String) : Header → Bool
  | .table entries =>
      (SortedTable.find? "queue" entries).bind Header.text? = some queue ∧
        (SortedTable.find? "reason" entries).bind Header.text? = some reason
  | _ => false

/-- The number of deaths that an item records. -/
def tally : Header → Int
  | .table entries => (RetryCounter.recordCount? entries).getD 0
  | _ => 0

def first (queue reason : String) : Header :=
  .table (SortedTable.ofPairs
    [("count", .ofInt 1), ("queue", .ofText queue), ("reason", .ofText reason)])

def increment : Header → Header
  | .table entries =>
      .table (SortedTable.insert "count" (.ofInt (tally (.table entries) + 1)) entries)
  | item => item

/-- Registers a death among the items of the header. -/
def register (queue reason : String) (items : List Header) : List Header :=
  ((items.find? (isOf queue reason)).elim (first queue reason) increment) ::
    items.eraseP (isOf queue reason)

def items (headers : Headers) : List Header :=
  match SortedTable.find? RetryCounter.deathHeader headers with
  | some (.array items) => items
  | _ => []

/-- The number of deaths in a queue for a reason that the headers record. -/
def deaths (queue reason : String) (headers : Headers) : Int :=
  ((items headers).find? (isOf queue reason)).elim 0 tally

/-- The headers after a message was dead-lettered. -/
def deadLetter (queue reason : String) (headers : Headers) : Headers :=
  SortedTable.insert RetryCounter.deathHeader (.array (register queue reason (items headers)))
    headers

def rejected : String := "rejected"

def expired : String := "expired"

/-- The headers after a message was rejected and came back on the retry cycle. -/
def goRound (cls : MessageClass) (headers : Headers) : Headers :=
  deadLetter cls.deadLetter.queue expired (deadLetter cls.direct.queue rejected headers)

@[simp] theorem items_deadLetter (queue reason : String) (headers : Headers) :
    items (deadLetter queue reason headers) = register queue reason (items headers) := by
  simp [items, deadLetter, SortedTable.find?_insert_self]

def entries? : Header → Option Headers
  | .table entries => some entries
  | _ => none

theorem deathRecords_eq (headers : Headers) :
    RetryCounter.deathRecords headers = (items headers).filterMap entries? := by
  rw [RetryCounter.deathRecords, items]
  cases SortedTable.find? RetryCounter.deathHeader headers with
  | none => rfl
  | some header => cases header <;> rfl

theorem items_of_absent {headers : Headers}
    (absent : SortedTable.find? RetryCounter.deathHeader headers = none) : items headers = [] := by
  simp [items, absent]

/-! ## One record -/

/-- An item is the record of a number of deaths in a queue for a reason. -/
def Records (queue reason : String) (count : Int) (item : Header) : Prop :=
  isOf queue reason item = true ∧
    ∃ entries, item = .table entries ∧ RetryCounter.recordCount? entries = some count

theorem isOf_table_iff {queue reason : String} {entries : Headers} :
    isOf queue reason (.table entries) = true ↔
      (SortedTable.find? "queue" entries).bind Header.text? = some queue ∧
        (SortedTable.find? "reason" entries).bind Header.text? = some reason := by
  simp [isOf]

theorem first_eq (queue reason : String) :
    first queue reason = .table (SortedTable.insert "reason" (.ofText reason)
      (SortedTable.insert "queue" (.ofText queue)
        (SortedTable.insert "count" (.ofInt 1) []))) := by
  simp only [first, SortedTable.ofPairs, List.foldl_cons, List.foldl_nil]

theorem first_records (queue reason : String) : Records queue reason 1 (first queue reason) := by
  rw [first_eq]
  refine ⟨isOf_table_iff.mpr ⟨?_, ?_⟩, _, rfl, ?_⟩
  · rw [SortedTable.find?_insert_of_ne (by decide), SortedTable.find?_insert_self]
    exact Header.text?_ofText queue
  · rw [SortedTable.find?_insert_self]
    exact Header.text?_ofText reason
  · rw [RetryCounter.recordCount?, SortedTable.find?_insert_of_ne (by decide),
      SortedTable.find?_insert_of_ne (by decide), SortedTable.find?_insert_self]
    rfl

theorem tally_of_records {queue reason : String} {count : Int} {item : Header}
    (records : Records queue reason count item) : tally item = count := by
  obtain ⟨-, entries, rfl, counted⟩ := records
  simp [tally, counted]

theorem increment_records {queue reason : String} {item : Header}
    (own : isOf queue reason item = true) :
    Records queue reason (tally item + 1) (increment item) := by
  cases item with
  | table entries =>
      obtain ⟨queueText, reasonText⟩ := isOf_table_iff.mp own
      refine ⟨isOf_table_iff.mpr ⟨?_, ?_⟩, _, rfl, ?_⟩
      · rw [SortedTable.find?_insert_of_ne (by decide)]; exact queueText
      · rw [SortedTable.find?_insert_of_ne (by decide)]; exact reasonText
      · rw [RetryCounter.recordCount?, SortedTable.find?_insert_self]; rfl
  | _ => simp [isOf] at own

theorem isOf_eq_false_of_records {queue reason other : String} {cause : String} {count : Int}
    {item : Header} (records : Records queue reason count item) (different : queue ≠ other) :
    isOf other cause item = false := by
  obtain ⟨own, entries, rfl, -⟩ := records
  rw [Bool.eq_false_iff]
  intro also
  have same := (isOf_table_iff.mp own).1.symm.trans (isOf_table_iff.mp also).1
  exact different (Option.some.inj same)

/-! ## Registering -/

/-- The record of the latest death stands at the front, one higher than before. -/
theorem register_head (queue reason : String) (items : List Header) :
    ∃ record, register queue reason items = record :: items.eraseP (isOf queue reason) ∧
      Records queue reason ((items.find? (isOf queue reason)).elim 0 tally + 1) record := by
  refine ⟨_, rfl, ?_⟩
  cases found : items.find? (isOf queue reason) with
  | none => exact first_records queue reason
  | some item => exact increment_records (List.find?_some found)

/-! ## The retry cycle -/

/-- The state of the header on the retry cycle: the record of the dead-letter queue at the
front, behind it that of the direct queue, with the number of rejections. -/
def InCycle (cls : MessageClass) (rejections : Int) (headers : Headers) : Prop :=
  ∃ waited turned rest time, items headers = waited :: turned :: rest ∧
    Records cls.deadLetter.queue expired time waited ∧
    Records cls.direct.queue rejected rejections turned

/-- Every cycle adds one to the rejections that were recorded before. -/
theorem goRound_inCycle (cls : MessageClass) (headers : Headers)
    (apart : cls.direct.queue ≠ cls.deadLetter.queue) :
    InCycle cls (deaths cls.direct.queue rejected headers + 1) (goRound cls headers) := by
  obtain ⟨turned, first, turnedHolds⟩ := register_head cls.direct.queue rejected (items headers)
  obtain ⟨waited, second, waitedHolds⟩ := register_head cls.deadLetter.queue expired
    (turned :: (items headers).eraseP (isOf cls.direct.queue rejected))
  have passed : isOf cls.deadLetter.queue expired turned = false :=
    isOf_eq_false_of_records turnedHolds apart
  have left : items (goRound cls headers) = waited :: turned ::
      ((items headers).eraseP (isOf cls.direct.queue rejected)).eraseP
        (isOf cls.deadLetter.queue expired) := by
    rw [goRound, items_deadLetter, items_deadLetter, first, second,
      List.eraseP_cons_of_neg (by simp [passed])]
  exact ⟨waited, turned, _, _, left, waitedHolds, turnedHolds⟩

theorem deaths_of_inCycle {cls : MessageClass} {rejections : Int} {headers : Headers}
    (apart : cls.direct.queue ≠ cls.deadLetter.queue) (cycle : InCycle cls rejections headers) :
    deaths cls.direct.queue rejected headers = rejections := by
  obtain ⟨waited, turned, rest, time, found, waitedHolds, turnedHolds⟩ := cycle
  have passed : isOf cls.direct.queue rejected waited = false :=
    isOf_eq_false_of_records waitedHolds apart.symm
  rw [deaths, found, List.find?_cons, passed, List.find?_cons, turnedHolds.1]
  exact tally_of_records turnedHolds

theorem name_of_records {queue reason : String} {count : Int} {entries : Headers}
    (records : Records queue reason count (.table entries)) :
    RetryCounter.recordQueue? entries = some queue := by
  have text := (isOf_table_iff.mp records.1).1
  obtain ⟨header, found, read⟩ := Option.bind_eq_some_iff.mp text
  exact Option.bind_eq_some_iff.mpr ⟨header, found, Header.name?_of_text? read⟩

/-- On the cycle the counter of the direct queue reads the number of rejections. -/
theorem count_of_inCycle {cls : MessageClass} {rejections : Int} {headers : Headers}
    (apart : cls.direct.queue ≠ cls.deadLetter.queue) (cycle : InCycle cls rejections headers)
    (redelivered : Bool) :
    (RetryCounter.deaths (some cls.direct.queue)).count headers redelivered = rejections := by
  obtain ⟨waited, turned, rest, time, found, waitedHolds, turnedHolds⟩ := cycle
  obtain ⟨-, waitedEntries, rfl, -⟩ := id waitedHolds
  obtain ⟨-, turnedEntries, rfl, counted⟩ := id turnedHolds
  have records : RetryCounter.deathRecords headers =
      waitedEntries :: turnedEntries :: rest.filterMap entries? := by
    rw [deathRecords_eq, found]
    rfl
  have chosen :
      RetryCounter.chosenRecord? (some cls.direct.queue) headers = some turnedEntries := by
    simp [RetryCounter.chosenRecord?, records, List.find?_cons, name_of_records waitedHolds,
      name_of_records turnedHolds, apart.symm]
  simp [RetryCounter.count, chosen, counted]

/-! ## A message that had no record -/

/-- A record is about one reason. -/
theorem isOf_eq_false_of_reason {queue reason cause : String} {count : Int} {item : Header}
    (records : Records queue reason count item) (different : reason ≠ cause) (other : String) :
    isOf other cause item = false := by
  obtain ⟨own, entries, rfl, -⟩ := records
  rw [Bool.eq_false_iff]
  intro also
  have same := (isOf_table_iff.mp own).2.symm.trans (isOf_table_iff.mp also).2
  exact different (Option.some.inj same)

/-- The header after a number of cycles of a message that had no record: both records of the
class and no other, each with that number. The queues of the class may share a name. -/
def Cycled (cls : MessageClass) : Nat → Headers → Prop
  | 0, headers => items headers = []
  | cycles + 1, headers =>
      ∃ waited turned, items headers = [waited, turned] ∧
        Records cls.deadLetter.queue expired (cycles + 1) waited ∧
        Records cls.direct.queue rejected (cycles + 1) turned

/-- Every cycle adds one to both records. -/
theorem goRound_cycled {cls : MessageClass} {cycles : Nat} {headers : Headers}
    (cycled : Cycled cls cycles headers) : Cycled cls (cycles + 1) (goRound cls headers) := by
  have apart : rejected ≠ expired := by decide
  rw [Cycled, goRound, items_deadLetter, items_deadLetter]
  cases cycles with
  | zero =>
      rw [Cycled] at cycled
      have passed := isOf_eq_false_of_reason (first_records cls.direct.queue rejected) apart
        cls.deadLetter.queue
      refine ⟨_, _, ?_, first_records _ _, first_records _ _⟩
      simp [cycled, register, passed]
  | succ cycles =>
      obtain ⟨waited, turned, found, waitedHolds, turnedHolds⟩ := cycled
      have passed := isOf_eq_false_of_reason waitedHolds apart.symm cls.direct.queue
      have turnedNext := increment_records turnedHolds.1
      have waitedNext := increment_records waitedHolds.1
      have skipped := isOf_eq_false_of_reason turnedNext apart cls.deadLetter.queue
      rw [tally_of_records turnedHolds] at turnedNext
      rw [tally_of_records waitedHolds] at waitedNext
      refine ⟨_, _, ?_, waitedNext, turnedNext⟩
      simp [found, register, passed, skipped, turnedHolds.1, waitedHolds.1]

/-- Whichever queue is asked for, the counter reads the number of cycles: both records of
the class hold it, and there is no other. -/
theorem count_of_cycled {cls : MessageClass} {cycles : Nat} {headers : Headers}
    (cycled : Cycled cls cycles headers) (queue : Option String) (redelivered : Bool) :
    (RetryCounter.deaths queue).count headers redelivered = cycles := by
  cases cycles with
  | zero =>
      rw [Cycled] at cycled
      cases queue <;>
        simp [RetryCounter.count, RetryCounter.chosenRecord?, deathRecords_eq, cycled]
  | succ cycles =>
      obtain ⟨waited, turned, found, ⟨-, waitedEntries, rfl, waitedCount⟩,
        ⟨-, turnedEntries, rfl, turnedCount⟩⟩ := cycled
      have records : RetryCounter.deathRecords headers = [waitedEntries, turnedEntries] := by
        simp [deathRecords_eq, found, entries?]
      have chosen : RetryCounter.chosenRecord? queue headers = some waitedEntries ∨
          RetryCounter.chosenRecord? queue headers = some turnedEntries := by
        rw [RetryCounter.chosenRecord?, records]
        cases queue with
        | none => exact .inl rfl
        | some name =>
            by_cases waits : RetryCounter.recordQueue? waitedEntries = some name
            · exact .inl (by simp [waits])
            · by_cases turns : RetryCounter.recordQueue? turnedEntries = some name
              · exact .inr (by simp [waits, turns])
              · exact .inl (by simp [waits, turns])
      rcases chosen with chosen | chosen
      · simp [RetryCounter.count, chosen, waitedCount]
      · simp [RetryCounter.count, chosen, turnedCount]

theorem count_of_absent {queue : Option String} {headers : Headers}
    (absent : SortedTable.find? RetryCounter.deathHeader headers = none) (redelivered : Bool) :
    (RetryCounter.deaths queue).count headers redelivered = 0 := by
  cases queue <;>
    simp [RetryCounter.count, RetryCounter.chosenRecord?, RetryCounter.deathRecords, absent]

end DeathRecord

end Redelivery
