import Redelivery.Header
/-!
# Counting retries

How often a message was tried before is read off the message itself. The death
record that the broker keeps in the header `x-death` is the usual source; a header
of the application's own, or the broker's redelivery mark, are the others.
-/

namespace Redelivery

set_option autoImplicit false

/-- Where the number of earlier tries is read. -/
inductive RetryCounter where
  /-- The death record of a queue; without a queue, or without a record of it, the first
  record. -/
  | deaths (queue : Option String)
  | header (name : String)
  /-- One once the broker marks the message as redelivered. -/
  | redelivery
  deriving DecidableEq

namespace RetryCounter

/-- The header in which the broker keeps its death records. -/
def deathHeader : String := "x-death"

/-- The death records of a message, in the broker's order. -/
def deathRecords (headers : Headers) : List Headers :=
  match SortedTable.find? deathHeader headers with
  | some (.array items) => items.filterMap fun
      | .table entries => some entries
      | _ => none
  | _ => []

/-- The queue that a death record is about. -/
def recordQueue? (record : Headers) : Option String :=
  (SortedTable.find? "queue" record).bind Header.name?

/-- The number of deaths in a record. -/
def recordCount? (record : Headers) : Option Int :=
  (SortedTable.find? "count" record).bind Header.count?

/-- The death record to be counted. -/
def chosenRecord? (queue : Option String) (headers : Headers) : Option Headers :=
  let records := deathRecords headers
  let own := queue.bind fun name => records.find? fun record => recordQueue? record = some name
  own.or records.head?

/-- The number of earlier tries of a message. -/
def count (counter : RetryCounter) (headers : Headers) (redelivered : Bool) : Int :=
  match counter with
  | deaths queue => ((chosenRecord? queue headers).bind recordCount?).getD 0
  | header name => ((SortedTable.find? name headers).bind Header.count?).getD 0
  | redelivery => if redelivered then 1 else 0

end RetryCounter

end Redelivery
