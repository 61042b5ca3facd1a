import Redelivery.Proofs.Delivery.RetryBound
import Redelivery.Proofs.Headers.Fields
/-!
# Which counters bound the retries

A message that nobody can handle is given up when its counter reads the limit of the class.
The dead-letter route changes the death record of a message and nothing else, and the broker
delivers what comes from there without the redelivery mark. So a counter of death records
grows with every delivery, whatever queue it is asked for, while a header of the application's
own and the redelivery mark read the same for ever.

* `Trace.Context.find?_inject`: a trace context puts texts into the headers, never numbers.
* `RetryCounter.count_goRounds`: what a counter reads that does not look at the death record.
* `Voyage.sailed_of_below`: a message whose counter stays below the limit is never given up.
* `given_up_iff_reached`: a published message is given up exactly if its counter reads the death
  record, or the limit is reached on the first delivery.
* `unmoved_counters_circle`: both other counters, under a limit of two.
-/

namespace Redelivery

set_option autoImplicit false

/-! ## The headers of a published message -/

/-- A context leaves a header as it was or writes a text there. -/
theorem Trace.Context.find?_inject (context : Trace.Context) (name : String) (headers : Headers) :
    SortedTable.find? name (context.inject headers) = SortedTable.find? name headers ∨
      ∃ text, SortedTable.find? name (context.inject headers) = some (Header.ofText text) := by
  rw [find?_inject_eq]
  cases context.written? name with
  | none => exact .inl rfl
  | some text => exact .inr ⟨text, rfl⟩

namespace Publication

variable {cls : MessageClass} {payload : Octets} {delay : Int} {context : Trace.Context}
  {publication : Publication}

theorem of_direct (published : direct cls payload delay context = .ok publication) :
    cls.enabled = true ∧ publication.payload = payload ∧
      publication.headers = context.inject [(delayHeader, Header.ofInt delay)] := by
  unfold direct at published
  split at published
  · rename_i enabled
    cases published
    exact ⟨enabled, rfl, rfl⟩
  · cases published

theorem deathHeader_of_direct (published : direct cls payload delay context = .ok publication) :
    SortedTable.find? RetryCounter.deathHeader publication.headers = none ∨
      ∃ text, SortedTable.find? RetryCounter.deathHeader publication.headers =
        some (Header.ofText text) := by
  obtain ⟨-, -, headers⟩ := of_direct published
  have unset : SortedTable.find? RetryCounter.deathHeader
      [(delayHeader, Header.ofInt delay)] = none := rfl
  rw [headers, ← unset]
  exact context.find?_inject _ _

theorem cycled_of_direct (published : direct cls payload delay context = .ok publication) :
    DeathRecord.Cycled cls 0 publication.headers := by
  rw [DeathRecord.Cycled, DeathRecord.items]
  rcases deathHeader_of_direct published with absent | ⟨text, written⟩
  · rw [absent]
  · rw [written]
    rfl

end Publication

/-! ## Counters that do not look at the death record -/

namespace RetryCounter

/-- No number stands under the name of the death record. -/
def Unnumbered (headers : Headers) : Prop :=
  (SortedTable.find? deathHeader headers).bind Header.count? = none

theorem unnumbered_of_direct {cls : MessageClass} {payload : Octets} {delay : Int}
    {context : Trace.Context} {publication : Publication}
    (published : Publication.direct cls payload delay context = .ok publication) :
    Unnumbered publication.headers := by
  rcases Publication.deathHeader_of_direct published with absent | ⟨text, written⟩
  · rw [Unnumbered, absent]
    rfl
  · rw [Unnumbered, written]
    rfl

theorem unnumbered_goRound (cls : MessageClass) (headers : Headers) :
    Unnumbered (DeathRecord.goRound cls headers) := by
  rw [Unnumbered, DeathRecord.goRound, DeathRecord.deadLetter, SortedTable.find?_insert_self]
  rfl

variable {counter : RetryCounter} (unmoved : ∀ queue, counter ≠ .deaths queue)

include unmoved

/-- A cycle is nothing to a counter that does not look at the death record. -/
theorem count_goRound {headers : Headers} (unnumbered : Unnumbered headers) (cls : MessageClass)
    (redelivered : Bool) :
    counter.count (DeathRecord.goRound cls headers) redelivered =
      counter.count headers redelivered := by
  cases counter with
  | deaths queue => exact absurd rfl (unmoved queue)
  | redelivery => rfl
  | header name =>
      have after := unnumbered_goRound cls headers
      by_cases own : name = deathHeader
      · rw [Unnumbered] at unnumbered after
        rw [count, count, own, unnumbered, after]
      · rw [count, count, DeathRecord.goRound, DeathRecord.deadLetter, DeathRecord.deadLetter,
          SortedTable.find?_insert_of_ne own, SortedTable.find?_insert_of_ne own]

theorem count_goRounds {headers : Headers} (unnumbered : Unnumbered headers) (cls : MessageClass)
    (redelivered : Bool) (cycles : Nat) :
    counter.count ((DeathRecord.goRound cls)^[cycles] headers) redelivered =
      counter.count headers redelivered := by
  induction cycles generalizing headers with
  | zero => rfl
  | succ cycles ih =>
      rw [Function.iterate_succ_apply, ih (unnumbered_goRound cls headers)]
      exact count_goRound unmoved unnumbered cls redelivered

/-- Without the mark such a counter reads no more than with it. -/
theorem count_unmarked_le (headers : Headers) (marked : Bool) :
    counter.count headers false ≤ counter.count headers marked := by
  cases counter with
  | deaths queue => exact absurd rfl (unmoved queue)
  | header name => exact Int.le_refl _
  | redelivery => cases marked <;> simp [count]

end RetryCounter

/-! ## Runs that do not end -/

namespace Voyage

variable {σ α : Type} {services : Services σ α} {consumption : Consumption α} {body : Octets}
  {marks : Nat → Bool} {data : α} {headers : Headers} {world : σ}

theorem Hopeless.after {step : Voyage σ → Voyage σ} {voyage : Voyage σ}
    (hopeless : Hopeless step voyage) (turns : Nat) : Hopeless step (step^[turns] voyage) := by
  intro more
  rw [← Function.iterate_add_apply]
  exact hopeless (more + turns)

/-- A message that is tried again and again: it was delivered a number of times, each time its
handler ran, and each time it was turned. -/
structure Circling (cls : MessageClass) (turns : Nat) (voyage : Voyage σ) : Prop where
  ready : voyage.place = .ready
  delivered : voyage.endings.length = turns
  retried : ∀ ending ∈ voyage.endings,
    ∃ count < cls.limit, ending = .returned (.ok (.retried count))
  executions : voyage.calls.flatten.countP Call.isHandling = turns
  copies : voyage.calls.flatMap (Delivery.copies cls) = []

/-- What a message whose counter stays below the limit has come to. -/
structure Sailed (consumption : Consumption α) (headers : Headers) (turns : Nat)
    (voyage : Voyage σ) : Prop where
  ready : voyage.place = .ready
  headers : voyage.headers = (DeathRecord.goRound consumption.cls)^[turns] headers
  delivered : voyage.endings.length = turns
  retried : ∀ ending ∈ voyage.endings,
    ∃ count < consumption.cls.limit, ending = .returned (.ok (.retried count))
  called : voyage.calls.length = turns
  turned : ∀ calls ∈ voyage.calls, Turned calls

/-- A message whose counter stays below the limit is never given up. The induction is on
the deliveries; each of them is a turn, after which the headers went round once more. -/
theorem sailed_of_below (enabled : consumption.cls.enabled = true)
    (parses : consumption.decode body = .done data)
    (hopeless : Hopeless (round services consumption body marks) (begun headers world))
    (below : ∀ turn, consumption.counter.count
      ((DeathRecord.goRound consumption.cls)^[turn] headers) (marks turn) < consumption.cls.limit)
    (turns : Nat) :
    Sailed consumption headers turns
      ((round services consumption body marks)^[turns] (begun headers world)) := by
  induction turns with
  | zero => exact ⟨rfl, rfl, rfl, nofun, rfl, nofun⟩
  | succ turns ih =>
      have hopeless := hopeless.after turns
      rw [Function.iterate_succ_apply']
      generalize (round services consumption body marks)^[turns] (begun headers world) = voyage
        at ih hopeless ⊢
      obtain ⟨ready, same, delivered, retried, called, turned⟩ := ih
      have read : voyage.tries consumption marks < consumption.cls.limit := by
        rw [tries, same, delivered]
        exact below turns
      obtain ⟨calls, next, turn, after⟩ := round_turned enabled parses ready hopeless read
      rw [after]
      refine ⟨rfl, ?_, ?_, fun ending member => ?_, ?_, fun each member => ?_⟩
      · rw [Function.iterate_succ_apply', ← same]
      · rw [List.length_append, delivered, List.length_singleton]
      · rcases List.mem_append.mp member with earlier | last
        · exact retried ending earlier
        · exact ⟨_, read, List.mem_singleton.mp last⟩
      · rw [List.length_append, called, List.length_singleton]
      · rcases List.mem_append.mp member with earlier | last
        · exact turned each earlier
        · rw [List.mem_singleton.mp last]
          exact turn

theorem circling_of_sailed {turns : Nat} {voyage : Voyage σ}
    (sailed : Sailed consumption headers turns voyage) :
    Circling consumption.cls turns voyage := by
  obtain ⟨executions, copies, -, -⟩ := counts_of_turned consumption.cls sailed.turned
  exact ⟨sailed.ready, sailed.delivered, sailed.retried, executions.trans sailed.called, copies⟩

/-- A counter that does not look at the death record and is below the limit at first stays so. -/
theorem circling_of_unmoved (unmoved : ∀ queue, consumption.counter ≠ .deaths queue)
    (unnumbered : RetryCounter.Unnumbered headers)
    (enabled : consumption.cls.enabled = true) (parses : consumption.decode body = .done data)
    (unmarked : ∀ turn, marks (turn + 1) = false)
    (hopeless : Hopeless (round services consumption body marks) (begun headers world))
    (below : consumption.counter.count headers (marks 0) < consumption.cls.limit) (turns : Nat) :
    Circling consumption.cls turns
      ((round services consumption body marks)^[turns] (begun headers world)) := by
  refine circling_of_sailed (sailed_of_below enabled parses hopeless (fun turn => ?_) turns)
  rw [RetryCounter.count_goRounds unmoved unnumbered]
  cases turn with
  | zero => exact below
  | succ turn =>
      rw [unmarked]
      exact Int.lt_of_le_of_lt (RetryCounter.count_unmarked_le unmoved headers (marks 0)) below

/-- A message without a death record that is counted by death records, of whichever queue, is
tried as often as the limit says and then given up. -/
theorem spent_of_deaths {queue : Option String} (counter : consumption.counter = .deaths queue)
    (recordless : DeathRecord.Cycled consumption.cls 0 headers)
    (enabled : consumption.cls.enabled = true) (parses : consumption.decode body = .done data)
    (hopeless : Hopeless (round services consumption body marks) (begun headers world)) :
    let bound := (max consumption.cls.limit 0).toNat
    (∀ turns ≤ bound,
      ((round services consumption body marks)^[turns] (begun headers world)).place = .ready) ∧
    ∀ turns > bound, Spent consumption.cls body
      ((List.range bound).map (fun turn => .retried turn) ++ [.exhausted bound])
      ((round services consumption body marks)^[turns] (begun headers world)) := by
  intro bound
  -- The invariant: every record on the message tells how often it went round.
  let counted (tries : Int) (headers : Headers) : Prop :=
    ∃ cycles : Nat, tries = cycles ∧ DeathRecord.Cycled consumption.cls cycles headers
  have reads : ∀ tries headers redelivered, counted tries headers →
      consumption.counter.count headers redelivered = tries := by
    rintro tries headers redelivered ⟨cycles, rfl, cycled⟩
    rw [counter]
    exact DeathRecord.count_of_cycled cycled queue redelivered
  have grows : ∀ tries headers, counted tries headers →
      counted (tries + 1) (DeathRecord.goRound consumption.cls headers) := by
    rintro tries headers ⟨cycles, rfl, cycled⟩
    exact ⟨cycles + 1, by omega, DeathRecord.goRound_cycled cycled⟩
  have ends : Ends (round services consumption body marks) consumption.cls body
      (begun headers world) (foretold consumption.cls.limit 0) :=
    ends_of_counted enabled parses reads grows _ _ 0 rfl hopeless ⟨0, rfl, recordless⟩ rfl
  exact spent_of_foretold ends

/-- A message whose counter reads the limit at once is given up on the first delivery. -/
theorem spent_of_reached (enabled : consumption.cls.enabled = true)
    (parses : consumption.decode body = .done data)
    (hopeless : Hopeless (round services consumption body marks) (begun headers world))
    (reached : consumption.cls.limit ≤ consumption.counter.count headers (marks 0))
    {turns : Nat} (enough : 0 < turns) :
    Spent consumption.cls body [.exhausted (consumption.counter.count headers (marks 0))]
      ((round services consumption body marks)^[turns] (begun headers world)) :=
  spent_of_ends (ends_of_reached enabled parses rfl hopeless reached) enough

end Voyage

/-- **Which messages are given up.** Take a message that was published on the direct route of
its class, that parses but is never handled, in a world that refuses nothing else; what comes
from the dead-letter route is delivered without the redelivery mark. It is given up exactly if
it is counted by death records or its counter reads the limit at once. Counted by death
records, of any queue or of none, it is given up after one delivery more than the limit; by any
other counter it is given up on the first delivery or tried again for ever. -/
theorem given_up_iff_reached {σ α : Type} {services : Services σ α} {consumption : Consumption α}
    {payload : Octets} {delay : Int} {context : Trace.Context} {publication : Publication}
    {data : α}
    (published : Publication.direct consumption.cls payload delay context = .ok publication)
    (parses : consumption.decode publication.payload = .done data)
    {marks : Nat → Bool} (unmarked : ∀ turn, marks (turn + 1) = false) {world : σ}
    (hopeless : Voyage.Hopeless
      (Voyage.round services consumption publication.payload marks)
      (Voyage.begun publication.headers world)) :
    let sail (turns : Nat) : Voyage σ :=
      (Voyage.round services consumption publication.payload marks)^[turns]
        (Voyage.begun publication.headers world)
    let bound := (max consumption.cls.limit 0).toNat
    let first := consumption.counter.count publication.headers (marks 0)
    ((∃ turns, (sail turns).place = .removed) ↔
      (∃ queue, consumption.counter = .deaths queue) ∨ consumption.cls.limit ≤ first) ∧
    (∀ queue, consumption.counter = .deaths queue →
      (∀ turns ≤ bound, (sail turns).place = .ready) ∧
      ∀ turns > bound, Voyage.Spent consumption.cls payload
        ((List.range bound).map (fun turn => .retried turn) ++ [.exhausted bound]) (sail turns)) ∧
    (consumption.cls.limit ≤ first →
      ∀ turns > 0, Voyage.Spent consumption.cls payload [.exhausted first] (sail turns)) ∧
    ((∀ queue, consumption.counter ≠ .deaths queue) → first < consumption.cls.limit →
      ∀ turns, Voyage.Circling consumption.cls turns (sail turns)) := by
  intro sail bound first
  obtain ⟨enabled, same, -⟩ := Publication.of_direct published
  have counted : ∀ queue, consumption.counter = .deaths queue →
      (∀ turns ≤ bound, (sail turns).place = .ready) ∧
      ∀ turns > bound, Voyage.Spent consumption.cls payload
        ((List.range bound).map (fun turn => .retried turn) ++ [.exhausted bound])
        (sail turns) := by
    intro queue counter
    rw [← same]
    exact Voyage.spent_of_deaths counter (Publication.cycled_of_direct published) enabled parses
      hopeless
  have reached : consumption.cls.limit ≤ first →
      ∀ turns > 0, Voyage.Spent consumption.cls payload [.exhausted first] (sail turns) := by
    intro reached turns enough
    rw [← same]
    exact Voyage.spent_of_reached enabled parses hopeless reached enough
  have unmoved : (∀ queue, consumption.counter ≠ .deaths queue) →
      first < consumption.cls.limit →
      ∀ turns, Voyage.Circling consumption.cls turns (sail turns) := by
    intro unmoved below turns
    exact Voyage.circling_of_unmoved unmoved (RetryCounter.unnumbered_of_direct published) enabled
      parses unmarked hopeless below turns
  refine ⟨⟨?_, ?_⟩, counted, reached, unmoved⟩
  · rintro ⟨turns, removed⟩
    -- What neither counts deaths nor is over at once circles, and so is never removed.
    by_contra neither
    obtain ⟨others, below⟩ := not_or.mp neither
    have circling := unmoved (not_exists.mp others) (Int.not_le.mp below) turns
    rw [circling.ready] at removed
    cases removed
  · rintro (⟨queue, counter⟩ | atOnce)
    · exact ⟨bound + 1, ((counted queue counter).2 _ (Nat.lt_succ_self bound)).removed⟩
    · exact ⟨1, (reached atOnce 1 Nat.one_pos).removed⟩

def twiceMoreBy (counter : RetryCounter) : Consumption Unit := { twiceMore with counter }

/-- A message of that class, to be delivered at once. -/
def undelayed : Publication := ⟨"", "", [1], [(Publication.delayHeader, Header.ofInt 0)]⟩

/-- Any death record will do: the first one is read, which is that of the dead-letter queue. -/
theorem given_up_iff_reached_anyRecord :
    Publication.direct (twiceMoreBy (.deaths none)).cls [1] 0 [] = .ok undelayed ∧
      Voyage.Hopeless
        (Voyage.round panicking (twiceMoreBy (.deaths none)) undelayed.payload fun _ => false)
        (Voyage.begun undelayed.headers ()) ∧
      Voyage.Spent twiceMore.cls [1] [.retried 0, .retried 1, .exhausted 2]
        ((Voyage.round panicking (twiceMoreBy (.deaths none)) undelayed.payload
          fun _ => false)^[3] (Voyage.begun undelayed.headers ())) := by
  have hopeless : Voyage.Hopeless
      (Voyage.round panicking (twiceMoreBy (.deaths none)) undelayed.payload fun _ => false)
      (Voyage.begun undelayed.headers ()) :=
    Voyage.hopeless_of_services nofun (fun _ _ => rfl) (fun _ => rfl) (fun _ _ => rfl) _ ()
  have published : Publication.direct (twiceMoreBy (.deaths none)).cls [1] 0 [] =
      .ok undelayed := rfl
  have given := given_up_iff_reached published rfl (fun _ => rfl) hopeless
  exact ⟨published, hopeless, (given.2.1 none rfl).2 3 (by decide)⟩

/-- Under a counter the class tries the undelayed message for ever, though nothing fails but its
handler. -/
def TriesForEver (counter : RetryCounter) : Prop :=
  Publication.direct (twiceMoreBy counter).cls [1] 0 [] = .ok undelayed ∧
    Voyage.Hopeless (Voyage.round panicking (twiceMoreBy counter) undelayed.payload
      fun _ => false) (Voyage.begun undelayed.headers ()) ∧
    ∀ turns, Voyage.Circling twiceMore.cls turns
      ((Voyage.round panicking (twiceMoreBy counter) undelayed.payload fun _ => false)^[turns]
        (Voyage.begun undelayed.headers ()))

theorem triesForEver_of_unmoved {counter : RetryCounter}
    (unmoved : ∀ queue, counter ≠ .deaths queue)
    (below : counter.count undelayed.headers false < 2) : TriesForEver counter := by
  have hopeless : Voyage.Hopeless
      (Voyage.round panicking (twiceMoreBy counter) undelayed.payload fun _ => false)
      (Voyage.begun undelayed.headers ()) :=
    Voyage.hopeless_of_services nofun (fun _ _ => rfl) (fun _ => rfl) (fun _ _ => rfl) _ ()
  have unnumbered : RetryCounter.Unnumbered undelayed.headers := rfl
  refine ⟨rfl, hopeless, fun turns => ?_⟩
  exact Voyage.circling_of_unmoved unmoved unnumbered rfl rfl (fun _ => rfl) hopeless below turns

/-- A header of the application's own and the redelivery mark bound nothing: a message that
always fails is tried again for ever, and no copy of it goes to junk. -/
theorem unmoved_counters_circle :
    TriesForEver .redelivery ∧ TriesForEver (.header "x-retry-count") :=
  ⟨triesForEver_of_unmoved nofun (by decide), triesForEver_of_unmoved nofun (by decide)⟩

end Redelivery
