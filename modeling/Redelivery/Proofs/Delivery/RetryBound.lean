import Mathlib.Logic.Function.Iterate
import Redelivery.Proofs.DeathRecord
import Redelivery.Proofs.Delivery.Custody
/-!
# How often a failing message is tried

A message whose handler never succeeds is delivered, rejected and brought back by the
dead-letter route until its death record reaches the limit of the class, and is then given
up. `Voyage.round` is one delivery together with what the broker does until the next one, so
that a whole run is an iteration of it.

* `Voyage.round_turned`, `Voyage.round_given_up`: one delivery of a message that nobody can
  handle.
* `Voyage.ends_of_counted`: the run of a message that the counter counts, by induction on the
  tries that are left; `Voyage.ends_of_cycle` is the case of the retry cycle.
* `retry_bound`: the whole run of a new message, and of one that was dead-lettered before.
-/

namespace Redelivery

set_option autoImplicit false

namespace Call

def isHandling : Call → Bool
  | handled _ => true
  | _ => false

def isPublication : Call → Bool
  | published _ _ => true
  | _ => false

def isAcknowledgement : Call → Bool
  | acknowledged _ => true
  | _ => false

/-- The answers to a message that cannot be handled, in a world that refuses nothing else. -/
def Hopeless : Call → Prop
  | handled answer => answer ≠ .done ()
  | published _ answer => answer = .ok ()
  | acknowledged answer => answer = .ok ()
  | rejected _ answer => answer = .ok ()

end Call

/-- A message on its way: where the broker has it, its headers, how its deliveries ended and
what they called, and the world that answers them. -/
structure Voyage (σ : Type) where
  place : Place
  headers : Headers
  endings : List Ending
  calls : List (List Call)
  world : σ

namespace Voyage

variable {σ α : Type}

def begun (headers : Headers) (world : σ) : Voyage σ := ⟨.ready, headers, [], [], world⟩

section Round

variable (services : Services σ α) (consumption : Consumption α) (body : Octets)
  (marks : Nat → Bool)

def delivery (voyage : Voyage σ) : Report × σ × List Call :=
  Delivery.process services.recorded consumption
    ⟨body, voyage.headers, marks voyage.endings.length⟩ (voyage.world, [])

/-- One delivery and what the broker does until the next: a rejected message goes round the
dead-letter route, and one that was not settled is offered again. The broker marks its
deliveries as redelivered as it likes. A message that is away stays away. -/
def round (voyage : Voyage σ) : Voyage σ :=
  if voyage.place = .removed then voyage
  else
    let told := voyage.delivery services consumption body marks
    let place := Place.afterDelivery told.2.2
    { place := if place = .removed then .removed else .ready
      headers :=
        if place = .deadLettered then DeathRecord.goRound consumption.cls voyage.headers
        else voyage.headers
      endings := voyage.endings ++ [told.1.ending]
      calls := voyage.calls ++ [told.2.2]
      world := told.2.1 }

end Round

/-! ## One delivery -/

/-- The calls of a delivery that fails and may try again. -/
def Turned (calls : List Call) : Prop :=
  ∃ answer, answer ≠ .done () ∧ calls = [.handled answer, .rejected false (.ok ())]

/-- The calls of a delivery that fails and gives the message up. -/
def GivenUp (cls : MessageClass) (body : Octets) (calls : List Call) : Prop :=
  ∃ answer, answer ≠ .done () ∧ calls = [.handled answer,
    .published (Delivery.junkCopy cls body) (.ok ()), .acknowledged (.ok ())]

variable {services : Services σ α} {consumption : Consumption α} {body : Octets}
  {marks : Nat → Bool} {data : α}

theorem hopeless_archival {cls : MessageClass} {disposition : Disposition} {calls : List Call}
    {result : Except Failure Disposition} (enabled : cls.enabled = true)
    (archival : Delivery.Archival cls body disposition calls result)
    (hopeless : ∀ call ∈ calls, call.Hopeless) :
    calls = [.published (Delivery.junkCopy cls body) (.ok ()), .acknowledged (.ok ())] ∧
      result = .ok disposition := by
  cases archival with
  | disabled off answer =>
      rw [enabled] at off
      cases off
  | refused on failure answer => cases hopeless _ (List.mem_cons_self ..)
  | settled on => exact ⟨rfl, rfl⟩
  | unsettled on failure => cases hopeless (.acknowledged (.error failure)) (by simp)

/-- A hopeless delivery fails, and the limit alone decides whether it may try again. -/
theorem hopeless_course {cls : MessageClass} {count : Int} {calls : List Call} {ending : Ending}
    (enabled : cls.enabled = true)
    (course : Delivery.Course cls body count (.done data) calls ending)
    (hopeless : ∀ call ∈ calls, call.Hopeless) :
    (count < cls.limit ∧ Turned calls ∧ ending = .returned (.ok (.retried count))) ∨
      (cls.limit ≤ count ∧ GivenUp cls body calls ∧
        ending = .returned (.ok (.exhausted count))) := by
  cases course with
  | acknowledged | unacknowledged => exact absurd rfl (hopeless _ (List.mem_cons_self ..))
  | retried _ answer failed below => exact .inl ⟨below, ⟨answer, failed, rfl⟩, rfl⟩
  | unrejected _ answer failed below failure =>
      cases hopeless (.rejected false (.error failure)) (by simp)
  | exhausted _ answer failed reached archival =>
      obtain ⟨rfl, rfl⟩ := hopeless_archival enabled archival
        fun call member => hopeless call (List.mem_cons_of_mem _ member)
      exact .inr ⟨reached, ⟨answer, failed, rfl⟩, rfl⟩

/-- What the counter makes of a voyage. -/
def tries (consumption : Consumption α) (marks : Nat → Bool) (voyage : Voyage σ) : Int :=
  consumption.counter.count voyage.headers (marks voyage.endings.length)

theorem delivery_course (services : Services σ α) (consumption : Consumption α) (body : Octets)
    (marks : Nat → Bool) (voyage : Voyage σ) :
    let told := voyage.delivery services consumption body marks
    Delivery.Course consumption.cls body (voyage.tries consumption marks) (consumption.decode body)
      told.2.2 told.1.ending ∧ ∀ call ∈ told.2.2, call.AnsweredBy services := by
  obtain ⟨calls, ending, course, ends, told⟩ := Delivery.processTried_recorded services
    consumption.cls consumption.decode (voyage.tries consumption marks)
    ⟨body, voyage.headers, marks voyage.endings.length⟩ voyage.world []
  have called : (voyage.delivery services consumption body marks).2.2 = calls := told.log
  have ended : (voyage.delivery services consumption body marks).1.ending = ending :=
    (congrArg Report.ending told.report).trans ends
  simp only [called, ended]
  exact ⟨course, told.answered⟩

/-! ## Runs -/

/-- No delivery of the run is handled, and nothing else fails. -/
def Hopeless (step : Voyage σ → Voyage σ) (voyage : Voyage σ) : Prop :=
  ∀ turns, ∀ calls ∈ (step^[turns] voyage).calls, ∀ call ∈ calls, call.Hopeless

theorem Hopeless.next {step : Voyage σ → Voyage σ} {voyage : Voyage σ}
    (hopeless : Hopeless step voyage) : Hopeless step (step voyage) :=
  fun turns => hopeless (turns + 1)

section Round

variable (enabled : consumption.cls.enabled = true) (parses : consumption.decode body = .done data)
  {voyage : Voyage σ} (ready : voyage.place = .ready)
  (hopeless : Hopeless (round services consumption body marks) voyage)

include enabled parses ready hopeless

theorem delivery_hopeless :
    let told := voyage.delivery services consumption body marks
    let count := voyage.tries consumption marks
    (count < consumption.cls.limit ∧ Turned told.2.2 ∧
        told.1.ending = .returned (.ok (.retried count))) ∨
      (consumption.cls.limit ≤ count ∧ GivenUp consumption.cls body told.2.2 ∧
        told.1.ending = .returned (.ok (.exhausted count))) := by
  obtain ⟨course, -⟩ := delivery_course services consumption body marks voyage
  rw [parses] at course
  refine hopeless_course enabled course fun call member => ?_
  exact hopeless 1 _ (by simp [round, ready]) call member

theorem round_turned (below : voyage.tries consumption marks < consumption.cls.limit) :
    ∃ calls world, Turned calls ∧ voyage.round services consumption body marks =
      ⟨.ready, DeathRecord.goRound consumption.cls voyage.headers,
        voyage.endings ++ [.returned (.ok (.retried (voyage.tries consumption marks)))],
        voyage.calls ++ [calls], world⟩ := by
  rcases delivery_hopeless enabled parses ready hopeless with
    ⟨-, turned, ending⟩ | ⟨reached, -⟩
  · obtain ⟨answer, failed, calls⟩ := id turned
    refine ⟨_, (voyage.delivery services consumption body marks).2.1, turned, ?_⟩
    have place : Place.afterDelivery (voyage.delivery services consumption body marks).2.2 =
        .deadLettered := by
      rw [calls]
      rfl
    simp [round, ready, place, ending]
  · exact absurd below (Int.not_lt.mpr reached)

theorem round_given_up (reached : consumption.cls.limit ≤ voyage.tries consumption marks) :
    ∃ calls world, GivenUp consumption.cls body calls ∧
      voyage.round services consumption body marks = ⟨.removed, voyage.headers,
        voyage.endings ++ [.returned (.ok (.exhausted (voyage.tries consumption marks)))],
        voyage.calls ++ [calls], world⟩ := by
  rcases delivery_hopeless enabled parses ready hopeless with
    ⟨below, -⟩ | ⟨-, given, ending⟩
  · exact absurd below (Int.not_lt.mpr reached)
  · obtain ⟨answer, failed, calls⟩ := id given
    refine ⟨_, (voyage.delivery services consumption body marks).2.1, given, ?_⟩
    have place : Place.afterDelivery (voyage.delivery services consumption body marks).2.2 =
        .removed := by
      rw [calls]
      rfl
    simp [round, ready, place, ending]

end Round

/-! ## The whole run -/

/-- What the deliveries of a hopeless message come to when the counter reads `first` and from
then on one more every time. -/
def foretold (limit first : Int) : List Disposition :=
  (List.range (limit - first).toNat).map (fun turn => .retried (first + turn)) ++
    [.exhausted (max limit first)]

theorem length_foretold (limit first : Int) :
    (foretold limit first).length = (limit - first).toNat + 1 := by
  rw [foretold, List.length_append, List.length_map, List.length_range, List.length_singleton]

theorem foretold_of_reached {limit first : Int} (reached : limit ≤ first) :
    foretold limit first = [.exhausted first] := by
  have none : (limit - first).toNat = 0 := by omega
  simp [foretold, none, reached]

theorem foretold_of_below {limit first : Int} (below : first < limit) :
    foretold limit first = .retried first :: foretold limit (first + 1) := by
  have more : (limit - first).toNat = (limit - (first + 1)).toNat + 1 := by omega
  have same : max limit first = max limit (first + 1) := by omega
  have shifted (turn : Nat) : first + ((turn : Int) + 1) = first + 1 + turn := by omega
  simp [foretold, more, same, List.range_succ_eq_map, Function.comp_def, shifted]

theorem foretold_zero (limit : Int) :
    foretold limit 0 = (List.range (max limit 0).toNat).map (fun turn => .retried turn) ++
      [.exhausted (max limit 0).toNat] := by
  have turns : (limit - 0).toNat = (max limit 0).toNat := by omega
  have most : max limit 0 = ((max limit 0).toNat : Int) := by omega
  rw [foretold, turns, ← most]
  simp

/-- The run of a voyage: it goes on until its message is given up. -/
structure Ends (step : Voyage σ → Voyage σ) (cls : MessageClass) (body : Octets)
    (before : Voyage σ) (dispositions : List Disposition) : Prop where
  ready : ∀ turn < dispositions.length, (step^[turn] before).place = .ready
  removed : (step^[dispositions.length] before).place = .removed
  endings : (step^[dispositions.length] before).endings =
    before.endings ++ dispositions.map fun disposition => .returned (.ok disposition)
  calls : ∃ retries last, (step^[dispositions.length] before).calls =
      before.calls ++ (retries ++ [last]) ∧ retries.length + 1 = dispositions.length ∧
    (∀ calls ∈ retries, Turned calls) ∧ GivenUp cls body last

section Run

variable (enabled : consumption.cls.enabled = true) (parses : consumption.decode body = .done data)

section Step

variable {voyage : Voyage σ} (ready : voyage.place = .ready)
  (hopeless : Hopeless (round services consumption body marks) voyage)

include enabled parses ready hopeless

theorem ends_of_reached (reached : consumption.cls.limit ≤ voyage.tries consumption marks) :
    Ends (round services consumption body marks) consumption.cls body voyage
      [.exhausted (voyage.tries consumption marks)] := by
  obtain ⟨calls, world, given, after⟩ := round_given_up enabled parses ready hopeless reached
  have once : (round services consumption body marks)^[1] voyage = _ := after
  refine ⟨fun turn first => ?_, ?_, ?_, [], calls, ?_, rfl, by simp, given⟩
  · cases Nat.lt_one_iff.mp first
    exact ready
  · rw [List.length_singleton, once]
  · rw [List.length_singleton, once]
    rfl
  · rw [List.length_singleton, once]
    rfl

theorem ends_of_turned (below : voyage.tries consumption marks < consumption.cls.limit)
    {dispositions : List Disposition}
    (later : Ends (round services consumption body marks) consumption.cls body
      (voyage.round services consumption body marks) dispositions) :
    Ends (round services consumption body marks) consumption.cls body voyage
      (.retried (voyage.tries consumption marks) :: dispositions) := by
  obtain ⟨calls, world, turned, after⟩ := round_turned enabled parses ready hopeless below
  obtain ⟨laterReady, removed, endings, retries, last, made, length, allTurned, given⟩ := later
  refine ⟨fun turn first => ?_, removed, ?_, calls :: retries, last, ?_, ?_, ?_, given⟩
  · cases turn with
    | zero => exact ready
    | succ turn => exact laterReady turn (Nat.lt_of_succ_lt_succ first)
  · rw [List.length_cons, Function.iterate_succ_apply, endings, after]
    simp
  · rw [List.length_cons, Function.iterate_succ_apply, made, after]
    simp
  · rw [List.length_cons, List.length_cons, length]
  · intro each member
    rcases List.mem_cons.mp member with rfl | member
    · exact turned
    · exact allTurned each member

end Step

include enabled parses in
/-- A hopeless message that is counted: `Counted` tells from the headers how often it was
tried, the counter reads that number, and every cycle adds one. The induction is on the tries
that are left. -/
theorem ends_of_counted {Counted : Int → Headers → Prop}
    (reads : ∀ tries headers redelivered, Counted tries headers →
      consumption.counter.count headers redelivered = tries)
    (grows : ∀ tries headers, Counted tries headers →
      Counted (tries + 1) (DeathRecord.goRound consumption.cls headers)) (left : Nat) :
    ∀ (voyage : Voyage σ) (tries : Int), voyage.place = .ready →
      Hopeless (round services consumption body marks) voyage →
      Counted tries voyage.headers → (consumption.cls.limit - tries).toNat = left →
      Ends (round services consumption body marks) consumption.cls body voyage
        (foretold consumption.cls.limit tries) := by
  induction left with
  | zero =>
      intro voyage tries ready hopeless counted nothing
      have read : voyage.tries consumption marks = tries := reads _ _ _ counted
      rw [foretold_of_reached (by omega), ← read]
      exact ends_of_reached enabled parses ready hopeless (by omega)
  | succ left ih =>
      intro voyage tries ready hopeless counted more
      have read : voyage.tries consumption marks = tries := reads _ _ _ counted
      have below : voyage.tries consumption marks < consumption.cls.limit := by omega
      rw [foretold_of_below (by omega), ← read]
      refine ends_of_turned enabled parses ready hopeless below ?_
      obtain ⟨calls, world, -, after⟩ := round_turned enabled parses ready hopeless below
      have later := hopeless.next
      rw [after] at later ⊢
      rw [read] at later ⊢
      exact ih _ _ rfl later (grows _ _ counted) (by omega)

variable (counter : consumption.counter = .deaths (some consumption.cls.direct.queue))
  (apart : consumption.cls.direct.queue ≠ consumption.cls.deadLetter.queue)

include enabled parses counter apart

/-- A hopeless message on the retry cycle: `DeathRecord.InCycle` is what carries the count
from one delivery to the next. -/
theorem ends_of_cycle (left : Nat) :
    ∀ (voyage : Voyage σ) (rejections : Int), voyage.place = .ready →
      Hopeless (round services consumption body marks) voyage →
      DeathRecord.InCycle consumption.cls rejections voyage.headers →
      (consumption.cls.limit - rejections).toNat = left →
      Ends (round services consumption body marks) consumption.cls body voyage
        (foretold consumption.cls.limit rejections) := by
  refine ends_of_counted enabled parses (fun rejections headers redelivered cycle => ?_)
    (fun rejections headers cycle => ?_) left
  · rw [counter]
    exact DeathRecord.count_of_inCycle apart cycle redelivered
  · have onward := DeathRecord.goRound_inCycle consumption.cls headers apart
    rwa [DeathRecord.deaths_of_inCycle apart cycle] at onward

variable (headers : Headers) (world : σ)
  (hopeless : Hopeless (round services consumption body marks) (begun headers world))

include hopeless

/-- A message that may be tried again after its first delivery is on the retry cycle then. -/
theorem ends_of_begun_below
    (below : consumption.counter.count headers (marks 0) < consumption.cls.limit) :
    Ends (round services consumption body marks) consumption.cls body (begun headers world)
      (.retried (consumption.counter.count headers (marks 0)) ::
        foretold consumption.cls.limit (DeathRecord.deaths consumption.cls.direct.queue
          DeathRecord.rejected headers + 1)) := by
  have ready : (begun headers world).place = .ready := rfl
  have onward := DeathRecord.goRound_inCycle consumption.cls headers apart
  refine ends_of_turned enabled parses ready hopeless below ?_
  obtain ⟨calls, next, -, after⟩ := round_turned enabled parses ready hopeless below
  have later := hopeless.next
  rw [after] at later ⊢
  exact ends_of_cycle enabled parses counter apart _ _ _ rfl later onward rfl

/-- A message without a death record is counted from zero. -/
theorem ends_of_new (absent : SortedTable.find? RetryCounter.deathHeader headers = none) :
    Ends (round services consumption body marks) consumption.cls body (begun headers world)
      (foretold consumption.cls.limit 0) := by
  have first : consumption.counter.count headers (marks 0) = 0 := by
    rw [counter]
    exact DeathRecord.count_of_absent absent _
  have tries : (begun headers world).tries consumption marks = 0 := first
  by_cases reached : consumption.cls.limit ≤ 0
  · rw [foretold_of_reached reached, ← tries]
    exact ends_of_reached enabled parses rfl hopeless (by omega)
  · have below : consumption.counter.count headers (marks 0) < consumption.cls.limit := by omega
    have none :
        DeathRecord.deaths consumption.cls.direct.queue DeathRecord.rejected headers = 0 := by
      rw [DeathRecord.deaths, DeathRecord.items_of_absent absent]
      rfl
    have ends := ends_of_begun_below enabled parses counter apart headers world hopeless below
    rw [first, none] at ends
    rw [foretold_of_below (by omega)]
    exact ends

end Run

/-- A message that was given up, after deliveries that came to these dispositions: each of
them ran the handler, one copy went to junk, and the one acknowledgement was the last call. -/
structure Spent (cls : MessageClass) (body : Octets) (dispositions : List Disposition)
    (voyage : Voyage σ) : Prop where
  removed : voyage.place = .removed
  endings : voyage.endings = dispositions.map fun disposition => .returned (.ok disposition)
  executions : voyage.calls.flatten.countP Call.isHandling = dispositions.length
  copies : voyage.calls.flatMap (Delivery.copies cls) = [body]
  publications : voyage.calls.flatten.countP Call.isPublication = 1
  acknowledgements : voyage.calls.flatten.countP Call.isAcknowledgement = 1
  last : voyage.calls.flatten.getLast? = some (.acknowledged (.ok ()))

theorem counts_of_turned (cls : MessageClass) {retries : List (List Call)}
    (turned : ∀ calls ∈ retries, Turned calls) :
    retries.flatten.countP Call.isHandling = retries.length ∧
      retries.flatMap (Delivery.copies cls) = [] ∧
      retries.flatten.countP Call.isPublication = 0 ∧
      retries.flatten.countP Call.isAcknowledgement = 0 := by
  induction retries with
  | nil => simp
  | cons calls retries ih =>
      obtain ⟨handled, copies, published, acknowledged⟩ :=
        ih fun each member => turned each (List.mem_cons_of_mem _ member)
      obtain ⟨answer, -, rfl⟩ := turned calls (List.mem_cons_self ..)
      simp [handled, copies, published, acknowledged, List.countP_cons, Call.isHandling,
        Call.isPublication, Call.isAcknowledgement]

theorem round_removed {voyage : Voyage σ} (removed : voyage.place = .removed) :
    voyage.round services consumption body marks = voyage := by
  simp [round, removed]

theorem spent_of_ends {headers : Headers} {world : σ} {dispositions : List Disposition}
    (ends : Ends (round services consumption body marks) consumption.cls body
      (begun headers world) dispositions) {turns : Nat} (enough : dispositions.length ≤ turns) :
    Spent consumption.cls body dispositions
      ((round services consumption body marks)^[turns] (begun headers world)) := by
  obtain ⟨-, removed, endings, retries, last, made, length, turned, answer, -, rfl⟩ := ends
  obtain ⟨handled, copies, published, acknowledged⟩ := counts_of_turned consumption.cls turned
  -- What was removed stays removed, so that nothing changes after the last of the dispositions.
  have settled : (round services consumption body marks)^[turns] (begun headers world) =
      (round services consumption body marks)^[dispositions.length] (begun headers world) := by
    obtain ⟨more, rfl⟩ := Nat.exists_eq_add_of_le enough
    rw [Nat.add_comm, Function.iterate_add_apply]
    exact Function.iterate_fixed (round_removed removed) more
  rw [settled]
  have calls : ((round services consumption body marks)^[dispositions.length]
      (begun headers world)).calls = retries ++ [_] := made
  refine ⟨removed, endings, ?_, ?_, ?_, ?_, ?_⟩ <;> rw [calls]
  · simp [handled, List.countP_cons, Call.isHandling, length]
  · simp [copies]
  · simp [published, List.countP_cons, Call.isPublication]
  · simp [acknowledged, List.countP_cons, Call.isAcknowledgement]
  · simp

/-- A message that is tried as often as the limit says stays in its queue until then. -/
theorem spent_of_foretold {headers : Headers} {world : σ}
    (ends : Ends (round services consumption body marks) consumption.cls body
      (begun headers world) (foretold consumption.cls.limit 0)) :
    let bound := (max consumption.cls.limit 0).toNat
    (∀ turns ≤ bound,
      ((round services consumption body marks)^[turns] (begun headers world)).place = .ready) ∧
    ∀ turns > bound, Spent consumption.cls body
      ((List.range bound).map (fun turn => .retried turn) ++ [.exhausted bound])
      ((round services consumption body marks)^[turns] (begun headers world)) := by
  intro bound
  have length : (foretold consumption.cls.limit 0).length = bound + 1 := by
    rw [length_foretold]
    omega
  refine ⟨fun turns before => ends.ready turns ?_, fun turns enough => ?_⟩
  · rw [length]
    exact Nat.lt_succ_of_le before
  · rw [← foretold_zero]
    refine spent_of_ends ends ?_
    rw [length]
    exact Nat.succ_le_of_lt enough

/-- Every call of a run has its answer from the services. -/
theorem calls_answered (headers : Headers) (world : σ) (turns : Nat) :
    ∀ calls ∈ ((round services consumption body marks)^[turns] (begun headers world)).calls,
      ∀ call ∈ calls, call.AnsweredBy services := by
  induction turns with
  | zero => simp [begun]
  | succ turns ih =>
      rw [Function.iterate_succ_apply']
      generalize (round services consumption body marks)^[turns] (begun headers world) = voyage
        at ih
      unfold round
      split
      · exact ih
      · intro calls member
        rcases List.mem_append.mp member with earlier | last
        · exact ih calls earlier
        · rw [List.mem_singleton.mp last]
          exact (delivery_course services consumption body marks voyage).2

/-- Services that never handle and never refuse make every run hopeless. -/
theorem hopeless_of_services
    (fails : ∀ data context state, (services.handle data context state).1 ≠ .done ())
    (publishes : ∀ publication state, (services.publish publication state).1 = .ok ())
    (acknowledges : ∀ state, (services.acknowledge state).1 = .ok ())
    (rejects : ∀ requeue state, (services.reject requeue state).1 = .ok ())
    (headers : Headers) (world : σ) :
    Hopeless (round services consumption body marks) (begun headers world) := by
  intro turns calls made call member
  have answered := calls_answered headers world turns calls made call member
  cases call with
  | handled answer =>
      obtain ⟨given, context, state, rfl⟩ := answered
      exact fails given context state
  | published publication answer =>
      obtain ⟨state, rfl⟩ := answered
      exact publishes publication state
  | acknowledged answer =>
      obtain ⟨state, rfl⟩ := answered
      exact acknowledges state
  | rejected requeue answer =>
      obtain ⟨state, rfl⟩ := answered
      exact rejects requeue state

end Voyage

/-- **The retry bound.** A hopeless message of a class whose queues are apart, counted by the
death record of its direct queue, is given up after a foretold number of deliveries: on each
of them its handler runs, all but the last are turned, the last puts one copy into junk and
then acknowledges. The class is switched on, as every copy of a class that is off is refused.
New messages are tried once more than the limit. What was dead-lettered before is counted by
its headers: the first time by any record that is there, and from the second time on by the
rejections of the direct queue. -/
theorem retry_bound {σ α : Type} {services : Services σ α} {consumption : Consumption α}
    {body : Octets} {data : α}
    (counter : consumption.counter = .deaths (some consumption.cls.direct.queue))
    (apart : consumption.cls.direct.queue ≠ consumption.cls.deadLetter.queue)
    (enabled : consumption.cls.enabled = true) (parses : consumption.decode body = .done data)
    {marks : Nat → Bool} {headers : Headers} {world : σ}
    (hopeless : Voyage.Hopeless (Voyage.round services consumption body marks)
      (Voyage.begun headers world)) :
    let sail (turns : Nat) : Voyage σ :=
      (Voyage.round services consumption body marks)^[turns] (Voyage.begun headers world)
    let bound := (max consumption.cls.limit 0).toNat
    let first := consumption.counter.count headers (marks 0)
    let earlier := DeathRecord.deaths consumption.cls.direct.queue DeathRecord.rejected headers
    (SortedTable.find? RetryCounter.deathHeader headers = none →
      (∀ turns ≤ bound, (sail turns).place = .ready) ∧
      ∀ turns > bound, Voyage.Spent consumption.cls body
        ((List.range bound).map (fun turn => .retried turn) ++ [.exhausted bound]) (sail turns)) ∧
    (consumption.cls.limit ≤ first →
      ∀ turns > 0, Voyage.Spent consumption.cls body [.exhausted first] (sail turns)) ∧
    (first < consumption.cls.limit →
      let left := (consumption.cls.limit - (earlier + 1)).toNat
      (∀ turns ≤ left + 1, (sail turns).place = .ready) ∧
      ∀ turns > left + 1, Voyage.Spent consumption.cls body
        (.retried first :: (List.range left).map (fun turn => .retried (earlier + 1 + turn)) ++
          [.exhausted (max consumption.cls.limit (earlier + 1))]) (sail turns)) := by
  intro sail bound first earlier
  refine ⟨fun absent => ?_, fun reached turns enough => ?_, fun below => ?_⟩
  · have ends : Voyage.Ends (Voyage.round services consumption body marks) consumption.cls body
        (Voyage.begun headers world) (Voyage.foretold consumption.cls.limit 0) :=
      Voyage.ends_of_new enabled parses counter apart headers world hopeless absent
    exact Voyage.spent_of_foretold ends
  · have ends : Voyage.Ends (Voyage.round services consumption body marks) consumption.cls body
        (Voyage.begun headers world) [.exhausted first] :=
      Voyage.ends_of_reached enabled parses rfl hopeless reached
    exact Voyage.spent_of_ends ends enough
  · have ends : Voyage.Ends (Voyage.round services consumption body marks) consumption.cls body
        (Voyage.begun headers world)
        (.retried first :: Voyage.foretold consumption.cls.limit (earlier + 1)) :=
      Voyage.ends_of_begun_below enabled parses counter apart headers world hopeless below
    intro left
    refine ⟨fun turns before => ends.ready turns ?_, fun turns enough =>
      Voyage.spent_of_ends ends ?_⟩
    · rw [List.length_cons, Voyage.length_foretold]
      exact Nat.lt_succ_of_le before
    · rw [List.length_cons, Voyage.length_foretold]
      exact Nat.succ_le_of_lt enough

def twiceMore : Consumption Unit where
  cls := { MessageClass.blank with enabled := true, direct := ⟨"", "direct", ""⟩, limit := 2 }
  counter := .deaths (some "direct")
  decode _ := .done ()

/-- Services whose handler panics and that refuse nothing. -/
def panicking : Services Unit Unit where
  propagator := .standard
  handle _ _ world := (.panicked none, world)
  publish _ world := (.ok (), world)
  acknowledge world := (.ok (), world)
  reject _ world := (.ok (), world)

/-- A new message is tried three times under a limit of two. -/
theorem retry_bound_twiceMore :
    Voyage.Hopeless (Voyage.round panicking twiceMore [1] fun _ => false) (Voyage.begun [] ()) ∧
      Voyage.Spent twiceMore.cls [1] [.retried 0, .retried 1, .exhausted 2]
        ((Voyage.round panicking twiceMore [1] fun _ => false)^[3] (Voyage.begun [] ())) := by
  have hopeless : Voyage.Hopeless (Voyage.round panicking twiceMore [1] fun _ => false)
      (Voyage.begun [] ()) :=
    Voyage.hopeless_of_services nofun (fun _ _ => rfl) (fun _ => rfl) (fun _ _ => rfl) [] ()
  have bound := (retry_bound rfl (by decide) rfl rfl hopeless).1 rfl
  exact ⟨hopeless, bound.2 3 (by decide)⟩

end Redelivery
