import Redelivery.Proofs.Publishing.DelayHeader
import Redelivery.Proofs.Publishing.Increment
/-!
# Backing off

A payload that is published again waits for the delay of its class, taken a number of times. The
product of two signed 64-bit numbers need not be one, and what is published is the nearest number
that is (`Publication.nearest_incrementedDelay`). Hence the delay has the sign of the product, and
of two products the greater one never gets the smaller delay (`IntegerWidth.Nearest.sign_eq`,
`IntegerWidth.Nearest.mono`).

`Resubmission.sendAll_recorded` says what a whole sequence of resubmissions hands over, and
`resubmissions_back_off` which delays that carries. A context that names the header of the delay
is not covered: its field takes the place of the delay (`PublishRequest.delay_kept_iff`).
-/

namespace Redelivery

set_option autoImplicit false

variable {σ : Type}

/-! ## The nearest number -/

namespace IntegerWidth

theorem holds_iff {width : IntegerWidth} {value : Int} :
    width.holds value = true ↔ width.low ≤ value ∧ value ≤ width.high := by
  simp [holds]

theorem low_le_high (width : IntegerWidth) : width.low ≤ width.high := by
  cases width <;> decide

/-- The number of a width that is nearest to a whole number: that number if it fits, and otherwise
the bound that it is beyond. -/
structure Nearest (width : IntegerWidth) (value nearest : Int) : Prop where
  holds : width.holds nearest = true
  exact : width.holds value = true → nearest = value
  below : value < width.low → nearest = width.low
  above : width.high < value → nearest = width.high
  closest : ∀ other, width.holds other = true → |value - nearest| ≤ |value - other|

theorem nearest_clamp (width : IntegerWidth) (value : Int) :
    width.Nearest value (max width.low (min width.high value)) := by
  have bounds := width.low_le_high
  refine ⟨?_, ?_, ?_, ?_, ?_⟩
  · rw [holds_iff]
    omega
  · intro fits
    rw [holds_iff] at fits
    omega
  · intro below
    omega
  · intro above
    omega
  · intro other fits
    rw [holds_iff] at fits
    -- each of the two distances has one of two signs, and then the bounds decide
    rcases abs_cases (value - max width.low (min width.high value)) with ⟨eq, _⟩ | ⟨eq, _⟩ <;>
      rcases abs_cases (value - other) with ⟨eq', _⟩ | ⟨eq', _⟩ <;> omega

namespace Nearest

variable {width : IntegerWidth} {value nearest : Int}

theorem places (near : width.Nearest value nearest) :
    value < width.low ∧ nearest = width.low ∨ width.high < value ∧ nearest = width.high ∨
      nearest = value := by
  by_cases below : value < width.low
  · exact .inl ⟨below, near.below below⟩
  · by_cases above : width.high < value
    · exact .inr (.inl ⟨above, near.above above⟩)
    · have fits : width.holds value = true := by
        rw [holds_iff]
        omega
      exact .inr (.inr (near.exact fits))

theorem sign_eq (near : width.Nearest value nearest) (negative : width.low < 0)
    (positive : 0 < width.high) : nearest.sign = value.sign := by
  rcases near.places with ⟨below, rfl⟩ | ⟨above, rfl⟩ | rfl
  · rw [Int.sign_eq_neg_one_of_neg negative, Int.sign_eq_neg_one_of_neg (below.trans negative)]
  · rw [Int.sign_eq_one_of_pos positive, Int.sign_eq_one_of_pos (positive.trans above)]
  · rfl

theorem mono {other further : Int} (near : width.Nearest value nearest)
    (near' : width.Nearest other further) (le : value ≤ other) : nearest ≤ further := by
  have bounds := width.low_le_high
  have inside := holds_iff.mp near.holds
  have inside' := holds_iff.mp near'.holds
  rcases near.places with ⟨below, rfl⟩ | ⟨above, rfl⟩ | rfl
  · exact inside'.1
  · rw [near'.above (above.trans_le le)]
  · rcases near'.places with ⟨below, rfl⟩ | ⟨above, rfl⟩ | rfl <;> omega

end Nearest

end IntegerWidth

namespace Publication

/-- An incremented delay is the nearest one to the delay of the class taken so many times. -/
theorem nearest_incrementedDelay (cls : MessageClass) (times : Int) :
    IntegerWidth.int64.Nearest (cls.delay * times) (incrementedDelay cls times) :=
  IntegerWidth.int64.nearest_clamp (cls.delay * times)

example : incrementedDelay PublishRequest.overdueTicks (-1) = 2 ^ 63 - 1 := by decide

def Carries (publication : Publication) (delay : Int) : Prop :=
  SortedTable.find? delayHeader publication.headers = some (Header.ofInt delay)

end Publication

/-! ## Resubmissions -/

/-- A payload that is to be published again, after a number of times the delay of its class, and
the context that is current then. -/
structure Resubmission where
  payload : JsonPayload
  times : Int
  context : Trace.Context

namespace Resubmission

def request (again : Resubmission) : PublishRequest :=
  .directJsonIncremented again.payload again.times

/-- A resubmission comes to a publication if the class is on and the payload can be written. -/
def comesOut (cls : MessageClass) (again : Resubmission) : Bool :=
  cls.enabled && again.payload.encode?.isOk

/-- What a resubmission hands over. -/
def publication? (cls : MessageClass) (again : Resubmission) : Option Publication :=
  if cls.enabled then
    again.payload.encode?.toOption.map (again.request.publication cls again.context)
  else none

def sendAll (publisher : Publisher σ) (cls : MessageClass) : List Resubmission → σ → σ
  | [], state => state
  | again :: rest, state =>
      sendAll publisher cls rest (again.request.send publisher cls again.context state).2

theorem send_recorded (publisher : Publisher σ) (cls : MessageClass) (again : Resubmission)
    (state : σ × List Publication) :
    ∃ next, (again.request.send publisher.recorded cls again.context state).2 =
      (next, state.2 ++ (again.publication? cls).toList) := by
  cases on : cls.enabled with
  | false =>
      refine ⟨state.1, ?_⟩
      rw [PublishRequest.send_switchedOff on]
      simp [publication?, on]
  | true =>
      rw [PublishRequest.send_switchedOn on]
      have octets : again.request.octets? = again.payload.encode? := rfl
      rw [octets]
      cases written : again.payload.encode? with
      | error failure => exact ⟨state.1, by simp [publication?, on, written, Except.toOption]⟩
      | ok octets =>
          refine ⟨(publisher (again.request.publication cls again.context octets) state.1).2, ?_⟩
          simp [publication?, on, written, Except.toOption, Publisher.recorded]

/-- What a sequence of resubmissions hands over: for each that comes out its publication, in
order. -/
theorem sendAll_recorded (publisher : Publisher σ) (cls : MessageClass)
    (attempts : List Resubmission) (state : σ × List Publication) :
    (sendAll publisher.recorded cls attempts state).2 =
      state.2 ++ attempts.filterMap (publication? cls) := by
  induction attempts generalizing state with
  | nil => simp [sendAll]
  | cons again rest ih =>
      obtain ⟨next, sent⟩ := send_recorded publisher cls again state
      rw [sendAll, sent, ih]
      cases handed : again.publication? cls <;> simp [handed]

theorem isSome_publication? (cls : MessageClass) (again : Resubmission) :
    (again.publication? cls).isSome = again.comesOut cls := by
  rw [publication?, comesOut]
  cases cls.enabled <;> cases again.payload.encode? <;> rfl

/-- The context of a resubmission leaves the header of the delay alone. -/
def Discreet (again : Resubmission) : Prop :=
  ∀ field ∈ again.context, Letters.lowercase field.1 ≠ Publication.delayHeader

theorem Discreet.carries {cls : MessageClass} {again : Resubmission} (discreet : again.Discreet)
    {publication : Publication} (handed : again.publication? cls = some publication) :
    publication.Carries (Publication.incrementedDelay cls again.times) := by
  rw [publication?] at handed
  split at handed
  · obtain ⟨octets, -, rfl⟩ := Option.map_eq_some_iff.mp handed
    rw [Publication.Carries, PublishRequest.find?_delayHeader_publication,
      Trace.Context.written?_eq_none_iff.mpr discreet]
    rfl
  · cases handed

def delays (cls : MessageClass) (attempts : List Resubmission) : List Int :=
  (attempts.filter (comesOut cls)).map fun again => Publication.incrementedDelay cls again.times

theorem carries_delays (cls : MessageClass) {attempts : List Resubmission}
    (discreet : ∀ again ∈ attempts, again.Discreet) :
    List.Forall₂ Publication.Carries (attempts.filterMap (publication? cls))
      (delays cls attempts) := by
  induction attempts with
  | nil => exact .nil
  | cons again rest ih =>
      obtain ⟨first, later⟩ := List.forall_mem_cons.mp discreet
      have out := isSome_publication? cls again
      unfold delays
      cases handed : again.publication? cls with
      | none =>
          rw [handed, Option.isSome_none] at out
          rw [List.filterMap_cons_none handed, List.filter_cons_of_neg (by simp [← out])]
          exact ih later
      | some publication =>
          rw [handed, Option.isSome_some] at out
          rw [List.filterMap_cons_some handed, List.filter_cons_of_pos out.symm]
          exact .cons (first.carries handed) (ih later)

/-- More times never come to less, if the delay of the class is not negative. -/
theorem pairwise_delays {cls : MessageClass} (waits : 0 ≤ cls.delay)
    {attempts : List Resubmission} (growing : (attempts.map times).Pairwise (· ≤ ·)) :
    (delays cls attempts).Pairwise (· ≤ ·) := by
  rw [delays, List.pairwise_map]
  apply List.Pairwise.imp _ ((List.pairwise_map.mp growing).filter _)
  intro again later le
  apply (Publication.nearest_incrementedDelay cls again.times).mono
    (Publication.nearest_incrementedDelay cls later.times)
  exact Int.mul_le_mul_of_nonneg_left le waits

end Resubmission

/-- **Resubmissions back off, and never wrap.** Take any resubmissions for a class, one after the
other, over any publisher, under contexts that leave the header of the delay alone. What is handed
over is one publication for each resubmission whose class is on and whose payload can be written.
Its header `x-delay` is the signed 64-bit number nearest to the product of the delay of the class
and the number of times, and has the sign of that product. If the delay of the class is not
negative and the numbers of times do not decrease, the delays do not decrease either. -/
theorem resubmissions_back_off (publisher : Publisher σ) (cls : MessageClass)
    {attempts : List Resubmission} (discreet : ∀ again ∈ attempts, again.Discreet) (state : σ) :
    ∃ delays : List Int,
      List.Forall₂ Publication.Carries
        (Resubmission.sendAll publisher.recorded cls attempts (state, [])).2 delays ∧
      List.Forall₂ (fun (again : Resubmission) delay =>
          IntegerWidth.int64.Nearest (cls.delay * again.times) delay ∧
            delay.sign = (cls.delay * again.times).sign)
        (attempts.filter (Resubmission.comesOut cls)) delays ∧
      (0 ≤ cls.delay → (attempts.map Resubmission.times).Pairwise (· ≤ ·) →
        delays.Pairwise (· ≤ ·)) := by
  refine ⟨Resubmission.delays cls attempts, ?_, ?_,
    fun waits growing => Resubmission.pairwise_delays waits growing⟩
  · rw [Resubmission.sendAll_recorded, List.nil_append]
    exact Resubmission.carries_delays cls discreet
  · rw [Resubmission.delays, List.forall₂_map_right_iff, List.forall₂_same]
    intro again _
    have near := Publication.nearest_incrementedDelay cls again.times
    exact ⟨near, near.sign_eq (by decide) (by decide)⟩

/-! ## Poles -/

/-- A class of a delay that fits once and not twice. -/
def slowTicks : MessageClass := { ticks with delay := 2 ^ 62 }

/-- Resubmissions from below zero up to beyond the bound; one of the payloads cannot be written. -/
def climbing : List Resubmission :=
  [⟨.value .null, -3, []⟩, ⟨.unwritable "unsupported value", 0, []⟩,
    ⟨.value (.boolean true), 1, [("traceparent", "00-1")]⟩, ⟨.value .null, 2, []⟩,
    ⟨.value .null, 2 ^ 63 - 1, []⟩]

theorem discreet_climbing : ∀ again ∈ climbing, again.Discreet := by
  simp only [climbing, List.forall_mem_cons, Resubmission.Discreet]
  decide +kernel

/-- The delays climb from the least number to the greatest and stay there. -/
theorem resubmissions_back_off_climbing :
    (∀ again ∈ climbing, again.Discreet) ∧ 0 ≤ slowTicks.delay ∧
      (climbing.map Resubmission.times).Pairwise (· ≤ ·) ∧
      ∃ delays : List Int,
        List.Forall₂ Publication.Carries
          (Resubmission.sendAll (PublishRequest.answering (.ok ())).recorded slowTicks climbing
            ((), [])).2 delays ∧
          delays.Pairwise (· ≤ ·) ∧ delays = [-2 ^ 63, 2 ^ 62, 2 ^ 63 - 1, 2 ^ 63 - 1] := by
  have waits : 0 ≤ slowTicks.delay := by decide
  have growing : (climbing.map Resubmission.times).Pairwise (· ≤ ·) := by decide
  obtain ⟨delays, carried, nearest, grow⟩ := resubmissions_back_off
    (PublishRequest.answering (.ok ())) slowTicks discreet_climbing ()
  refine ⟨discreet_climbing, waits, growing, delays, carried, grow waits growing, ?_⟩
  obtain _ | ⟨⟨first, -⟩, _ | ⟨⟨second, -⟩, _ | ⟨⟨third, -⟩, _ | ⟨⟨fourth, -⟩, _ | _⟩⟩⟩⟩ :=
    nearest
  rw [first.below (by decide), second.exact (by decide), third.above (by decide),
    fourth.above (by decide)]
  decide

end Redelivery
