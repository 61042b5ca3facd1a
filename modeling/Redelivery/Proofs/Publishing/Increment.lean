import Redelivery.Proofs.Publishing.Effect
/-!
# Incremented delays

An incremented delay is the class's delay taken a number of times. Taken once it is that delay
(`Publication.incrementedDelay_one`), so the first resubmission of a JSON payload is the plain
request, but for one thing: the plain request writes the payload before it looks at the class,
the incremented one after.

`PublishRequest.agree_at_first_increment`: the two call the publisher alike over every publisher,
and come to the same unless the class is off and the payload cannot be written.
-/

namespace Redelivery

set_option autoImplicit false

variable {σ : Type}

namespace Publication

theorem saturate_of_holds {value : Int} (fits : IntegerWidth.int64.holds value = true) :
    saturate value = value := by
  obtain ⟨low, high⟩ := Bool.and_eq_true_iff.mp fits
  have low : -(Int.pow 2 63) ≤ value := of_decide_eq_true low
  have high : value ≤ Int.pow 2 63 - 1 := of_decide_eq_true high
  rw [saturate, min_eq_right high, max_eq_right low]

theorem incrementedDelay_one {cls : MessageClass}
    (fits : IntegerWidth.int64.holds cls.delay = true) : incrementedDelay cls 1 = cls.delay := by
  rw [incrementedDelay, Int.mul_one, saturate_of_holds fits]

end Publication

namespace PublishRequest

theorem send_congr_switchedOn {cls : MessageClass} (on : cls.enabled = true)
    {asked other : PublishRequest} (octets : asked.octets? = other.octets?)
    (delay : asked.delay? cls = other.delay? cls) (way : asked.toJunk = other.toJunk)
    (publisher : Publisher σ) (context : Trace.Context) (state : σ) :
    asked.send publisher cls context state = other.send publisher cls context state := by
  have handed : asked.publication cls context = other.publication cls context := by
    funext written
    simp only [publication, route, delay, way]
  have told : asked.reported cls = other.reported cls := by
    funext failure
    simp only [reported, way]
  rw [send_switchedOn on, send_switchedOn on, octets, handed, told]

/-- For a class that is off the two requests give one reason just when the payload can be written:
the plain one looks at the payload first. -/
theorem refusal_directJson {cls : MessageClass} {payload : JsonPayload} {times : Int} :
    (directJson payload).refusal cls = (directJsonIncremented payload times).refusal cls ↔
      ∃ octets, payload.encode? = .ok octets := by
  cases payload with
  | value content => exact ⟨fun _ => ⟨_, rfl⟩, fun _ => rfl⟩
  | unwritable reason => exact ⟨nofun, nofun⟩

/-- **The first increment is the plain request**: the calls are the same, and so is the outcome
unless the class is off and the payload cannot be written. Then the plain request says that of
the payload, and the incremented one that of the class. -/
theorem agree_at_first_increment {cls : MessageClass}
    (fits : IntegerWidth.int64.holds cls.delay = true) (payload : JsonPayload)
    (publisher : Publisher σ) (context : Trace.Context) (state : σ) :
    let plain := (directJson payload).send publisher.noted cls context (state, [])
    let first := (directJsonIncremented payload 1).send publisher.noted cls context (state, [])
    plain.2 = first.2 ∧
      (plain.1 = first.1 ↔ cls.enabled = true ∨ ∃ octets, payload.encode? = .ok octets) ∧
      ∀ failure, cls.enabled = false → payload.encode? = .error failure →
        plain = (.error failure, state, []) ∧
          first = (.error (.classDisabled cls.direct.queue), state, []) := by
  cases on : cls.enabled with
  | true =>
      have same : (directJson payload).send publisher.noted cls context (state, []) =
          (directJsonIncremented payload 1).send publisher.noted cls context (state, []) := by
        apply send_congr_switchedOn on
        · rfl
        · show some cls.delay = some (Publication.incrementedDelay cls 1)
          rw [Publication.incrementedDelay_one fits]
        · rfl
      exact ⟨by rw [same], ⟨fun _ => .inl rfl, fun _ => by rw [same]⟩, nofun⟩
  | false =>
      rw [send_switchedOff on, send_switchedOff on]
      refine ⟨rfl, ?_, ?_⟩
      · show Except.error _ = Except.error _ ↔ _
        rw [Except.error.injEq, refusal_directJson]
        exact ⟨.inr, fun either => either.resolve_left nofun⟩
      · intro failure _ unwritable
        refine ⟨?_, rfl⟩
        rw [refusal, unwritable]

/-! ## Poles -/

def overdueTicks : MessageClass := { ticks with delay := -(2 ^ 63) }

/-- Also at the bound, and for an answer that is a failure. -/
theorem agree_at_first_increment_overdue :
    IntegerWidth.int64.holds overdueTicks.delay = true ∧
      (directJson (.value (.boolean true))).send (answering (.error .notConnected)).noted
          overdueTicks [] ((), []) =
        (directJsonIncremented (.value (.boolean true)) 1).send
          (answering (.error .notConnected)).noted overdueTicks [] ((), []) := by
  have fits : IntegerWidth.int64.holds overdueTicks.delay = true := by decide
  obtain ⟨calls, outcome, -⟩ := agree_at_first_increment fits (.value (.boolean true))
    (answering (.error .notConnected)) [] ()
  exact ⟨fits, Prod.ext (outcome.mpr (.inl rfl)) calls⟩

/-- For a class that is off and a payload that cannot be written the two differ. -/
theorem first_increment_unlike_plain :
    hiddenTicks.enabled = false ∧
      (directJson (.unwritable "unsupported value")).send (answering (.ok ())).noted hiddenTicks []
          ((), []) ≠
        (directJsonIncremented (.unwritable "unsupported value") 1).send
          (answering (.ok ())).noted hiddenTicks [] ((), []) :=
  ⟨rfl, nofun⟩

end PublishRequest

end Redelivery
