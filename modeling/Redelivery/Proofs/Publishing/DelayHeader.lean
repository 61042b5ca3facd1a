import Redelivery.Proofs.Delivery.Tracing
import Redelivery.Proofs.Headers.Fields
import Redelivery.Proofs.Publishing.Effect
/-!
# The delay of a publication

A request on the direct route puts the delay that it asks for into the headers, and then the
fields of the trace context are written over them. So the header holds the delay as it was asked
for exactly if no field has its name, letter case aside (`PublishRequest.delay_kept_iff`). A field
of that name stands there instead, as a text, and on the junk route, where no delay is asked for,
it stands there too.
-/

namespace Redelivery

set_option autoImplicit false

variable {σ : Type}

namespace PublishRequest

theorem sent_switchedOn {cls : MessageClass} (on : cls.enabled = true) {request : PublishRequest}
    {octets : Octets} (written : request.octets? = .ok octets) (publisher : Publisher σ)
    (context : Trace.Context) (state : σ) :
    (request.send publisher.recorded cls context (state, [])).2.2 =
      [request.publication cls context octets] := by
  rw [send_switchedOn on, written]
  rfl

theorem find?_delayHeader_asked (delay : Option Int) :
    SortedTable.find? Publication.delayHeader
        (delay.elim [] fun delay => [(Publication.delayHeader, Header.ofInt delay)]) =
      delay.map Header.ofInt := by
  cases delay <;> rfl

/-- The header of the delay in what a request hands over. -/
theorem find?_delayHeader_publication (cls : MessageClass) (context : Trace.Context)
    (request : PublishRequest) (octets : Octets) :
    SortedTable.find? Publication.delayHeader (request.publication cls context octets).headers =
      ((context.written? Publication.delayHeader).map Header.ofText).or
        ((request.delay? cls).map Header.ofInt) := by
  rw [publication, Trace.Context.find?_inject_eq, find?_delayHeader_asked]

theorem ofText_ne_delay (text : String) (delay : Option Int) :
    some (Header.ofText text) ≠ delay.map Header.ofInt := by
  cases delay <;> simp [Header.ofText, Header.ofInt]

/-- **The header of the delay holds what the request asks for exactly if the context leaves it
alone.** A request for a class that is on hands over one publication. Its header `x-delay` is the
delay of the class, the delay that was given, or none on the junk route, if and only if no field of
the context has that name in any letter case; otherwise it is the text of the last such field. -/
theorem delay_kept_iff {cls : MessageClass} (on : cls.enabled = true) {request : PublishRequest}
    {octets : Octets} (written : request.octets? = .ok octets) (publisher : Publisher σ)
    (context : Trace.Context) (state : σ) :
    ∃ publication,
      (request.send publisher.recorded cls context (state, [])).2.2 = [publication] ∧
        publication.payload = octets ∧
        (SortedTable.find? Publication.delayHeader publication.headers =
            (request.delay? cls).map Header.ofInt ↔
          ∀ field ∈ context, Letters.lowercase field.1 ≠ Publication.delayHeader) ∧
        ∀ text, context.written? Publication.delayHeader = some text →
          SortedTable.find? Publication.delayHeader publication.headers =
            some (Header.ofText text) := by
  refine ⟨_, sent_switchedOn on written publisher context state, rfl, ?_, ?_⟩
  · rw [find?_delayHeader_publication, ← Trace.Context.written?_eq_none_iff]
    cases context.written? Publication.delayHeader with
    | none => exact ⟨fun _ => rfl, fun _ => rfl⟩
    | some text => exact ⟨fun same => absurd same (ofText_ne_delay text _), nofun⟩
  · intro text overwritten
    rw [find?_delayHeader_publication, overwritten]
    rfl

/-! ## Poles -/

/-- A context with the name of the delay among its fields, twice and in two letter cases. -/
def hasty : Trace.Context := [("x-delay", "0"), ("traceparent", "00-1"), ("X-Delay", "never")]

theorem written?_hasty : hasty.written? Publication.delayHeader = some "never" := by
  decide +kernel

/-- The last field of the name stands in the place of the delay that was given. -/
theorem delay_kept_iff_hasty :
    ticks.enabled = true ∧ (directAfter [1] 42).octets? = .ok [1] ∧
      ∃ publication,
        ((directAfter [1] 42).send (answering (.ok ())).recorded ticks hasty ((), [])).2.2 =
            [publication] ∧
          SortedTable.find? Publication.delayHeader publication.headers =
            some (Header.ofText "never") := by
  have on : ticks.enabled = true := rfl
  have octets : (directAfter [1] 42).octets? = .ok [1] := rfl
  obtain ⟨publication, sent, -, -, overwritten⟩ :=
    delay_kept_iff on octets (answering (.ok ())) hasty ()
  exact ⟨on, octets, publication, sent, overwritten "never" written?_hasty⟩

def hastyDelays (request : PublishRequest) : List (Option Header) :=
  (request.send (answering (.ok ())).recorded ticks hasty ((), [])).2.2.map fun publication =>
    SortedTable.find? Publication.delayHeader publication.headers

theorem hastyDelays_eq {request : PublishRequest} {octets : Octets}
    (written : request.octets? = .ok octets) :
    hastyDelays request = [some (Header.ofText "never")] := by
  rw [hastyDelays, sent_switchedOn rfl written, List.map_singleton, find?_delayHeader_publication,
    written?_hasty]
  rfl

/-- A field of that name takes the place of the delay, of the class's as of a given one, and
stands on the junk route where no delay was asked for. -/
theorem delay_overwritten :
    hastyDelays (direct [1]) = [some (Header.ofText "never")] ∧
      hastyDelays (directAfter [1] 42) = [some (Header.ofText "never")] ∧
      hastyDelays (junk [1]) = [some (Header.ofText "never")] :=
  ⟨hastyDelays_eq rfl, hastyDelays_eq rfl, hastyDelays_eq rfl⟩

end PublishRequest

end Redelivery
