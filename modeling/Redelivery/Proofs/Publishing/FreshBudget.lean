import Redelivery.Proofs.Delivery.Counting
import Redelivery.Proofs.Publishing.DelayHeader
/-!
# A published message has its tries before it

What a counter reads off a message it reads under one name, or off the broker's mark
(`RetryCounter.source?`). A trace context leaves texts among the headers and nothing else, a
request puts the delay there, and a copy that goes to junk is made without the headers of the
delivery that it is made of. None of this is a number or a record of deaths, but the delay under
its own name. So on the first delivery of a message, however it came to be published, every counter
reads nothing, and a message from junk that is offered again is tried as often as a new one.

* `unspent_of_texts`: what texts in the places that a counter looks at come to, over whole runs.
* `Desk.process_keeps`: what no errand of a delivery spoils, the delivery does not spoil.
* `published_unspent`: the six requests, and the copies that deliveries send to junk.
-/

namespace Redelivery

set_option autoImplicit false

/-! ## What a counter looks at -/

/-- Nothing stands under a name, or a text. -/
def TextAt (headers : Headers) (name : String) : Prop :=
  SortedTable.find? name headers = none ∨
    ∃ text, SortedTable.find? name headers = some (Header.ofText text)

theorem textAt_inject (context : Trace.Context) {headers : Headers} {name : String}
    (absent : SortedTable.find? name headers = none) :
    TextAt (context.inject headers) name := by
  have either := context.find?_inject name headers
  rwa [absent] at either

theorem DeathRecord.items_of_textAt {headers : Headers}
    (text : TextAt headers RetryCounter.deathHeader) : items headers = [] := by
  rcases text with absent | ⟨text, found⟩
  · exact items_of_absent absent
  · rw [items, found]
    rfl

namespace RetryCounter

/-- The name under which a counter looks. -/
def source? : RetryCounter → Option String
  | deaths _ => some deathHeader
  | header name => some name
  | redelivery => none

theorem count_of_textAt {counter : RetryCounter} {headers : Headers}
    (texts : ∀ name, counter.source? = some name → TextAt headers name) :
    counter.count headers false = 0 := by
  cases counter with
  | redelivery => rfl
  | deaths queue =>
      have uncycled : DeathRecord.Cycled .blank 0 headers :=
        DeathRecord.items_of_textAt (texts _ rfl)
      exact DeathRecord.count_of_cycled uncycled queue false
  | header name =>
      rcases texts name rfl with absent | ⟨text, found⟩
      · rw [count, absent]
        rfl
      · rw [count, found]
        rfl

theorem unnumbered_of_textAt {headers : Headers} (text : TextAt headers deathHeader) :
    Unnumbered headers := by
  rcases text with absent | ⟨text, found⟩
  · rw [Unnumbered, absent]
    rfl
  · rw [Unnumbered, found]
    rfl

end RetryCounter

/-- Under a counter, a message with these headers has all its tries before it. -/
structure Unspent (counter : RetryCounter) (headers : Headers) : Prop where
  /-- Nothing is counted on the first delivery. -/
  uncounted : counter.count headers false = 0
  /-- A message that is never handled stays in its queue for as many deliveries as the limit says;
  counted by death records, it is given up on the next. -/
  tried : ∀ {σ α : Type} {services : Services σ α} {consumption : Consumption α} {body : Octets}
    {data : α} {marks : Nat → Bool} {world : σ}, consumption.counter = counter →
    consumption.cls.enabled = true → consumption.decode body = .done data →
    (∀ turn, marks turn = false) →
    Voyage.Hopeless (Voyage.round services consumption body marks) (Voyage.begun headers world) →
    let sail (turns : Nat) : Voyage σ :=
      (Voyage.round services consumption body marks)^[turns] (Voyage.begun headers world)
    let bound := (max consumption.cls.limit 0).toNat
    (∀ turns ≤ bound, (sail turns).place = .ready) ∧
      ∀ queue, counter = .deaths queue → ∀ turns > bound,
        Voyage.Spent consumption.cls body
          ((List.range bound).map (fun turn => .retried turn) ++ [.exhausted bound]) (sail turns)

/-- Texts leave the budget unused, in the place where the counter looks and in that of the
death record. -/
theorem unspent_of_texts {counter : RetryCounter} {headers : Headers}
    (texts : ∀ name, counter.source? = some name → TextAt headers name)
    (unrecorded : TextAt headers RetryCounter.deathHeader) : Unspent counter headers where
  uncounted := RetryCounter.count_of_textAt texts
  tried := by
    intro σ α services consumption body data marks world counted enabled parses unmarked hopeless
      sail bound
    by_cases recorded : ∃ queue, counter = .deaths queue
    · obtain ⟨queue, rfl⟩ := recorded
      obtain ⟨ready, spent⟩ := Voyage.spent_of_deaths counted
        (DeathRecord.items_of_textAt unrecorded) enabled parses hopeless
      exact ⟨ready, fun _ _ => spent⟩
    · refine ⟨fun turns few => ?_, fun queue own => absurd ⟨queue, own⟩ recorded⟩
      by_cases more : 0 < consumption.cls.limit
      · have unmoved : ∀ queue, consumption.counter ≠ .deaths queue :=
          fun queue own => recorded ⟨queue, counted.symm.trans own⟩
        have below : consumption.counter.count headers (marks 0) < consumption.cls.limit := by
          rw [counted, unmarked, RetryCounter.count_of_textAt texts]
          exact more
        exact (Voyage.circling_of_unmoved unmoved
          (RetryCounter.unnumbered_of_textAt unrecorded) enabled parses
          (fun turn => unmarked _) hopeless below turns).ready
      · have undelivered : turns = 0 := by omega
        rw [undelivered]
        rfl

/-! ## What a request publishes -/

namespace PublishRequest

variable {σ : Type}

theorem exists_of_sent {publisher : Publisher σ} {cls : MessageClass} {context : Trace.Context}
    {request : PublishRequest} {state : σ} {publication : Publication}
    (sent : publication ∈ (request.send publisher.recorded cls context (state, [])).2.2) :
    ∃ octets, publication = request.publication cls context octets := by
  cases on : cls.enabled with
  | false =>
      rw [send_switchedOff on] at sent
      cases sent
  | true =>
      cases written : request.octets? with
      | error failure =>
          rw [send_switchedOn on, written] at sent
          cases sent
      | ok octets =>
          rw [sent_switchedOn on written] at sent
          exact ⟨octets, List.mem_singleton.mp sent⟩

theorem delay?_of_toJunk {cls : MessageClass} {request : PublishRequest}
    (junked : request.toJunk = true) : request.delay? cls = none := by
  cases request with
  | junk | junkJson => rfl
  | direct | directAfter | directJson | directJsonIncremented => cases junked

theorem textAt_publication (cls : MessageClass) (context : Trace.Context)
    {request : PublishRequest} (octets : Octets) {name : String}
    (other : request.toJunk = true ∨ name ≠ Publication.delayHeader) :
    TextAt (request.publication cls context octets).headers name := by
  refine textAt_inject context ?_
  rcases other with junked | other
  · rw [delay?_of_toJunk junked]
    rfl
  · cases request.delay? cls with
    | none => rfl
    | some delay => simp [SortedTable.find?, other]

theorem unspent_publication (cls : MessageClass) (context : Trace.Context)
    {request : PublishRequest} (octets : Octets) {counter : RetryCounter}
    (other : request.toJunk = true ∨ counter ≠ .header Publication.delayHeader) :
    Unspent counter (request.publication cls context octets).headers := by
  refine unspent_of_texts (fun name looked => ?_) ?_
  · refine textAt_publication cls context octets (other.imp_right ?_)
    rintro different rfl
    cases counter with
    | deaths queue => exact absurd (Option.some.inj looked) (by decide)
    | header name =>
        cases looked
        exact different rfl
    | redelivery => cases looked
  · exact textAt_publication cls context octets (.inr (by decide))

end PublishRequest

/-! ## What a delivery sends to junk -/

namespace Desk

variable {σ α : Type}

/-- The errands of a desk for a message preserve a property of its state. -/
structure Spares (desk : Desk σ α) (cls : MessageClass) (body : Octets) (holds : σ → Prop) :
    Prop where
  handling : ∀ data context state, holds state → holds (desk.handle data context state).2
  copying : ∀ state, holds state → holds (desk.sendJunk cls body state).2
  acknowledging : ∀ state, holds state → holds (desk.acknowledge state).2
  rejecting : ∀ requeue state, holds state → holds (desk.reject requeue state).2

namespace Spares

variable {desk : Desk σ α} {cls : MessageClass} {body : Octets} {holds : σ → Prop}
  (spares : desk.Spares cls body holds) {state : σ} (held : holds state)

include spares held

theorem archive (disposition : Disposition) (span : Trace.Span) :
    holds (desk.archive cls body disposition span state).2 := by
  have copied := spares.copying state held
  rw [Desk.archive]
  rcases told : desk.sendJunk cls body state with ⟨failure | _, middle⟩
  · rw [told] at copied
    have rejected := spares.rejecting false middle copied
    rcases last : desk.reject false middle with ⟨second | _, next⟩ <;>
      simpa [last] using rejected
  · rw [told] at copied
    have acknowledged := spares.acknowledging middle copied
    rcases last : desk.acknowledge middle with ⟨second | _, next⟩ <;>
      simpa [last] using acknowledged

theorem settleHandled (span : Trace.Span) : holds (desk.settleHandled span state).2 := by
  have acknowledged := spares.acknowledging state held
  rw [Desk.settleHandled]
  rcases last : desk.acknowledge state with ⟨failure | _, next⟩ <;>
    simpa [last] using acknowledged

theorem settleFailed (count : Int) (failure : Failure) (span : Trace.Span) :
    holds (desk.settleFailed cls body count failure span state).2 := by
  rw [Desk.settleFailed]
  split
  · have rejected := spares.rejecting false state held
    rcases last : desk.reject false state with ⟨second | _, next⟩ <;>
      simpa [last] using rejected
  · exact spares.archive held _ _

end Spares

/-- What no errand spoils, the delivery does not spoil. -/
theorem process_keeps {desk : Desk σ α} {consumption : Consumption α} {message : Message}
    {holds : σ → Prop} (spares : desk.Spares consumption.cls message.body holds) {state : σ}
    (held : holds state) : holds (desk.process consumption message state).2 := by
  rw [process, processTried]
  cases consumption.decode message.body with
  | panicked text => exact held
  | failed failure => exact spares.archive held _ _
  | done data =>
      have handled := spares.handling data (Trace.Span.opened desk.propagator
        consumption.cls.direct.queue message.headers).parent state held
      rcases told : desk.handle data (Trace.Span.opened desk.propagator
        consumption.cls.direct.queue message.headers).parent state with ⟨answer, middle⟩
      rw [told] at handled
      cases answer with
      | done => simpa [told] using spares.settleHandled handled _
      | failed failure => simpa [told] using spares.settleFailed handled _ failure _
      | panicked text => simpa [told] using spares.settleFailed handled _ _ _

end Desk

/-- The desk of services while a trace context is current, whose fields go with every copy. -/
def Services.deskUnder {σ α : Type} (services : Services σ α) (current : Trace.Context) :
    Desk σ α :=
  { services.desk with
    sendJunk := fun cls body => PublishRequest.sendJunk services.publish cls body current }

@[simp] theorem Services.deskUnder_nil {σ α : Type} (services : Services σ α) :
    services.deskUnder [] = services.desk := rfl

/-- The copies among the calls are those of a request for junk. -/
def CopiesOnly (cls : MessageClass) (current : Trace.Context) (body : Octets)
    (calls : List Call) : Prop :=
  ∀ publication answer, .published publication answer ∈ calls →
    publication = (PublishRequest.junk body).publication cls current body

theorem Services.deskUnder_spares {σ α : Type} (services : Services σ α) (cls : MessageClass)
    (current : Trace.Context) (body : Octets) :
    (services.recorded.deskUnder current).Spares cls body
      fun state => CopiesOnly cls current body state.2 := by
  have other : ∀ {calls : List Call} {call : Call}, CopiesOnly cls current body calls →
      (∀ publication answer, call ≠ .published publication answer) →
      CopiesOnly cls current body (calls ++ [call]) := by
    intro calls call copies silent publication answer member
    rcases List.mem_append.mp member with earlier | last
    · exact copies publication answer earlier
    · exact absurd (List.mem_singleton.mp last).symm (silent publication answer)
  refine ⟨fun _ _ _ copies => other copies nofun, fun state copies => ?_,
    fun _ copies => other copies nofun, fun _ _ copies => other copies nofun⟩
  cases on : cls.enabled with
  | false =>
      have unsent : ((services.recorded.deskUnder current).sendJunk cls body state).2 = state :=
        congrArg Prod.snd (PublishRequest.sendJunk_switchedOff on services.recorded.publish
          current body state)
      rwa [unsent]
  | true =>
      have sent : ((services.recorded.deskUnder current).sendJunk cls body state).2.2 =
          state.2 ++ [.published ((PublishRequest.junk body).publication cls current body) _] :=
        congrArg (fun told => told.2.2) (PublishRequest.sendJunk_switchedOn on
          services.recorded.publish current state body)
      intro publication answer member
      rw [sent] at member
      rcases List.mem_append.mp member with earlier | last
      · exact copies publication answer earlier
      · cases List.mem_singleton.mp last
        rfl

/-! ## Whatever is published -/

/-- **A published message has all its tries before it.** First, whatever a request hands over, under
any context and over any publisher, is unspent under every counter, but for that of the header
`x-delay` on the direct route. Second, so is every copy that a delivery sends to junk, whatever
headers the delivery had and whatever context is current, and it carries the octets that were
delivered. -/
theorem published_unspent {σ τ α : Type} (publisher : Publisher σ) (cls : MessageClass)
    (context : Trace.Context) (request : PublishRequest) (before : σ) (services : Services τ α)
    (consumption : Consumption α) (current : Trace.Context) (message : Message) (state : τ) :
    (∀ publication ∈ (request.send publisher.recorded cls context (before, [])).2.2,
      ∀ counter, (request.toJunk = true ∨ counter ≠ .header Publication.delayHeader) →
        Unspent counter publication.headers) ∧
    ∀ publication answer, .published publication answer ∈
        ((services.recorded.deskUnder current).process consumption message (state, [])).2.2 →
      publication.payload = message.body ∧ ∀ counter, Unspent counter publication.headers := by
  constructor
  · intro publication sent counter other
    obtain ⟨octets, rfl⟩ := PublishRequest.exists_of_sent sent
    exact PublishRequest.unspent_publication cls context octets other
  · intro publication answer copied
    have none : CopiesOnly consumption.cls current message.body [] := nofun
    have copies : CopiesOnly consumption.cls current message.body
        ((services.recorded.deskUnder current).process consumption message (state, [])).2.2 :=
      Desk.process_keeps (services.deskUnder_spares consumption.cls current message.body) none
    rw [copies publication answer copied]
    exact ⟨rfl, fun counter =>
      PublishRequest.unspent_publication consumption.cls current message.body (.inl rfl)⟩

/-! ## Poles -/

/-- A context that would pass for what counters read. -/
def forged : Trace.Context := [("X-Death", "9"), ("x-retry-count", "9"), ("X-Delay", "9")]

def illegible : Consumption Unit :=
  { twiceMore with decode := fun _ => .failed (.decodingPayload "no JSON") }

def overdue : Message where
  body := [1]
  headers := (DeathRecord.goRound illegible.cls)^[9] [("x-retry-count", .ofInt 9)]
  redelivered := true

def forgedCopy : Publication := (PublishRequest.junk [1]).publication illegible.cls forged [1]

/-- Neither the forged context nor the tries of the archived delivery are counted. -/
theorem published_unspent_forged :
    forgedCopy ∈ ((PublishRequest.junk [1]).send (PublishRequest.answering (.ok ())).recorded
        illegible.cls forged ((), [])).2.2 ∧
      (RetryCounter.header "x-retry-count").count forgedCopy.headers false = 0 ∧
      .published forgedCopy (.ok ()) ∈ ((panicking.recorded.deskUnder forged).process illegible
        overdue ((), [])).2.2 ∧
      (RetryCounter.deaths (some "direct")).count forgedCopy.headers false = 0 := by
  have on : illegible.cls.enabled = true := rfl
  have octets : (PublishRequest.junk [1]).octets? = .ok [1] := rfl
  have sent : forgedCopy ∈ ((PublishRequest.junk [1]).send
      (PublishRequest.answering (.ok ())).recorded illegible.cls forged ((), [])).2.2 := by
    rw [PublishRequest.sent_switchedOn on octets]
    exact List.mem_singleton_self _
  have copied : .published forgedCopy (.ok ()) ∈ ((panicking.recorded.deskUnder forged).process
      illegible overdue ((), [])).2.2 := List.mem_cons_self
  obtain ⟨published, archived⟩ := published_unspent (PublishRequest.answering (.ok ()))
    illegible.cls forged (.junk [1]) () panicking illegible forged overdue ()
  exact ⟨sent, (published forgedCopy sent _ (.inl rfl)).uncounted, copied,
    ((archived forgedCopy _ copied).2 _).uncounted⟩

end Redelivery
