import Mathlib.Data.List.Basic
import Redelivery.Proofs.Delivery.Counting
/-!
# The trace context of a delivery

A publisher writes the fields of its trace context into the headers of what it publishes, each
under its lower-case name. Whoever consumes the message reads three names back, opens one span
under what it finds, and hands the same to the handler. On the way the dead-letter route may
write its record; it touches no other header. Which names are read is a matter of the propagator
that is installed, and stands as a hypothesis on it (`Trace.Propagator.Reads`).

* `Trace.Context.extract_inject`: what is read back, for names in ASCII.
* `PublishRequest.sent_on_direct`: what a request on the direct route hands over.
* `Delivery.processTried_attended`, `Delivery.processTried_opening`: the contexts that the handler
  is given and the span of the report, whatever becomes of the delivery.
* `Trace.context_carried`: the whole trip, from one context to the other.
-/

namespace Redelivery

set_option autoImplicit false

/-! ## Lower case in ASCII -/

namespace Letters

def IsAscii (text : String) : Prop := ∀ c ∈ text.toList, c.toNat < 0x80

theorem lowerBetween_of_ascii {c : Char} (ascii : c.toNat < 0x80) (before after : List Char) :
    lowerBetween before c after = [c.toLower] := by
  have undotted : c.toNat ≠ 0x130 := by omega
  have unsigma : c.toNat ≠ 0x3A3 := by omega
  rw [lowerBetween, if_neg undotted, if_neg unsigma, lower, if_pos ascii]

theorem lowerFrom_of_ascii {characters : List Char} (ascii : ∀ c ∈ characters, c.toNat < 0x80)
    (before : List Char) : lowerFrom before characters = characters.map Char.toLower := by
  induction characters generalizing before with
  | nil => rfl
  | cons c rest ih =>
      rw [lowerFrom, lowerBetween_of_ascii (ascii c List.mem_cons_self),
        ih (fun each member => ascii each (List.mem_cons_of_mem _ member)), List.map_cons,
        List.singleton_append]

theorem lowercase_of_ascii {text : String} (ascii : IsAscii text) :
    lowercase text = text.toLower := by
  have lowered : text.toLower.toList = text.toList.map Char.toLower := String.toList_map
  rw [lowercase, lowerFrom_of_ascii ascii, ← lowered, String.ofList_toList]

end Letters

/-! ## Writing a context and reading it back -/

namespace Trace

namespace Context

/-- The value of the last field of a name, letter case aside. -/
def lastSet? (fields : Context) (name : String) : Option String :=
  (fields.reverse.find? fun field => field.1.toLower = name).map Prod.snd

/-- What is left of a context after the trip: of the names that travel those that were set,
each with the value of the last time. -/
def carried (fields : Context) : Context :=
  ["traceparent", "tracestate", "baggage"].filterMap fun name =>
    (fields.lastSet? name).map (name, ·)

variable {fields : Context} (ascii : ∀ field ∈ fields, Letters.IsAscii field.1)

include ascii

theorem lastSet?_eq_written? (name : String) : lastSet? fields name = written? fields name := by
  induction fields with
  | nil => rfl
  | cons field rest ih =>
      have lowered := Letters.lowercase_of_ascii (ascii field List.mem_cons_self)
      have later := ih fun each member => ascii each (List.mem_cons_of_mem _ member)
      rw [written?_cons, lowered, ← later, lastSet?, List.reverse_cons, List.find?_append,
        Option.map_or, lastSet?]
      by_cases own : field.1.toLower = name <;> simp [own]

/-- Among headers into which a context was written, the last value of a name is found, and
whatever stood there if the context does not have the name. -/
theorem field?_inject (headers : Headers) (name : String) :
    field? (inject fields headers) name = (lastSet? fields name).or (field? headers name) := by
  rw [field?, find?_inject_eq, lastSet?_eq_written? ascii]
  cases fields.written? name with
  | none => rfl
  | some value => exact Header.text?_ofText value

/-- What is read back of a context that was written: what it carries, if none of the
names stood among the headers before. -/
theorem extract_inject {propagator : Propagator} (reads : propagator.Reads Propagator.fieldNames)
    {headers : Headers} (unset : ∀ name ∈ Propagator.fieldNames, field? headers name = none) :
    extract propagator (inject fields headers) = carried fields := by
  rw [extract, reads]
  refine List.filterMap_congr fun name member => ?_
  rw [field?_inject ascii, unset name member, Option.or_none]

end Context

end Trace

/-! ## Publishing -/

def Publisher.recorded {σ : Type} (publisher : Publisher σ) : Publisher (σ × List Publication) :=
  fun publication state =>
    let told := publisher publication state.1
    (told.1, told.2, state.2 ++ [publication])

/-- A request for a publication of octets on the direct route. -/
inductive PublishRequest.OnDirect (cls : MessageClass) (payload : Octets) :
    Int → PublishRequest → Prop where
  | plain : OnDirect cls payload cls.delay (.direct payload)
  | delayed (delay : Int) : OnDirect cls payload delay (.directAfter payload delay)

/-- A request on the direct route hands over one publication, with the delay and the context
in its headers, or none if the class is switched off. -/
theorem PublishRequest.sent_on_direct {σ : Type} {cls : MessageClass} {payload : Octets}
    {delay : Int} {request : PublishRequest} (onDirect : OnDirect cls payload delay request)
    (publisher : Publisher σ) (fields : Trace.Context) (state : σ) :
    (request.send publisher.recorded cls fields (state, [])).2.2 =
      if cls.enabled then
        [⟨cls.direct.exchange, cls.direct.key, payload,
          fields.inject [(Publication.delayHeader, Header.ofInt delay)]⟩]
      else [] := by
  cases onDirect <;> by_cases enabled : cls.enabled = true <;>
    simp [send, sendDirect, Publication.direct, Publisher.recorded, enabled]

/-! ## Consuming -/

namespace Trace

def Span.opening (span : Span) : String × SpanKind × Context := (span.name, span.kind, span.parent)

end Trace

/-- The services with every context written down that the handler is given. -/
def Services.attended {σ α : Type} (services : Services σ α) :
    Services (σ × List Trace.Context) α where
  propagator := services.propagator
  handle data context state :=
    let told := services.handle data context state.1
    (told.1, told.2, state.2 ++ [context])
  publish publication state :=
    let told := services.publish publication state.1
    (told.1, told.2, state.2)
  acknowledge state :=
    let told := services.acknowledge state.1
    (told.1, told.2, state.2)
  reject requeue state :=
    let told := services.reject requeue state.1
    (told.1, told.2, state.2)

namespace Delivery

variable {σ α : Type} (services : Services σ α) (cls : MessageClass) (body : Octets)

/-! What settles a delivery asks no handler, and records on the span that it is given. -/

section Settling

variable (span : Trace.Span) (state : σ) (seen : List Trace.Context)

theorem archive_attended (disposition : Disposition) :
    archive services.attended cls body disposition span (state, seen) =
      ((archive services cls body disposition span state).1,
        (archive services cls body disposition span state).2, seen) := by
  simp only [archive, Desk.archive, Services.desk, PublishRequest.sendJunk]
  rcases Publication.junk cls body [] with failure | publication
  · rcases told : services.reject false state with ⟨_ | _, next⟩ <;>
      simp [Services.attended, told]
  · rcases sent : services.publish publication state with ⟨_ | _, next⟩
    · rcases told : services.reject false next with ⟨_ | _, last⟩ <;>
        simp [Services.attended, sent, told]
    · rcases told : services.acknowledge next with ⟨_ | _, last⟩ <;>
        simp [Services.attended, sent, told]

theorem archive_opening (disposition : Disposition) :
    (archive services cls body disposition span state).1.span.opening = span.opening := by
  unfold archive Desk.archive
  repeat' split
  all_goals rfl

theorem settleHandled_attended :
    settleHandled services.attended span (state, seen) =
      ((settleHandled services span state).1, (settleHandled services span state).2, seen) := by
  rcases told : services.acknowledge state with ⟨_ | _, next⟩ <;>
    simp [settleHandled, Desk.settleHandled, Services.desk, Services.attended, told]

theorem settleHandled_opening :
    (settleHandled services span state).1.span.opening = span.opening := by
  unfold settleHandled Desk.settleHandled
  split <;> rfl

theorem settleFailed_attended (count : Int) (failure : Failure) :
    settleFailed services.attended cls body count failure span (state, seen) =
      ((settleFailed services cls body count failure span state).1,
        (settleFailed services cls body count failure span state).2, seen) := by
  simp only [settleFailed, Desk.settleFailed, Services.desk]
  split
  · rcases told : services.reject false state with ⟨_ | _, next⟩ <;>
      simp [Services.attended, told]
  · exact archive_attended ..

theorem settleFailed_opening (count : Int) (failure : Failure) :
    (settleFailed services cls body count failure span state).1.span.opening = span.opening := by
  unfold settleFailed Desk.settleFailed
  split
  · split <;> rfl
  · exact archive_opening ..

end Settling

variable (decode : Octets → Attempt α) (count : Int) (message : Message) (state : σ)

/-- The contexts that the handler is given: one, if the message can be decoded. -/
def contextsGiven (decoded : Attempt α) (context : Trace.Context) : List Trace.Context :=
  match decoded with
  | .done _ => [context]
  | .failed _ | .panicked _ => []

/-- A delivery goes as it would unattended, and gives the handler what the headers carry. -/
theorem processTried_attended :
    processTried services.attended cls decode count message (state, []) =
      ((processTried services cls decode count message state).1,
        (processTried services cls decode count message state).2,
        contextsGiven (decode message.body) (.extract services.propagator message.headers)) := by
  have own : services.desk.propagator = services.propagator := rfl
  have same : services.attended.desk.propagator = services.propagator := rfl
  simp only [processTried, Desk.processTried, own, same]
  cases decode message.body with
  | panicked text => rfl
  | failed failure => exact archive_attended ..
  | done data =>
      simp only [Trace.Span.opened]
      generalize Trace.Context.extract services.propagator message.headers = context
      rcases told : services.desk.handle data context state with ⟨answer, next⟩
      have answered : services.handle data context state = (answer, next) := told
      have told' : services.attended.desk.handle data context (state, []) =
          (answer, next, [context]) := by
        simp [Services.desk, Services.attended, answered]
      simp only [told']
      cases answer with
      | done => exact settleHandled_attended ..
      | failed failure => exact settleFailed_attended ..
      | panicked text => exact settleFailed_attended ..

/-- However a delivery ends, its span is the one that was opened for it. -/
theorem processTried_opening :
    (processTried services cls decode count message state).1.span.opening =
      (cls.direct.queue, .consumer,
        Trace.Context.extract services.propagator message.headers) := by
  rw [processTried, Desk.processTried]
  cases decode message.body with
  | panicked text => rfl
  | failed failure => exact archive_opening ..
  | done data =>
      simp only
      split
      · exact settleHandled_opening ..
      · exact settleFailed_opening ..
      · exact settleFailed_opening ..

end Delivery

/-! ## The whole trip -/

theorem DeathRecord.find?_goRounds (cls : MessageClass) {name : String}
    (other : name ≠ RetryCounter.deathHeader) (rounds : Nat) (headers : Headers) :
    SortedTable.find? name ((goRound cls)^[rounds] headers) = SortedTable.find? name headers := by
  induction rounds generalizing headers with
  | zero => rfl
  | succ rounds ih =>
      rw [Function.iterate_succ_apply, ih, goRound, deadLetter, deadLetter,
        SortedTable.find?_insert_of_ne other, SortedTable.find?_insert_of_ne other]

theorem Trace.Context.extract_delivered {propagator : Propagator}
    (reads : propagator.Reads Propagator.fieldNames) {fields : Context}
    (ascii : ∀ field ∈ fields, Letters.IsAscii field.1) {delay : Int} {headers : Headers}
    (delivered : ∀ name, name ≠ RetryCounter.deathHeader → SortedTable.find? name headers =
      SortedTable.find? name (fields.inject [(Publication.delayHeader, Header.ofInt delay)])) :
    extract propagator headers = carried fields := by
  calc extract propagator headers
      = extract propagator
          (fields.inject [(Publication.delayHeader, Header.ofInt delay)]) := by
        rw [extract, extract, reads, reads]
        refine List.filterMap_congr fun name member => ?_
        have other : name ≠ RetryCounter.deathHeader := by
          rintro rfl
          exact absurd member (by decide)
        rw [field?, field?, delivered name other]
    _ = carried fields := by
        refine extract_inject ascii reads fun name member => ?_
        have other : name ≠ Publication.delayHeader := by
          rintro rfl
          exact absurd member (by decide)
        simp [field?, SortedTable.find?, other]

/-- **A trace context survives the trip from the publisher to the handler.** Whatever a request on
the direct route hands over, and however often it was dead-lettered since: when it is processed,
the one span is a consumer's, named for the direct queue, under the fields that were set last
under their names, and the handler is given the same if the message can be decoded. None of this
depends on what the services answer, on the counter or on how the delivery ends; the propagator
reads the three names in their order. -/
theorem Trace.context_carried {σ τ α : Type} {fields : Context}
    (ascii : ∀ field ∈ fields, Letters.IsAscii field.1) {cls : MessageClass} {payload : Octets}
    {delay : Int} {request : PublishRequest}
    (onDirect : PublishRequest.OnDirect cls payload delay request) (publisher : Publisher σ)
    (before : σ) {publication : Publication}
    (handed : publication ∈ (request.send publisher.recorded cls fields (before, [])).2.2)
    {message : Message}
    (delivered : ∀ name, name ≠ RetryCounter.deathHeader →
      SortedTable.find? name message.headers = SortedTable.find? name publication.headers)
    (services : Services τ α) (reads : services.propagator.Reads Propagator.fieldNames)
    (consumption : Consumption α) (state : τ) :
    let plain := Delivery.process services consumption message state
    (plain.1.span.name = consumption.cls.direct.queue ∧ plain.1.span.kind = .consumer ∧
      plain.1.span.parent = fields.carried) ∧
    Delivery.process services.attended consumption message (state, []) =
      (plain.1, plain.2,
        Delivery.contextsGiven (consumption.decode message.body) fields.carried) := by
  rw [PublishRequest.sent_on_direct onDirect] at handed
  have published : publication.headers =
      fields.inject [(Publication.delayHeader, Header.ofInt delay)] := by
    split at handed
    · rw [List.mem_singleton.mp handed]
    · cases handed
  rw [published] at delivered
  have read := Context.extract_delivered reads ascii delivered
  intro plain
  constructor
  · have opened : plain.1.span.opening =
        (consumption.cls.direct.queue, .consumer,
          Context.extract services.propagator message.headers) :=
      Delivery.processTried_opening ..
    simpa only [Span.opening, Prod.mk.injEq, read] using opened
  · rw [← read]
    exact Delivery.processTried_attended ..

/-! ## Poles -/

/-- A context in which names come more than once, in more than one case, and beside others. -/
def mingled : Trace.Context :=
  [("TraceParent", "00-1"), ("X-Delay", "never"), ("BAGGAGE", "clé=ключ"), ("traceparent", "00-2")]

theorem isAscii_mingled : ∀ field ∈ mingled, Letters.IsAscii field.1 := by
  have all : mingled.all (fun field => field.1.toList.all fun c => c.toNat < 0x80) = true := by
    decide +kernel
  intro field member c inside
  simpa using List.all_eq_true.mp (List.all_eq_true.mp all field member) c inside

def refusing : Publisher Unit := fun _ world => (.error .notConnected, world)

def mingledOnce : Publication where
  exchange := ""
  key := ""
  payload := [1]
  headers := mingled.inject [(Publication.delayHeader, Header.ofInt 5)]

def mingledRetry : Message where
  body := [1]
  headers := (DeathRecord.goRound twiceMore.cls)^[2] mingledOnce.headers
  redelivered := true

/-- The handler of a dead-lettered message is given the last values, though it panics. -/
theorem context_carried_mingled :
    panicking.propagator.Reads Trace.Propagator.fieldNames ∧
      mingledOnce ∈ ((PublishRequest.directAfter [1] 5).send refusing.recorded twiceMore.cls mingled
        ((), [])).2.2 ∧
      (Delivery.process panicking twiceMore mingledRetry ()).1.span.parent =
        [("traceparent", "00-2"), ("baggage", "clé=ключ")] ∧
      (Delivery.process panicking.attended twiceMore mingledRetry ((), [])).2.2 =
        [[("traceparent", "00-2"), ("baggage", "clé=ключ")]] := by
  have handed : mingledOnce ∈
      ((PublishRequest.directAfter [1] 5).send refusing.recorded twiceMore.cls mingled
        ((), [])).2.2 := by
    rw [PublishRequest.sent_on_direct (.delayed 5)]
    exact List.mem_singleton_self _
  have left : mingled.carried = [("traceparent", "00-2"), ("baggage", "clé=ключ")] := by
    decide +kernel
  have delivered : ∀ name, name ≠ RetryCounter.deathHeader →
      SortedTable.find? name mingledRetry.headers = SortedTable.find? name mingledOnce.headers :=
    fun _ other => DeathRecord.find?_goRounds twiceMore.cls other 2 mingledOnce.headers
  have carried := Trace.context_carried isAscii_mingled (.delayed 5) refusing () handed delivered
    panicking Trace.Propagator.standard_reads twiceMore ()
  rw [left] at carried
  exact ⟨Trace.Propagator.standard_reads, handed, carried.1.2.2, congrArg (fun run => run.2.2) carried.2⟩

end Redelivery
