import Redelivery.Failure
import Redelivery.Trace.Context
/-!
# Spans

The span of a delivery: its name, its kind, the context it continues, and what happened to it
in order. `Span.opened` continues the context that a propagator finds in the headers of a
message.
-/

namespace Redelivery.Trace

set_option autoImplicit false

/-- What is recorded on a span. -/
inductive SpanEvent where
  | failure (failure : Failure)
  | succeeded
  | failed (description : String)
  deriving DecidableEq

/-- What part a span has in the traffic between processes. -/
inductive SpanKind where
  | client
  | server
  | producer
  | consumer
  | internal
  deriving DecidableEq

/-- The word for a kind in a trace. -/
def SpanKind.word : SpanKind → String
  | client => "Client"
  | server => "Server"
  | producer => "Producer"
  | consumer => "Consumer"
  | internal => "Internal"

/-- A span that follows one message. -/
structure Span where
  name : String
  kind : SpanKind
  parent : Context
  events : List SpanEvent
  deriving DecidableEq

namespace Span

/-- The span of a message with these headers. -/
def opened (propagator : Propagator) (name : String) (headers : Headers) : Span :=
  ⟨name, .consumer, Context.extract propagator headers, []⟩

/-- Records an event. -/
def record (span : Span) (event : SpanEvent) : Span :=
  { span with events := span.events ++ [event] }

end Span

end Redelivery.Trace
