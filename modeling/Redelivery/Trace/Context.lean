import Redelivery.Header
import Redelivery.Text.Lowercase
/-!
# Trace contexts

A trace context is the list of fields that a propagator passes along with a
message. `Context.inject` writes each field into the headers as a long text under
its lower-case name; `Context.extract` is what a propagator makes of the headers. The
propagator is whatever is installed: all that it is given is the text under a name
and the names there are, and `Propagator.Reads` says which names it looks for.
-/

namespace Redelivery.Trace

set_option autoImplicit false

/-- The fields of a trace context, in order. -/
abbrev Context := List (String × String)

/-- Sets one field among the headers. -/
def setField (headers : Headers) (name value : String) : Headers :=
  headers.insert (Letters.lowercase name) (Header.ofText value)

/-- The value of a field among the headers. -/
def field? (headers : Headers) (name : String) : Option String :=
  (SortedTable.find? name headers).bind Header.text?

/-- What a propagator makes of the text under each name and of the names that there are. -/
structure Propagator where
  extract : (String → Option String) → List String → Context

namespace Propagator

/-- A propagator looks for these names in their order, and keeps what it finds. -/
def Reads (propagator : Propagator) (names : List String) : Prop :=
  ∀ (text? : String → Option String) (present : List String),
    propagator.extract text? present = names.filterMap fun name => (text? name).map (name, ·)

def ofNames (names : List String) : Propagator where
  extract text? _ := names.filterMap fun name => (text? name).map (name, ·)

theorem ofNames_reads (names : List String) : (ofNames names).Reads names := fun _ _ => rfl

/-- The names of a trace, its state and its baggage. -/
def fieldNames : List String := ["traceparent", "tracestate", "baggage"]

/-- The propagator of a trace, its state and its baggage. -/
def standard : Propagator := ofNames fieldNames

theorem standard_reads : standard.Reads fieldNames := ofNames_reads fieldNames

end Propagator

namespace Context

/-- Writes a context into headers, field by field. -/
def inject (context : Context) (headers : Headers) : Headers :=
  context.foldl (fun headers field => setField headers field.1 field.2) headers

/-- The context that a propagator finds in headers. -/
def extract (propagator : Propagator) (headers : Headers) : Context :=
  propagator.extract (field? headers) headers.names

end Context

end Redelivery.Trace
