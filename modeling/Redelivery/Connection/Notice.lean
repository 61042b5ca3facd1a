/-!
# Notices of lost connections

A notice says which connection was lost, by its generation, and why. Notices travel
in one stream, which is handed out at most once: the first `take` gets it, unless the
stream was closed before. A notice raised while nobody reads is dropped. Closing ends
the stream after the notices that were raised before.
-/

namespace Redelivery

set_option autoImplicit false

/-- The loss of the connection of a generation. -/
structure Notice where
  generation : Nat
  reason : String
  deriving DecidableEq

/-- The writing end of a stream of notices. -/
inductive NoticeSource where
  /-- The stream can still be handed out. -/
  | untaken
  | live
  | closed
  deriving DecidableEq

/-- A stream of notices: its writing end, and what its reader has not read yet, if
there is a reader. -/
structure NoticeStream where
  source : NoticeSource
  reader : Option (List Notice)
  deriving DecidableEq

/-- What a reader finds in its stream. -/
inductive Receipt where
  | notice (notice : Notice)
  /-- Nothing yet. -/
  | empty
  /-- Nothing, and nothing will come. -/
  | ended
  | noReader
  deriving DecidableEq

namespace NoticeStream

/-- The stream of a manager that was just made. -/
def untaken : NoticeStream := ⟨.untaken, none⟩

/-- Hands the stream out, if it can be; says whether it was. -/
def take (stream : NoticeStream) : Bool × NoticeStream :=
  match stream.source with
  | .untaken => (true, ⟨.live, some []⟩)
  | .live | .closed => (false, stream)

/-- Whether a notice raised now would be read. -/
def listening (stream : NoticeStream) : Bool :=
  decide (stream.source = .live) && stream.reader.isSome

/-- Puts a notice into the stream. -/
def raise (notice : Notice) (stream : NoticeStream) : NoticeStream :=
  if stream.source = .live then
    { stream with reader := stream.reader.map (· ++ [notice]) }
  else stream

/-- Raising a notice does not touch the writing end. -/
@[simp] theorem source_raise (notice : Notice) (stream : NoticeStream) :
    (stream.raise notice).source = stream.source := by
  simp only [raise]
  split <;> rfl

/-- Closes the writing end for good. -/
def close (stream : NoticeStream) : NoticeStream := { stream with source := .closed }

/-- The reader goes away, with what it has not read. -/
def abandon (stream : NoticeStream) : NoticeStream := { stream with reader := none }

/-- Reads the next notice. -/
def receive (stream : NoticeStream) : Receipt × NoticeStream :=
  match stream.reader with
  | none => (.noReader, stream)
  | some (notice :: rest) => (.notice notice, { stream with reader := some rest })
  | some [] => (if stream.source = .closed then .ended else .empty, stream)

/-- What waits to be read. -/
def pending (stream : NoticeStream) : List Notice := stream.reader.getD []

/-- Reads all that waits. -/
def drain (stream : NoticeStream) : List Notice × NoticeStream :=
  (stream.pending, { stream with reader := stream.reader.map fun _ => [] })

end NoticeStream

end Redelivery
