import QueryGateway.Entity
import QueryGateway.Table

/-! # Counting the ends of a query

The last workers of a query each send one end-of-stream message per client. The client is told
when all of them have arrived. A count that is complete is forgotten, so that the next message
starts a new one.
-/

namespace QueryGateway

/-- The end-of-stream messages that are still awaited, for each client and query of which some have
arrived. -/
structure Countdown where
  counts : Table (ClientId × QueryId) Nat
  deriving DecidableEq

/-- What one end-of-stream message led to. -/
inductive Countdown.Step where
  | pending (remaining : Nat)
  | complete
  deriving DecidableEq, Repr

namespace Countdown

/-- No counts. -/
def empty : Countdown := ⟨.empty⟩

/-- Counts one message, the first one out of `expected`. -/
def observe (c : Countdown) (client : ClientId) (query : QueryId) (expected : Nat) :
    Step × Countdown :=
  let remaining := (c.counts.get? (client, query)).getD expected - 1
  if remaining = 0 then (.complete, ⟨c.counts.erase (client, query)⟩)
  else (.pending remaining, ⟨c.counts.insert (client, query) remaining⟩)

/-- How many messages are still awaited, if a count is in progress. -/
def remaining? (c : Countdown) (client : ClientId) (query : QueryId) : Option Nat :=
  c.counts.get? (client, query)

/-- Forgets a count. -/
def forget (c : Countdown) (client : ClientId) (query : QueryId) : Countdown :=
  ⟨c.counts.erase (client, query)⟩

/-- The number of counts in progress. -/
def size (c : Countdown) : Nat :=
  c.counts.size

end Countdown

end QueryGateway
