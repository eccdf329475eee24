import Std.Async.Signal
import Std.Sync.CancellationToken

/-! # Telling the gateway to stop

Whatever waits in the gateway also waits for the word to stop.
-/

namespace QueryGateway.Live

/-- The word to stop. Once it is given it stays. -/
structure Stop where
  token : Std.CancellationToken

namespace Stop

/-- The word has not been given. -/
def new : IO Stop := return ⟨← Std.CancellationToken.new⟩

/-- Gives the word. -/
def give (stop : Stop) : IO Unit := stop.token.cancel

/-- Whether the word has been given. -/
def isGiven (stop : Stop) : IO Bool := stop.token.isCancelled

end Stop

/-- Waits until the user interrupts the program. -/
def waitForInterrupt : IO Unit := do
  let interrupt ← Std.Async.Signal.Waiter.mk .sigint false
  discard (← interrupt.wait).block

end QueryGateway.Live
