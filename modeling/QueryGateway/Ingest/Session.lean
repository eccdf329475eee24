import QueryGateway.Ingest.Router

/-! # Producers' sessions

A session handles the frames of one producer in their order: it publishes what a frame carries,
then acknowledges the frame, then turns to the next one. Frames without a readable header are
counted and not answered. The session ends when the producer does, when it sends nothing for too
long, when the gateway stops, and when the router breaks off.
-/

namespace QueryGateway

/-- What a session has done. -/
structure SessionSummary where
  /-- The client of the first frame. -/
  client : Option ClientId
  batches : Nat
  malformed : Nat
  /-- How many queries did not get a batch that named them. -/
  skipped : Nat
  ends : Nat
  fanOut : List FanOutReport
  deriving DecidableEq, Repr

namespace SessionSummary

/-- The summary of a session without frames. -/
def empty : SessionSummary := ⟨none, 0, 0, 0, 0, []⟩

/-- Notes the client of a frame. -/
def noteClient (s : SessionSummary) (client : ClientId) : SessionSummary :=
  { s with client := s.client.or (some client) }

end SessionSummary

/-- Why a session has failed. -/
inductive SessionError where
  /-- A frame could not be read, or not be acknowledged. -/
  | wire (error : WireError)
  | router (fault : RouterFault)
  deriving DecidableEq, Repr

/-- The text of the error. -/
def SessionError.message : SessionError → String
  | wire error => error.message
  | router fault => fault.message

namespace Session

/-- Acknowledges a frame. The session goes on with a summary, unless that fails. -/
def answer (h : Header) (summary : SessionSummary) :
    Program Ingest (Except SessionError SessionSummary) := do
  match ← Ingest.acknowledge (.ofHeader h) with
  | .ok () => return .ok summary
  | .error e => return .error (.wire e)

/-- Handles one frame. -/
def handle (r : Router) (summary : SessionSummary) (payload : String) :
    Program Ingest (Except SessionError SessionSummary) :=
  match Batch.parse payload with
  | .error _ => return .ok { summary with malformed := summary.malformed + 1 }
  | .ok batch => do
    let h := batch.header
    let summary := summary.noteClient h.client
    match h.marker with
    | .batch id =>
      let outcome ← r.routeBatch batch id
      answer h { summary with
        skipped := summary.skipped + outcome.skipped.length
        batches := summary.batches + 1 }
    | .endOfStream =>
      match ← (r.fanOut h).run with
      | .ok reports =>
        answer h { summary with
          ends := summary.ends + 1
          fanOut := summary.fanOut ++ reports }
      | .error fault => return .error (.router fault)

/-- What a read brings: a frame or a failure, or nothing because the gateway stops or no frame came
in time. -/
abbrev Read := Option (Except WireError String)

/-- Where a session is after a read. -/
inductive Turn where
  /-- It reads the next frame. -/
  | again (summary : SessionSummary)
  | over (result : Except SessionError SessionSummary)

/-- Does what a read asks for. -/
def turn (r : Router) (summary : SessionSummary) : Read → Program Ingest Turn
  | none => return .over (.ok summary)
  | some (.error e) => return .over (if e.endsStream then .ok summary else .error (.wire e))
  | some (.ok payload) => do
    match ← handle r summary payload with
    | .ok summary => return .again summary
    | .error e => return .over (.error e)

/-- Serves a producer whose reads come out so. Where they stop, the gateway stops. -/
def attend (r : Router) (summary : SessionSummary) :
    List Read → Program Ingest (Except SessionError SessionSummary)
  | [] => return .ok summary
  | read :: rest => do
    match ← turn r summary read with
    | .again summary => attend r summary rest
    | .over result => return result

end Session

end QueryGateway
