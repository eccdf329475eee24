import QueryGateway.Ingest.Router
import QueryGateway.Proofs.Program.Runs

/-! # Attempts to publish

Of the exchanges of a producer's session only the publishes reach the broker. A queue holds what it
accepted, in the order of the attempts; a publish that fails leaves it as it was.
-/

namespace QueryGateway.Ingest

/-- One attempt to publish, and whether the broker took the message. -/
structure Attempt where
  queue : String
  message : Message
  accepted : Bool

/-- What an exchange tried to publish. -/
def attempt? : Exchange Ingest → Option Attempt
  | ⟨.publish queue message, answer⟩ =>
    some ⟨queue, message, (answer : Except BrokerError Unit).isOk⟩
  | ⟨.pause _, _⟩ => none
  | ⟨.acknowledge _, _⟩ => none

/-- The attempts among the exchanges of a run, in order. -/
def tried (log : List (Exchange Ingest)) : List Attempt :=
  log.filterMap attempt?

@[simp] theorem tried_append (first second : List (Exchange Ingest)) :
    tried (first ++ second) = tried first ++ tried second :=
  List.filterMap_append

/-- The attempts at one message that came out so. -/
def tries (queue : String) (message : Message) (outcomes : List Bool) : List Attempt :=
  outcomes.map fun accepted => ⟨queue, message, accepted⟩

@[simp] theorem tries_cons (queue : String) (message : Message) (outcome : Bool)
    (outcomes : List Bool) :
    tries queue message (outcome :: outcomes) =
      ⟨queue, message, outcome⟩ :: tries queue message outcomes := rfl

@[simp] theorem tries_append (queue : String) (message : Message) (first second : List Bool) :
    tries queue message (first ++ second) =
      tries queue message first ++ tries queue message second :=
  List.map_append

/-- The messages that a queue took on behalf of a query. -/
def taken (queue : String) (query : QueryId) (attempts : List Attempt) : List Message :=
  (attempts.filter fun a => a.accepted ∧ a.queue = queue ∧
    a.message.header? MessageHeader.query.name = some query.text).map Attempt.message

@[simp] theorem taken_append (queue : String) (query : QueryId) (first second : List Attempt) :
    taken queue query (first ++ second) = taken queue query first ++ taken queue query second := by
  simp [taken]

variable {queue : String} {message : Message} {log : List (Exchange Ingest)}

theorem tried_publish {sent : Bool} (h : (publish queue message).Run log sent) :
    tried log = [⟨queue, message, sent⟩] := by
  obtain ⟨answer, rest, rfl, hrest⟩ := Program.Run.perform_iff.mp h
  obtain ⟨rfl, rfl⟩ := Program.Run.done_iff.mp hrest
  rfl

theorem tried_pause {milliseconds : Nat} {u : Unit} (h : (pause milliseconds).Run log u) :
    tried log = [] := by
  have hlog : log = [⟨.pause milliseconds, u⟩] := Program.Run.ask_iff.mp h
  rw [hlog]
  rfl

end QueryGateway.Ingest
