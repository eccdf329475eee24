import Mathlib.Logic.Function.Basic
import Mathlib.Logic.Relation
import QueryGateway.Proofs.Ingest.Calls
import QueryGateway.Proofs.Wire.Channel

/-! # Producers and their sessions

Any number of producers make their calls, each on a connection to a session of its own, and the
sessions share one broker, which takes every message. Bytes travel in pieces and as slowly as the
network likes, but none is lost; no session is stopped, or gives up on its producer. A session that
is over ends the connection of its producer. Who does the next step is left open.
-/

namespace QueryGateway

/-- What a session is doing. -/
inductive Session.Activity where
  | reading (summary : SessionSummary)
  | handling (program : Program Ingest Session.Turn)
  | stopped (result : Except SessionError SessionSummary)

/-- A producer and its session at a moment. -/
structure Uplink where
  producer : Producer
  /-- The calls that were not made yet. -/
  calls : List Producer.Call
  /-- What is left to do of the call that is being made. -/
  call : Option (Program Wire (Producer.Reply × Producer))
  replies : List Producer.Reply
  /-- The producer's end of the connection; the session has the far one. -/
  near : Channel
  far : Channel
  /-- The bytes on their way to the session; those on their way back are `down`. -/
  up : Bytes
  down : Bytes
  session : Session.Activity

namespace Uplink

def start (p : Producer) (calls : List Producer.Call) : Uplink where
  producer := p
  calls := calls
  call := none
  replies := []
  near := .opened
  far := .opened
  up := []
  down := []
  session := .reading .empty

/-- A step of a producer, of its session or of the network between them, with what it publishes. A
look that neither finds a frame nor takes in new bytes is no step. -/
inductive Step (r : Router) : Uplink → List (String × Message) → Uplink → Prop where
  | begin {u : Uplink} {call : Producer.Call} {rest : List Producer.Call} :
      u.call = none → u.calls = call :: rest →
      Step r u [] { u with calls := rest, call := some (call.run u.producer) }
  | write {u : Uplink} {payload : String} {written : Except WireError Bytes} {near : Channel}
      {next : Except WireError Unit → Program Wire (Producer.Reply × Producer)} :
      u.call = some (.perform (I := Wire) (.write payload) next) →
      u.near.send payload = (written, near) →
      Step r u [] { u with
        near
        up := u.up ++ written.toOption.getD []
        call := some (next (written.map fun _ => ())) }
  | read {u : Uplink} {result : Except WireError String} {near : Channel}
      {next : Except WireError String → Program Wire (Producer.Reply × Producer)} :
      u.call = some (.perform (I := Wire) .read next) → u.near.look = (some result, near) →
      Step r u [] { u with near, call := some (next result) }
  | wait {u : Uplink} {near : Channel}
      {next : Except WireError String → Program Wire (Producer.Reply × Producer)} :
      u.call = some (.perform (I := Wire) .read next) → u.near.look = (none, near) →
      near ≠ u.near → Step r u [] { u with near }
  | finish {u : Uplink} {reply : Producer.Reply} {producer : Producer} :
      u.call = some (.done (reply, producer)) →
      Step r u [] { u with producer, call := none, replies := u.replies ++ [reply] }
  | carryUp {u : Uplink} {piece rest : Bytes} :
      u.up = piece ++ rest → piece ≠ [] →
      Step r u [] { u with up := rest, far := u.far.receive piece }
  | carryDown {u : Uplink} {piece rest : Bytes} :
      u.down = piece ++ rest → piece ≠ [] →
      Step r u [] { u with down := rest, near := u.near.receive piece }
  | take {u : Uplink} {summary : SessionSummary} {result : Except WireError String}
      {far : Channel} :
      u.session = .reading summary → u.far.look = (some result, far) →
      Step r u [] { u with far, session := .handling (Session.turn r summary (some result)) }
  | await {u : Uplink} {summary : SessionSummary} {far : Channel} :
      u.session = .reading summary → u.far.look = (none, far) → far ≠ u.far →
      Step r u [] { u with far }
  | publish {u : Uplink} {queue : String} {m : Message}
      {next : Except BrokerError Unit → Program Ingest Session.Turn} :
      u.session = .handling (.perform (I := Ingest) (.publish queue m) next) →
      Step r u [(queue, m)] { u with session := .handling (next (.ok ())) }
  | pause {u : Uplink} {milliseconds : Nat} {next : Unit → Program Ingest Session.Turn} :
      u.session = .handling (.perform (I := Ingest) (.pause milliseconds) next) →
      Step r u [] { u with session := .handling (next ()) }
  | acknowledge {u : Uplink} {ack : Ack} {written : Except WireError Bytes} {far : Channel}
      {next : Except WireError Unit → Program Ingest Session.Turn} :
      u.session = .handling (.perform (I := Ingest) (.acknowledge ack) next) →
      u.far.send ack.text = (written, far) →
      Step r u [] { u with
        far
        down := u.down ++ written.toOption.getD []
        session := .handling (next (written.map fun _ => ())) }
  | turn {u : Uplink} {summary : SessionSummary} :
      u.session = .handling (.done (.again summary)) →
      Step r u [] { u with session := .reading summary }
  | stop {u : Uplink} {result : Except SessionError SessionSummary} :
      u.session = .handling (.done (.over result)) →
      Step r u [] { u with session := .stopped result }
  /-- Behind the last byte of a session that is over comes the end of the connection. -/
  | hangUp {u : Uplink} {result : Except SessionError SessionSummary} :
      u.session = .stopped result → u.down = [] → u.near.inlet.ended = false →
      Step r u [] { u with near := u.near.finish }
  /-- A frame can no longer be sent to a session that is over. -/
  | lose {u : Uplink} {result : Except SessionError SessionSummary} {payload : String}
      {written : Except WireError Bytes} {connection : Connection}
      {next : Except WireError Unit → Program Wire (Producer.Reply × Producer)} :
      u.session = .stopped result → u.call = some (.perform (I := Wire) (.write payload) next) →
      u.near.connection.write payload false = (written, connection) →
      Step r u [] { u with
        near := { u.near with connection }
        call := some (next (written.map fun _ => ())) }

end Uplink

/-- What a client has in mind for one of its producers. -/
structure Plan where
  entity : Entity
  client : ClientId
  calls : List Producer.Call

namespace Plan

def producer (plan : Plan) : Producer := .new plan.entity plan.client

def IsProper (plan : Plan) : Prop :=
  plan.producer.Accepts plan.calls

instance : DecidablePred IsProper := fun plan =>
  inferInstanceAs (Decidable (plan.producer.Accepts plan.calls))

/-- What the calls return if they all succeed. -/
def replies (plan : Plan) : List Producer.Reply :=
  plan.producer.replies plan.calls

/-- The calls before the first one at which the router breaks off. -/
def kept (r : Router) (plan : Plan) : List Producer.Call :=
  plan.producer.kept r plan.calls

/-- All attempts to tell the ends of the plan's streams can be counted, or nobody is to be told. -/
def IsTellable (routes : List Route) (retries : UInt32) (plan : Plan) : Prop :=
  retries.toNat + 1 < UInt32.size ∨ ∀ call ∈ plan.calls, ¬call.EndsRouted routes plan.entity

end Plan

/-- Producers with their sessions, and what was published by each of them. -/
structure Ingestion (n : Nat) where
  uplinks : Fin n → Uplink
  log : List (Fin n × String × Message)

namespace Ingestion

variable {n : Nat}

def start (plans : Fin n → Plan) : Ingestion n where
  uplinks i := .start (plans i).producer (plans i).calls
  log := []

/-- One of the uplinks has changed, and its session has published something. -/
def moved (s : Ingestion n) (i : Fin n) (u : Uplink) (published : List (String × Message)) :
    Ingestion n where
  uplinks := Function.update s.uplinks i u
  log := s.log ++ published.map (i, ·)

inductive Step (r : Router) : Ingestion n → Ingestion n → Prop where
  | move {s : Ingestion n} (i : Fin n) {published : List (String × Message)} {u : Uplink} :
      (s.uplinks i).Step r published u → Step r s (s.moved i u published)

/-- What can come of some plans. -/
def Reachable (r : Router) (plans : Fin n → Plan) (s : Ingestion n) : Prop :=
  Relation.ReflTransGen (Step r) (start plans) s

def publishedBy (s : Ingestion n) (i : Fin n) : List (String × Message) :=
  s.log.filterMap fun entry => if entry.1 = i then some entry.2 else none

/-- What a queue has received from one of the sessions, in order. -/
def received (s : Ingestion n) (i : Fin n) (queue : String) : List Message :=
  Producer.content queue (s.publishedBy i)

end Ingestion

end QueryGateway
