import QueryGateway.Client.Producer
import QueryGateway.Ingest.Session
import QueryGateway.Proofs.Ingest.Stream
import QueryGateway.Proofs.Queue.Headers
import QueryGateway.Proofs.Routing.Lookup
import QueryGateway.Proofs.Wire.ProducerFrames

/-! # Calls of a producer, and what becomes of them

A producer is asked for one thing after the other: to send a batch, or to say that a stream has
ended. Each call is one frame and one acknowledgement, and comes to a number of messages in the
queues of the queries that it names.
-/

namespace QueryGateway

open Ingest

namespace Producer

/-- What a producer is asked for. -/
inductive Call where
  | batch (queries : List QueryId) (records : List String)
  | finish (queries : List QueryId)

/-- How a call has ended. -/
inductive Reply where
  | batch (result : Except ClientError UInt64)
  | finish (result : Except ClientError Unit)

/-- The call has failed. -/
def Reply.failed : Reply → Bool
  | batch (.error _) | finish (.error _) => true
  | batch (.ok _) | finish (.ok ()) => false

/-- The number that a call has returned. -/
def Reply.number? : Reply → Option UInt64
  | batch (.ok id) => some id
  | batch (.error _) | finish _ => none

namespace Call

def queries : Call → List QueryId
  | batch queries _ | finish queries => queries

def records : Call → List String
  | batch _ records => records
  | finish _ => []

def isBatch : Call → Bool
  | batch _ _ => true
  | finish _ => false

def header (p : Producer) : Call → Header
  | batch queries _ => p.header queries (.batch p.nextBatch)
  | finish queries => p.header queries .endOfStream

/-- The frame that is sent for a call. -/
def frame (p : Producer) (call : Call) : String :=
  Batch.encode (call.header p) call.records

/-- Makes a call. The producer after it is returned too. -/
def run (p : Producer) : Call → Program Wire (Reply × Producer)
  | batch queries records => do
    let (result, p) ← p.sendBatch queries records
    return (.batch result, p)
  | finish queries => do
    let result ← p.sendEnd queries
    return (.finish result, p)

def reply (p : Producer) : Call → Reply
  | batch _ _ => .batch (.ok p.nextBatch)
  | finish _ => .finish (.ok ())

/-- The producer after a call that has succeeded. -/
def next (p : Producer) : Call → Producer
  | batch _ _ => { p with nextBatch := p.nextBatch + 1 }
  | finish _ => p

/-- The messages that a call means for a query that `workers` workers read. -/
def messages (p : Producer) (query : QueryId) (workers : Nat) : Call → List Message
  | batch _ records =>
    [.batch query p.client p.nextBatch p.entity (.ofText (project p.entity records).body)]
  | finish _ => List.replicate workers (.endOfStream query p.client p.entity)

/-- A call ends the stream of a query that has a route. -/
def EndsRouted (routes : List Route) (entity : Entity) : Call → Prop
  | batch _ _ => False
  | finish queries => ∃ query ∈ queries, ∃ route ∈ routes, route.key = (query, entity)

/-- The router breaks off at the frame of a call. -/
def BreaksOff (r : Router) (p : Producer) : Call → Prop
  | batch _ _ => False
  | finish queries => r.BreaksOff (p.header queries .endOfStream)

instance (r : Router) (p : Producer) : DecidablePred (BreaksOff r p)
  | batch _ _ => inferInstanceAs (Decidable False)
  | finish queries => inferInstanceAs (Decidable (r.BreaksOff (p.header queries .endOfStream)))

/-- A call whose frame says what is meant, and fits. -/
structure IsProper (p : Producer) (call : Call) : Prop where
  writable : (call.header p).IsWritable
  oneLine : ∀ record ∈ call.records, '\n' ∉ record.toList
  fits : Fits (call.frame p)

instance (p : Producer) : DecidablePred (IsProper p) := fun call =>
  decidable_of_iff ((call.header p).IsWritable ∧
    (∀ record ∈ call.records, '\n' ∉ record.toList) ∧ Fits (call.frame p))
    ⟨fun ⟨h₁, h₂, h₃⟩ => ⟨h₁, h₂, h₃⟩, fun ⟨h₁, h₂, h₃⟩ => ⟨h₁, h₂, h₃⟩⟩

variable (p : Producer) (call : Call)

@[simp] theorem queries_header : (call.header p).queries = call.queries := by
  cases call <;> rfl

@[simp] theorem entity_header : (call.header p).entity = p.entity := by
  cases call <;> rfl

@[simp] theorem entity_next : (call.next p).entity = p.entity := by
  cases call <;> rfl

/-- The router breaks off at a call just if it cannot count its attempts, and has somebody to
tell. -/
theorem breaksOff_iff {r : Router} {routes : List Route} {counts : List (QueryId × Nat)}
    (hbuild : Tables.build routes counts = .ok r.tables) :
    call.BreaksOff r p ↔
      r.retries.toNat + 1 = UInt32.size ∧ call.EndsRouted routes p.entity := by
  cases call with
  | batch queries records => simp [BreaksOff, EndsRouted]
  | finish queries => exact and_congr_right fun _ => Router.hasWorkers_iff hbuild

end Call

/-! ## The producer's side -/

variable {p : Producer} {call : Call}

/-- A program that reads next, and has a result if it reads `answer`. -/
def Awaits (program : Program Wire α) (answer : String) (result : α) : Prop :=
  ∃ next, program = .perform .read next ∧ next (.ok answer) = .done result

/-- A program that writes a text next, and then awaits the answer. -/
def Asks (program : Program Wire α) (text answer : String) (result : α) : Prop :=
  ∃ next, program = .perform (.write text) next ∧ Awaits (next (.ok ())) answer result

theorem Asks.bind {program : Program Wire α} {text answer : String} {a : α} {b : β}
    {f : α → Program Wire β} (h : Asks program text answer a) (hf : f a = .done b) :
    Asks (program >>= f) text answer b := by
  obtain ⟨first, rfl, second, hfirst, hsecond⟩ := h
  refine ⟨_, rfl, fun result => second result >>= f, ?_, ?_⟩
  · exact congrArg (· >>= f) hfirst
  · exact (congrArg (· >>= f) hsecond).trans hf

theorem asks_send (h : Header) (records : List String) :
    Asks (send h records) (Batch.encode h records) (Ack.ofHeader h).text (.ok ()) :=
  ⟨_, rfl, _, rfl, congrArg Program.done (checkAck_text (.ofHeader h))⟩

/-- A call sends its frame, and succeeds when the acknowledgement comes. -/
theorem Call.IsProper.asks_run (h : call.IsProper p) :
    Asks (call.run p) (call.frame p) (Ack.ofHeader (call.header p)).text
      (call.reply p, call.next p) := by
  have hcheck : p.checkQueries call.queries = .ok () := by
    apply checkQueries_eq_ok
    intro hprimary
    have hsingle := h.writable.single
    rw [Call.entity_header, Call.queries_header] at hsingle
    exact hsingle hprimary
  cases call with
  | batch queries records =>
      have hsent : Asks (p.sendBatch queries records) ((Call.batch queries records).frame p)
          (Ack.ofHeader ((Call.batch queries records).header p)).text
          (.ok p.nextBatch, (Call.batch queries records).next p) := by
        rw [Call.queries] at hcheck
        rw [sendBatch, hcheck]
        exact (asks_send (p.header queries (.batch p.nextBatch)) records).bind rfl
      exact hsent.bind rfl
  | finish queries =>
      have hsent : Asks (p.sendEnd queries) ((Call.finish queries).frame p)
          (Ack.ofHeader ((Call.finish queries).header p)).text (.ok ()) := by
        rw [Call.queries] at hcheck
        rw [sendEnd, hcheck]
        exact asks_send (p.header queries .endOfStream) []
      exact hsent.bind rfl

end Producer

/-! ## The session's side -/

theorem Session.smooth_turn_of_handle {r : Router} {s s' : SessionSummary} {payload : String}
    {requests : List Ingest.Request} (h : smooth (Session.handle r s payload) = (requests, .ok s')) :
    smooth (Session.turn r s (some (.ok payload))) = (requests, .again s') := by
  rw [Session.turn, smooth_bind, h]
  exact Prod.ext (List.append_nil requests) rfl

namespace Producer

variable {p : Producer} {call : Call}

/-- What is published for a call if nothing fails. -/
def Call.offers (r : Router) (p : Producer) (call : Call) : List (String × Message) :=
  call.queries.flatMap fun query =>
    r.address query p.entity (call.messages p query (r.workers query p.entity))

/-- For the frame of a call a session publishes what the call means, answers, and goes on. -/
theorem Call.IsProper.smooth_turn (h : call.IsProper p) {r : Router} (hkept : ¬call.BreaksOff r p)
    (summary : SessionSummary) :
    ∃ summary', smooth (Session.turn r summary (some (.ok (call.frame p)))) =
      ((call.offers r p).map .ofOffer ++ [.acknowledge (.ofHeader (call.header p))],
        .again summary') := by
  have hparse := Batch.parse_encode h.writable call.records
  have hrecords := Batch.records_eq (h := call.header p) h.oneLine
  suffices hhandle : ∃ summary', smooth (Session.handle r summary (call.frame p)) =
      ((call.offers r p).map .ofOffer ++ [.acknowledge (.ofHeader (call.header p))],
        .ok summary') from
    hhandle.imp fun _ => Session.smooth_turn_of_handle
  rw [Session.handle, frame, hparse]
  cases call with
  | batch queries records =>
      have hroute : (smooth (r.routeBatch
          ⟨header p (.batch queries records), "\n".intercalate records⟩ p.nextBatch)).1 =
            (offers r p (.batch queries records)).map .ofOffer := by
        rw [Call.records] at hrecords
        rw [Router.routeBatch, hrecords, Router.smooth_publishBatch]
        simp only [entity_header, body_project_legible]
        rfl
      exact ⟨_, (smooth_bind _ _).trans (Prod.ext (congrArg (· ++ _) hroute) rfl)⟩
  | finish queries =>
      obtain ⟨reports, hroute⟩ := Router.smooth_fanOut (h := header p (.finish queries)) hkept
      refine ⟨{ summary.noteClient p.client with
        ends := summary.ends + 1
        fanOut := summary.fanOut ++ reports }, (smooth_bind _ _).trans ?_⟩
      simp only [hroute]
      rfl

/-- A session is over when its router breaks off. -/
theorem Call.IsProper.turn_of_breaksOff (h : call.IsProper p) {r : Router}
    (hbreaks : call.BreaksOff r p) (summary : SessionSummary) :
    Session.turn r summary (some (.ok (call.frame p))) =
      .done (.over (.error (.router .overflow))) := by
  cases call with
  | batch queries records => cases hbreaks
  | finish queries =>
      have hparse := Batch.parse_encode h.writable []
      have hroute : (r.fanOut (p.header queries .endOfStream)).run = _ :=
        Router.run_fanOut_eq_error hbreaks
      rw [Session.turn, Session.handle, frame, records, hparse]
      simp only [header, hroute]
      rfl

end Producer

/-! ## Calls one after the other -/

namespace Producer

def Accepts (p : Producer) : List Call → Prop
  | [] => True
  | call :: rest => call.IsProper p ∧ (call.next p).Accepts rest

instance decidableAccepts (p : Producer) : (calls : List Call) → Decidable (p.Accepts calls)
  | [] => isTrue trivial
  | call :: rest =>
    have := decidableAccepts (call.next p) rest
    inferInstanceAs (Decidable (_ ∧ _))

def replies (p : Producer) : List Call → List Reply
  | [] => []
  | call :: rest => call.reply p :: (call.next p).replies rest

def offers (r : Router) (p : Producer) : List Call → List (String × Message)
  | [] => []
  | call :: rest => call.offers r p ++ (call.next p).offers r rest

/-- The messages that calls mean for a query that `workers` workers read. -/
def stream (query : QueryId) (workers : Nat) (p : Producer) : List Call → List Message
  | [] => []
  | call :: rest =>
    (if query ∈ call.queries then call.messages p query workers else []) ++
      (call.next p).stream query workers rest

/-- The calls before the first one at which the router breaks off. -/
def kept (r : Router) (p : Producer) : List Call → List Call
  | [] => []
  | call :: rest => if call.BreaksOff r p then [] else call :: (call.next p).kept r rest

/-- What a queue has received, of all that was published. -/
def content (queue : String) (published : List (String × Message)) : List Message :=
  published.filterMap fun offer => if offer.1 = queue then some offer.2 else none

/-- Each stream of a producer is in the queue of its route, and nothing is anywhere else. -/
structure Served (routes : List Route) (p : Producer) (calls : List Call)
    (received : String → List Message) : Prop where
  stream : ∀ route ∈ routes, route.entity = p.entity →
    (received route.queue).filter (Message.isFor route.query) =
      p.stream route.query route.endCount calls
  routed : ∀ queue, ∀ m ∈ received queue, ∃ route ∈ routes, route.entity = p.entity ∧
    route.queue = queue ∧ m.isFor route.query = true

variable {p : Producer} {call : Call} {r : Router}

theorem length_replies (p : Producer) (calls : List Call) :
    (p.replies calls).length = calls.length := by
  induction calls generalizing p with
  | nil => rfl
  | cons call rest ih => exact congrArg (· + 1) (ih (call.next p))

/-- Whether a router breaks off does not depend on the calls before. -/
theorem Call.breaksOff_next_iff (call' : Call) :
    call'.BreaksOff r (call.next p) ↔ call'.BreaksOff r p := by
  cases call with
  | batch queries records => rfl
  | finish queries => rfl

theorem kept_append {before rest : List Call} (hbefore : ∀ call ∈ before, ¬call.BreaksOff r p)
    (hrest : ∀ call ∈ rest.head?, call.BreaksOff r p) : p.kept r (before ++ rest) = before := by
  induction before generalizing p with
  | nil =>
      cases rest with
      | nil => rfl
      | cons call more => exact if_pos (hrest call rfl)
  | cons call more ih =>
      obtain ⟨hcall, hmore⟩ := List.forall_mem_cons.mp hbefore
      rw [List.cons_append, kept, if_neg hcall, ih]
      · exact fun call' hmem => mt (Call.breaksOff_next_iff call').mp (hmore call' hmem)
      · exact fun call' hmem => (Call.breaksOff_next_iff call').mpr (hrest call' hmem)

theorem accepts_kept {calls : List Call} (h : p.Accepts calls) : p.Accepts (p.kept r calls) := by
  induction calls generalizing p with
  | nil => exact h
  | cons call rest ih =>
      rw [kept]
      split
      · trivial
      · exact ⟨h.1, ih h.2⟩

theorem numbers_replies (p : Producer) (calls : List Call) :
    (p.replies calls).filterMap Reply.number? =
      (List.range (calls.countP Call.isBatch)).map fun k => p.nextBatch + UInt64.ofNat k := by
  induction calls generalizing p with
  | nil => rfl
  | cons call rest ih =>
      cases call with
      | batch queries records =>
          have hnext : ∀ k, p.nextBatch + 1 + UInt64.ofNat k =
              p.nextBatch + UInt64.ofNat (k + 1) := by
            intro k
            rw [UInt64.ofNat_add, UInt64.add_comm (UInt64.ofNat k), ← UInt64.add_assoc]
            rfl
          have hfirst : (p.replies (.batch queries records :: rest)).filterMap Reply.number? =
              p.nextBatch :: ((Call.next p (.batch queries records)).replies rest).filterMap
                Reply.number? := rfl
          rw [hfirst, ih, List.countP_cons_of_pos rfl, List.range_succ_eq_map, List.map_cons,
            List.map_map]
          simp [Call.next, hnext, Function.comp_def]
      | finish queries =>
          have hfirst : (p.replies (.finish queries :: rest)).filterMap Reply.number? =
              (p.replies rest).filterMap Reply.number? := rfl
          rw [hfirst, ih, List.countP_cons_of_neg Bool.false_ne_true]

theorem Call.isFor_of_mem_messages {query : QueryId} {workers : Nat} {m : Message}
    (h : m ∈ call.messages p query workers) (query' : QueryId) :
    m.isFor query' = decide (query = query') := by
  apply Message.isFor_eq
  cases call with
  | batch queries records =>
      rw [List.mem_singleton.mp h]
      exact Message.query_batch _ _ _ _ _
  | finish queries =>
      rw [List.eq_of_mem_replicate h]
      exact Message.query_endOfStream _ _ _

theorem content_append (queue : String) (first second : List (String × Message)) :
    content queue (first ++ second) = content queue first ++ content queue second :=
  List.filterMap_append

theorem mem_content {queue : String} {published : List (String × Message)} {m : Message} :
    m ∈ content queue published ↔ (queue, m) ∈ published := by
  simp [content]

theorem mem_address {query : QueryId} {entity : Entity} {messages : List Message} {queue : String}
    {m : Message} :
    (queue, m) ∈ r.address query entity messages ↔
      r.tables.routing.queue? query entity = some queue ∧ m ∈ messages := by
  rw [Router.address]
  cases r.tables.routing.queue? query entity with
  | none => simp
  | some queue' => simp [and_comm]

/-- In its queue a query finds its own part of what is published for a call. -/
theorem Call.filter_content_offers (call : Call) {query : QueryId} {queue : String}
    (hqueue : r.tables.routing.queue? query p.entity = some queue)
    (hnodup : call.queries.Nodup) :
    (content queue (call.offers r p)).filter (Message.isFor query) =
      if query ∈ call.queries then
        call.messages p query (r.workers query p.entity)
      else [] := by
  rw [Call.offers]
  -- Queries may share a queue, so the messages of the others are there too, and are filtered out.
  generalize call.queries = queries at hnodup
  induction queries with
  | nil => rfl
  | cons head rest ih =>
      obtain ⟨hnot, hrest⟩ := List.nodup_cons.mp hnodup
      have hfor : ∀ m ∈ content queue (r.address head p.entity
          (call.messages p head (r.workers head p.entity))),
          m.isFor query = decide (head = query) := fun m hm =>
        isFor_of_mem_messages (mem_address.mp (mem_content.mp hm)).2 query
      rw [List.flatMap_cons, content_append, List.filter_append, ih hrest, List.filter_congr hfor]
      by_cases heq : head = query
      · subst heq
        simp [hnot, Router.address, hqueue, content, List.filterMap_map]
      · have hmem : query ∈ head :: rest ↔ query ∈ rest := by simp [Ne.symm heq]
        simp [heq, hmem]

theorem mem_offers {calls : List Call} {queue : String} {m : Message}
    (h : (queue, m) ∈ p.offers r calls) :
    ∃ query, r.tables.routing.queue? query p.entity = some queue ∧ m.isFor query = true := by
  induction calls generalizing p with
  | nil => cases h
  | cons call rest ih =>
      rcases List.mem_append.mp h with hcall | hrest
      · obtain ⟨query, -, hoffer⟩ := List.mem_flatMap.mp hcall
        obtain ⟨hqueue, hmem⟩ := mem_address.mp hoffer
        exact ⟨query, hqueue, by simp [Call.isFor_of_mem_messages hmem]⟩
      · obtain ⟨query, hqueue, hfor⟩ := ih hrest
        rw [Call.entity_next] at hqueue
        exact ⟨query, hqueue, hfor⟩

theorem filter_content_offers {query : QueryId} {queue : String} {workers : Nat}
    {calls : List Call} (hcalls : p.Accepts calls)
    (hqueue : r.tables.routing.queue? query p.entity = some queue)
    (hworkers : r.workers query p.entity = workers) :
    (content queue (p.offers r calls)).filter (Message.isFor query) =
      p.stream query workers calls := by
  induction calls generalizing p with
  | nil => rfl
  | cons call rest ih =>
      obtain ⟨hcall, hrest⟩ := hcalls
      have hnodup := hcall.writable.nodup
      rw [Call.queries_header] at hnodup
      have hhead := call.filter_content_offers hqueue hnodup
      rw [hworkers] at hhead
      rw [← Call.entity_next p call] at hqueue hworkers
      rw [offers, content_append, List.filter_append, hhead, ih hrest hqueue hworkers, stream]

/-- What is published for calls is what the routes say. -/
theorem served {routes : List Route} {counts : List (QueryId × Nat)}
    (hbuild : Tables.build routes counts = .ok r.tables) {calls : List Call}
    (hcalls : p.Accepts calls) :
    Served routes p calls fun queue => content queue (p.offers r calls) := by
  constructor
  · rintro route hroute hentity
    obtain ⟨hqueue, hcount⟩ := Tables.lookup_of_mem hbuild hroute
    rw [Route.key, hentity] at hqueue hcount
    have hworkers : r.workers route.query p.entity = route.endCount := by
      rw [Router.workers, Multiplicity.ingest?, hcount]
      rfl
    exact filter_content_offers hcalls hqueue hworkers
  · intro queue m hm
    obtain ⟨query, hqueue, hfor⟩ := mem_offers (mem_content.mp hm)
    obtain ⟨route, hroute, hkey, hname, -⟩ := Tables.exists_route hbuild hqueue
    obtain ⟨rfl, hentity⟩ := Prod.mk.inj hkey
    exact ⟨route, hroute, hentity, hname, hfor⟩

end Producer

end QueryGateway
