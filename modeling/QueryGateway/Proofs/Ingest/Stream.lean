import QueryGateway.Proofs.Ingest.FanOut

/-! # Streams without failures

If every request of the router succeeds, a stream puts one message into the queue of its query for
each batch, and then tells each of its workers once that the stream has ended.
-/

namespace QueryGateway

namespace Ingest

/-- The answer of a request that succeeds. -/
def success : (request : Interface.Request Ingest) → Interface.Answer Ingest request
  | .publish _ _ => .ok ()
  | .pause _ => ()
  | .acknowledge _ => .ok ()

/-- The requests of a program if they all succeed, and its result then. -/
def smooth : Program Ingest α → List Ingest.Request × α
  | .done a => ([], a)
  | .perform request next =>
    let (requests, a) := smooth (next (success request))
    (request :: requests, a)

theorem smooth_bind (p : Program Ingest α) (f : α → Program Ingest β) :
    smooth (p >>= f) =
      ((smooth p).1 ++ (smooth (f (smooth p).2)).1, (smooth (f (smooth p).2)).2) := by
  induction p with
  | done a => rfl
  | perform request next ih =>
      rw [Program.perform_bind, smooth, ih]
      rfl

theorem smooth_publish (queue : String) (m : Message) :
    smooth (publish queue m) = ([.publish queue m], true) := rfl

def Request.ofOffer (offer : String × Message) : Ingest.Request :=
  .publish offer.1 offer.2

theorem eq_done_of_smooth_eq_nil {p : Program Ingest α} (h : (smooth p).1 = []) :
    ∃ a, p = .done a := by
  cases p with
  | done a => exact ⟨a, rfl⟩
  | perform request next => cases h

/-- A program that has a last request to make is not at its end. -/
theorem smooth_done_ne {a b : α} {requests : List Ingest.Request} {request : Ingest.Request} :
    smooth (.done a) ≠ (requests ++ [request], b) := by
  intro h
  exact List.append_ne_nil_of_right_ne_nil requests (List.cons_ne_nil request [])
    (Prod.mk.inj h).1.symm

end Ingest

namespace Router

open Ingest

variable {r : Router} {queue : String} {m : Message}

theorem smooth_bind_of_ok {x : Task α} {f : α → Task β} {requests : List Ingest.Request} {a : α}
    (h : smooth x.run = (requests, .ok a)) :
    smooth (x >>= f).run = (requests ++ (smooth (f a).run).1, (smooth (f a).run).2) := by
  rw [ExceptT.run_bind, smooth_bind, h]

theorem smooth_publishWithin (left attempt : Nat) :
    smooth (publishWithin queue m (left + 1) attempt) = ([.publish queue m], true) := by
  rw [publishWithin, smooth_bind, smooth_publish]
  rfl

theorem smooth_publishEnd (h : r.retries.toNat + 1 < UInt32.size) :
    smooth (r.publishEnd queue m).run = ([.publish queue m], .ok true) := by
  rw [run_publishEnd_eq h, smooth_bind, smooth_publishWithin]
  rfl

theorem smooth_publishEnds {count : Nat}
    (hretries : r.retries.toNat + 1 < UInt32.size ∨ count = 0) :
    smooth (r.publishEnds queue m count).run =
      (List.replicate count (.publish queue m), .ok count) := by
  induction count with
  | zero => rfl
  | succ count ih =>
      have hlt := hretries.resolve_right (Nat.succ_ne_zero count)
      rw [publishEnds, smooth_bind_of_ok (smooth_publishEnd hlt), if_pos rfl,
        smooth_bind_of_ok (ih (.inl hlt))]
      simp [smooth, List.replicate_succ]

/-! ## What is published for several queries -/

/-- Messages for a query, with the name of its queue if it has one. -/
def address (r : Router) (query : QueryId) (entity : Entity) (messages : List Message) :
    List (String × Message) :=
  (r.tables.routing.queue? query entity).elim [] fun queue => messages.map (queue, ·)

variable {query : QueryId} {h : Header} {count : Nat}

theorem address_eq (hqueue : r.queue? h query = some queue) (messages : List Message) :
    r.address query h.entity messages = messages.map (queue, ·) := by
  rw [queue?] at hqueue
  rw [address, hqueue, Option.elim_some]

theorem address_eq_nil (hqueue : r.queue? h query = none) (messages : List Message) :
    r.address query h.entity messages = [] := by
  rw [queue?] at hqueue
  rw [address, hqueue, Option.elim_none]

theorem smooth_publishBatch (h : Header) (id : UInt64) (body : Bytes) (queries : List QueryId) :
    (smooth (r.publishBatch h id body queries)).1 = (queries.flatMap fun query =>
      r.address query h.entity [.batch query h.client id h.entity body]).map .ofOffer := by
  induction queries with
  | nil => rfl
  | cons query rest ih =>
      rw [List.flatMap_cons, List.map_append, ← ih]
      cases hqueue : r.queue? h query with
      | none =>
          simp [publishBatch, hqueue, smooth_bind, smooth, address_eq_nil hqueue]
      | some queue =>
          simp [publishBatch, hqueue, smooth_bind, smooth_publish, smooth, address_eq hqueue,
            Request.ofOffer]

theorem smooth_fanOutTo (h : Header) {queries : List QueryId}
    (hretries : r.retries.toNat + 1 < UInt32.size ∨ ¬r.HasWorkers h queries) :
    ∃ reports, smooth (r.fanOutTo h queries).run = ((queries.flatMap fun query =>
      r.address query h.entity (List.replicate (r.workers query h.entity)
        (.endOfStream query h.client h.entity))).map .ofOffer, .ok reports) := by
  induction queries with
  | nil => exact ⟨[], rfl⟩
  | cons query rest ih =>
      cases hqueue : r.queue? h query with
      | none =>
          rw [hasWorkers_cons_of_none hqueue] at hretries
          obtain ⟨reports, hrest⟩ := ih hretries
          refine ⟨reports, ?_⟩
          simp only [fanOutTo, hqueue]
          rw [hrest, List.flatMap_cons, address_eq_nil hqueue, List.nil_append]
      | some queue =>
          rw [hasWorkers_cons_of_some hqueue, not_or, not_not] at hretries
          obtain ⟨reports, hrest⟩ := ih (hretries.imp_right And.right)
          refine ⟨⟨query, queue, r.workers query h.entity, r.workers query h.entity⟩ :: reports, ?_⟩
          simp only [fanOutTo, hqueue]
          rw [smooth_bind_of_ok (smooth_publishEnds (hretries.imp_right And.left)),
            smooth_bind_of_ok hrest]
          simp [smooth, address_eq hqueue, Request.ofOffer]

/-- A router that does not break off tells every worker. -/
theorem smooth_fanOut (hkept : ¬r.BreaksOff h) :
    ∃ reports, smooth (r.fanOut h).run = ((h.queries.flatMap fun query =>
      r.address query h.entity (List.replicate (r.workers query h.entity)
        (.endOfStream query h.client h.entity))).map .ofOffer, .ok reports) :=
  smooth_fanOutTo h (lt_or_of_not_breaksOff hkept)

theorem run_fanOut_eq_error (hbreaks : r.BreaksOff h) :
    (r.fanOut h).run = .done (.error .overflow) :=
  run_fanOutTo_eq_error hbreaks.1 hbreaks.2

/-! ## A stream for one query -/

def batchMessage (query : QueryId) (batch : Batch × UInt64) : Message :=
  .batch query batch.1.header.client batch.2 batch.1.header.entity
    (.ofText (project batch.1.header.entity batch.1.records).body)

/-- Routes batches one after the other and then ends their stream. -/
def stream (r : Router) (h : Header) :
    List (Batch × UInt64) → Program Ingest (Except RouterFault (List FanOutReport))
  | [] => (r.fanOut h).run
  | (batch, id) :: rest => do
    let _ ← r.routeBatch batch id
    r.stream h rest

theorem smooth_routeBatch {batch : Batch} {id : UInt64} (hqueries : batch.header.queries = [query])
    (hqueue : r.queue? batch.header query = some queue) :
    (smooth (r.routeBatch batch id)).1 = [.publish queue (batchMessage query (batch, id))] := by
  rw [routeBatch, hqueries, smooth_publishBatch, List.flatMap_singleton, address_eq hqueue]
  rfl

theorem smooth_stream {batches : List (Batch × UInt64)}
    (hbatches : ∀ batch ∈ batches, batch.1.header.queries = [query] ∧
      r.queue? batch.1.header query = some queue) :
    smooth (r.stream h batches) =
      ((batches.map (batchMessage query)).map (Ingest.Request.publish queue) ++
        (smooth (r.fanOut h).run).1, (smooth (r.fanOut h).run).2) := by
  induction batches with
  | nil => rfl
  | cons batch rest ih =>
      obtain ⟨hnames, hqueue⟩ := hbatches batch List.mem_cons_self
      rw [stream, smooth_bind, smooth_routeBatch hnames hqueue]
      rw [ih fun batch hbatch => hbatches batch (List.mem_cons_of_mem _ hbatch)]
      rfl

end Router

end QueryGateway
