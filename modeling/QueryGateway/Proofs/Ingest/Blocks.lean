import Mathlib.Data.List.Basic
import QueryGateway.Ingest.Session
import QueryGateway.Proofs.Ingest.Events
import QueryGateway.Proofs.Ingest.Stream

/-! # What one frame leads to

A frame makes one block of events: its publishes, then its acknowledgement. A frame without a
readable header makes none, and neither does a notice at which the router breaks off.
-/

namespace QueryGateway

open Ingest

/-! ## What a batch has published -/

namespace Ingest.Attempt

/-- The queue and the message of an attempt, whatever came of it. -/
def offer (a : Attempt) : String × Message :=
  (a.queue, a.message)

/-- The attempt was made on behalf of a query. -/
def names (query : QueryId) (a : Attempt) : Bool :=
  a.message.header? MessageHeader.query.name = some query.text

end Ingest.Attempt

namespace Router

variable {r : Router} {log : List (Exchange Ingest)}

/-- What a batch offers to a query, if the query has a route. -/
def offer? (r : Router) (batch : Batch) (id : UInt64) (query : QueryId) :
    Option (String × Message) :=
  (r.queue? batch.header query).map fun queue => (queue, batchMessage query (batch, id))

theorem header?_of_offer? {batch : Batch} {id : UInt64} {query : QueryId} {queue : String}
    {m : Message} (h : r.offer? batch id query = some (queue, m)) :
    m.header? MessageHeader.query.name = some query.text := by
  obtain ⟨_, -, hpair⟩ := Option.map_eq_some_iff.mp h
  obtain ⟨rfl, rfl⟩ := Prod.mk.inj hpair
  exact Message.query_batch _ _ _ _ _

/-- Of the offers of a batch only its own one is for a query. -/
theorem filter_offers (r : Router) (batch : Batch) (id : UInt64) {queries : List QueryId}
    (hnodup : queries.Nodup) (query : QueryId) :
    (queries.filterMap (r.offer? batch id)).filter
        (fun offer => offer.2.header? MessageHeader.query.name = some query.text) =
      if query ∈ queries then (r.offer? batch id query).toList else [] := by
  induction queries with
  | nil => rfl
  | cons head rest ih =>
      obtain ⟨hnot, hrest⟩ := List.nodup_cons.mp hnodup
      have hhead : ((r.offer? batch id head).toList.filter
          fun offer => offer.2.header? MessageHeader.query.name = some query.text) =
            if query = head then (r.offer? batch id query).toList else [] := by
        cases hoffer : r.offer? batch id head with
        | none =>
            by_cases heq : query = head
            · simp [heq, hoffer]
            · simp [heq]
        | some offer =>
            by_cases heq : query = head
            · subst heq
              simp [hoffer, header?_of_offer? hoffer]
            · have htext : head.text ≠ query.text := fun h => heq (congrArg QueryId.mk h).symm
              simp [header?_of_offer? hoffer, htext, heq]
      have hsplit : (head :: rest).filterMap (r.offer? batch id) =
          (r.offer? batch id head).toList ++ rest.filterMap (r.offer? batch id) := by
        cases hoffer : r.offer? batch id head with
        | none => simp [hoffer]
        | some offer => simp [hoffer]
      rw [hsplit, List.filter_append, hhead, ih hrest]
      by_cases heq : query = head
      · subst heq
        simp [hnot]
      · simp [heq]

/-- What is published for the first query of a batch, and how it counts. -/
theorem run_publishBatch_cons {batch : Batch} {id : UInt64} {query : QueryId}
    {rest : List QueryId} {outcome : BatchOutcome}
    (hrun : (r.publishBatch batch.header id
      (.ofText (project batch.header.entity batch.records).body) (query :: rest)).Run log outcome) :
    ∃ (own : Option Attempt) (others : BatchOutcome) (first second : List (Exchange Ingest)),
      log = first ++ second ∧ tried first = own.toList ∧
      own.map Attempt.offer = r.offer? batch id query ∧
      (r.publishBatch batch.header id
        (.ofText (project batch.header.entity batch.records).body) rest).Run second others ∧
      outcome.skipped =
        if own.any Attempt.accepted then others.skipped else query :: others.skipped := by
  cases hqueue : r.queue? batch.header query with
  | none =>
      simp only [publishBatch, hqueue, Program.Run.bind_iff] at hrun
      obtain ⟨sent, first, _, rfl, hfirst, others, second, last, rfl, hsecond, hlast⟩ := hrun
      obtain ⟨rfl, rfl⟩ := Program.Run.done_iff.mp hfirst
      obtain ⟨rfl, rfl⟩ := Program.Run.done_iff.mp hlast
      exact ⟨none, others, [], second, by simp, rfl, by simp [offer?, hqueue], hsecond, rfl⟩
  | some queue =>
      simp only [publishBatch, hqueue, Program.Run.bind_iff] at hrun
      obtain ⟨sent, first, _, rfl, hfirst, others, second, last, rfl, hsecond, hlast⟩ := hrun
      obtain ⟨rfl, rfl⟩ := Program.Run.done_iff.mp hlast
      refine ⟨some ⟨queue, batchMessage query (batch, id), sent⟩, others, first, second, by simp,
        tried_publish hfirst, by simp [offer?, hqueue, Attempt.offer], hsecond, ?_⟩
      cases sent with
      | true => rfl
      | false => rfl

/-- A batch is tried once for each routed query, in the order of its header. -/
theorem offers_publishBatch {batch : Batch} {id : UInt64} {queries : List QueryId}
    {outcome : BatchOutcome}
    (hrun : (r.publishBatch batch.header id
      (.ofText (project batch.header.entity batch.records).body) queries).Run log outcome) :
    (tried log).map Attempt.offer = queries.filterMap (r.offer? batch id) := by
  induction queries generalizing log outcome with
  | nil =>
      obtain ⟨rfl, -⟩ := Program.Run.done_iff.mp hrun
      rfl
  | cons query rest ih =>
      obtain ⟨own, others, first, second, rfl, hfirst, hown, hsecond, -⟩ :=
        run_publishBatch_cons hrun
      rw [tried_append, hfirst, List.map_append, ih hsecond]
      cases own with
      | none => rw [List.filterMap_cons_none hown.symm]; rfl
      | some a => rw [List.filterMap_cons_some hown.symm]; rfl

end Router

namespace Ingest

/-- The queries that no accepted attempt was made for. -/
def missed (queries : List QueryId) (attempts : List Attempt) : List QueryId :=
  queries.filter fun query => !attempts.any fun a => a.accepted && a.names query

variable {r : Router} {batch : Batch} {id : UInt64} {query : QueryId} {a : Attempt}

theorem Attempt.names_eq_of_offer? (h : r.offer? batch id query = some a.offer)
    (query' : QueryId) : a.names query' = decide (query = query') :=
  Message.isFor_eq (Router.header?_of_offer? h) query'

theorem names_eq_false_of_offers {queries : List QueryId} {attempts : List Attempt}
    (hoffers : attempts.map Attempt.offer = queries.filterMap (r.offer? batch id))
    (hnot : query ∉ queries) : ∀ a ∈ attempts, a.names query = false := by
  intro a ha
  have hmem : a.offer ∈ queries.filterMap (r.offer? batch id) := by
    rw [← hoffers]
    exact List.mem_map_of_mem ha
  obtain ⟨query', hquery', hoffer⟩ := List.mem_filterMap.mp hmem
  rw [Attempt.names_eq_of_offer? hoffer, decide_eq_false_iff_not]
  rintro rfl
  exact hnot hquery'

end Ingest

/-- The queries that a batch is said to have skipped are those it did not reach. -/
theorem Router.skipped_publishBatch {r : Router} {batch : Batch} {id : UInt64}
    {queries : List QueryId} (hnodup : queries.Nodup) {outcome : BatchOutcome}
    {log : List (Exchange Ingest)}
    (hrun : (r.publishBatch batch.header id
      (.ofText (project batch.header.entity batch.records).body) queries).Run log outcome) :
    outcome.skipped = missed queries (tried log) := by
  induction queries generalizing log outcome with
  | nil =>
      obtain ⟨rfl, rfl⟩ := Program.Run.done_iff.mp hrun
      rfl
  | cons query rest ih =>
      obtain ⟨hnot, hrest⟩ := List.nodup_cons.mp hnodup
      obtain ⟨own, others, first, second, rfl, hfirst, hown, hsecond, hskipped⟩ :=
        run_publishBatch_cons hrun
      have hothers : ∀ a ∈ tried second, a.names query = false :=
        names_eq_false_of_offers (offers_publishBatch hsecond) hnot
      have hrest' : missed rest (tried (first ++ second)) = missed rest (tried second) := by
        apply List.filter_congr
        intro query' hquery'
        rw [tried_append, hfirst, List.any_append]
        cases own with
        | none => rfl
        | some a =>
            have hne : query ≠ query' := fun h => hnot (h ▸ hquery')
            simp [Attempt.names_eq_of_offer? hown.symm, hne]
      have hhead : (tried (first ++ second)).any (fun a => a.accepted && a.names query) =
          own.any Attempt.accepted := by
        have hnone : (tried second).any (fun a => a.accepted && a.names query) = false := by
          rw [List.any_eq_false]
          intro a ha
          simp [hothers a ha]
        rw [tried_append, hfirst, List.any_append, hnone, Bool.or_false]
        cases own with
        | none => rfl
        | some a => simp [Attempt.names_eq_of_offer? hown.symm]
      rw [hskipped, ih hrest hsecond, ← hrest', missed, missed, List.filter_cons, hhead]
      cases own.any Attempt.accepted with
      | true => rfl
      | false => rfl

/-! ## What the end of a stream has published -/

namespace Router

variable {r : Router} {h : Header} {log : List (Exchange Ingest)} {reports : List FanOutReport}

/-- How the workers of a header's queries are told that their stream has ended. -/
structure Announces (r : Router) (h : Header) (reports : List FanOutReport)
    (attempts : List Attempt) : Prop where
  /-- There is a report for each routed query, in the order of the header. -/
  queries : reports.map FanOutReport.query =
    h.queries.filter fun query => (r.queue? h query).isSome
  routed : ∀ report ∈ reports, r.queue? h report.query = some report.queue ∧
    report.expected = (r.tables.multiplicity.ingest? report.query h.entity).getD 1
  /-- Each query has a row of attempts of its own, with its full count and its full budget. -/
  courses : ∃ rows, attempts = rows.flatten ∧
    List.Forall₂ (FanOutReport.Tells r.retries.toNat h) reports rows

/-- A router tells the workers, or it breaks off before it has asked for anything. -/
theorem run_fanOut {result : Except RouterFault (List FanOutReport)}
    (hrun : (r.fanOut h).run.Run log result) :
    (¬r.BreaksOff h ∧ ∃ reports, result = .ok reports ∧ r.Announces h reports (tried log)) ∨
      (r.BreaksOff h ∧ result = .error .overflow ∧ log = []) := by
  by_cases hbreaks : r.BreaksOff h
  · rw [run_fanOut_eq_error hbreaks] at hrun
    obtain ⟨rfl, rfl⟩ := Program.Run.done_iff.mp hrun
    exact .inr ⟨hbreaks, rfl, rfl⟩
  · obtain ⟨reports, rows, hreports, hqueries, hrouted, hrows, htells⟩ :=
      run_fanOutTo (lt_or_of_not_breaksOff hbreaks) hrun
    exact .inl ⟨hbreaks, reports, hreports, hqueries, hrouted, rows, hrows, htells⟩

end Router

namespace Session

/-! ## Blocks -/

/-- What a frame turns out to be. -/
inductive Content where
  | rejected (error : HeaderError)
  | batch (batch : Batch) (id : UInt64)
  | notice (header : Header)

def content (payload : String) : Content :=
  match Batch.parse payload with
  | .error e => .rejected e
  | .ok batch =>
    match batch.header.marker with
    | .batch id => .batch batch id
    | .endOfStream => .notice batch.header

theorem parse_of_content {payload : String} {batch : Batch} {id : UInt64}
    (h : content payload = .batch batch id) :
    Batch.parse payload = .ok batch := by
  rw [content] at h
  cases hparse : Batch.parse payload with
  | error e =>
      rw [hparse] at h
      cases h
  | ok batch' =>
      simp only [hparse] at h
      cases hmarker : batch'.header.marker with
      | batch id' =>
          simp only [hmarker] at h
          rw [(Content.batch.inj h).1]
      | endOfStream =>
          simp only [hmarker] at h
          cases h

namespace Content

def isRejected : Content → Bool
  | rejected _ => true
  | batch _ _ | notice _ => false

def isBatch : Content → Bool
  | batch _ _ => true
  | rejected _ | notice _ => false

def isNotice : Content → Bool
  | notice _ => true
  | rejected _ | batch _ _ => false

def client? : Content → Option ClientId
  | rejected _ => none
  | .batch b _ => some b.header.client
  | notice h => some h.client

/-- The queries that a batch names and that none of the attempts has reached. -/
def skipped (attempts : List Attempt) : Content → List QueryId
  | .batch b _ => missed b.header.queries attempts
  | rejected _ | notice _ => []

end Content

/-- What one frame leads to. -/
structure Block where
  payload : String
  attempts : List Attempt
  /-- The acknowledgement, and whether it could be written. -/
  reply : Option (String × Bool)
  reports : List FanOutReport

namespace Block

def content (b : Block) : Content :=
  Session.content b.payload

/-- The publishes come first, then the acknowledgement. -/
def events (b : Block) : List Event :=
  b.attempts.map Event.publish ++ b.reply.toList.map fun reply => .acknowledge reply.1 reply.2

/-- The acknowledgement could not be written. -/
def isRefused (b : Block) : Bool :=
  b.reply.any fun reply => !reply.2

/-- The queries that a batch names and that did not get it. -/
def skipped (b : Block) : List QueryId :=
  b.content.skipped b.attempts

/-- The router breaks off at the block's frame. -/
def BreaksOff (r : Router) (b : Block) : Prop :=
  ∃ h, b.content = .notice h ∧ r.BreaksOff h

/-- A block is made as its frame says. -/
inductive Fits (r : Router) (b : Block) : Prop where
  | rejected (e : HeaderError) : b.content = .rejected e →
      b.attempts = [] → b.reply = none → b.reports = [] → Fits r b
  /-- One attempt for each routed query of the header, in its order. -/
  | batch (batch : Batch) (id : UInt64) : b.content = .batch batch id →
      b.attempts.map Attempt.offer = batch.header.queries.filterMap (r.offer? batch id) →
      b.reply.map Prod.fst = some (batch.header.entity.name ++ "_ACK:" ++ toString id.toNat) →
      b.reports = [] → Fits r b
  | notice (h : Header) : b.content = .notice h → ¬r.BreaksOff h →
      r.Announces h b.reports b.attempts →
      b.reply.map Prod.fst = some (h.entity.name ++ "_EOF_ACK") → Fits r b
  /-- Nobody is told, and nothing is acknowledged. -/
  | brokenOff (h : Header) : b.content = .notice h → r.BreaksOff h →
      b.attempts = [] → b.reply = none → b.reports = [] → Fits r b

end Block

end Session

namespace SessionSummary

/-- Counts a block. -/
def count (s : SessionSummary) (b : Session.Block) : SessionSummary where
  client := s.client.or b.content.client?
  batches := s.batches + b.content.isBatch.toNat
  malformed := s.malformed + b.content.isRejected.toNat
  skipped := s.skipped + b.skipped.length
  ends := s.ends + b.content.isNotice.toNat
  fanOut := s.fanOut ++ b.reports

theorem count_of_rejected {s : SessionSummary} {b : Session.Block} {e : HeaderError}
    (h : b.content = .rejected e) (hreports : b.reports = []) :
    s.count b = { s with malformed := s.malformed + 1 } := by
  rw [count, Session.Block.skipped, h, hreports, List.append_nil]
  exact congrArg (fun client => { s with client, malformed := s.malformed + 1 }) Option.or_none

theorem count_of_batch {s : SessionSummary} {b : Session.Block} {batch : Batch} {id : UInt64}
    (h : b.content = .batch batch id) (hreports : b.reports = []) :
    s.count b = { s.noteClient batch.header.client with
      skipped := s.skipped + (missed batch.header.queries b.attempts).length
      batches := s.batches + 1 } := by
  rw [count, Session.Block.skipped, h, hreports, List.append_nil]
  rfl

theorem count_of_notice {s : SessionSummary} {b : Session.Block} {header : Header}
    (h : b.content = .notice header) :
    s.count b = { s.noteClient header.client with
      ends := s.ends + 1
      fanOut := s.fanOut ++ b.reports } := by
  rw [count, Session.Block.skipped, h]
  rfl

/-- What a session has counted is what its blocks say. -/
structure Counts (s : SessionSummary) (blocks : List Session.Block) : Prop where
  /-- The client is that of the first frame with a header. -/
  client : s.client = blocks.findSome? fun b => b.content.client?
  batches : s.batches = blocks.countP fun b => b.content.isBatch
  malformed : s.malformed = blocks.countP fun b => b.content.isRejected
  skipped : s.skipped = (blocks.flatMap Session.Block.skipped).length
  ends : s.ends = blocks.countP fun b => b.content.isNotice
  fanOut : s.fanOut = blocks.flatMap Session.Block.reports

theorem counts_empty : empty.Counts [] :=
  ⟨rfl, rfl, rfl, rfl, rfl, rfl⟩

theorem Counts.count {s : SessionSummary} {blocks : List Session.Block} (h : s.Counts blocks)
    (b : Session.Block) : (s.count b).Counts (blocks ++ [b]) := by
  have hcount : ∀ p : Session.Block → Bool, (blocks ++ [b]).countP p =
      blocks.countP p + (p b).toNat := by
    intro p
    rw [List.countP_append, List.countP_singleton]
    cases p b with
    | true => rfl
    | false => rfl
  refine ⟨?_, ?_, ?_, ?_, ?_, ?_⟩
  · rw [List.findSome?_append, ← h.client]
    simp [SessionSummary.count]
  · rw [hcount, ← h.batches]
    rfl
  · rw [hcount, ← h.malformed]
    rfl
  · rw [List.flatMap_append, List.length_append, ← h.skipped]
    simp [SessionSummary.count]
  · rw [hcount, ← h.ends]
    rfl
  · rw [List.flatMap_append, ← h.fanOut]
    simp [SessionSummary.count]

theorem Counts.foldl {s : SessionSummary} {before : List Session.Block} (h : s.Counts before)
    (blocks : List Session.Block) :
    (blocks.foldl SessionSummary.count s).Counts (before ++ blocks) := by
  induction blocks generalizing s before with
  | nil => simpa using h
  | cons b rest ih =>
      have hrest := ih (h.count b)
      rwa [List.append_assoc, List.singleton_append] at hrest

end SessionSummary

namespace Session

variable {r : Router} {s : SessionSummary} {payload : String} {log : List (Exchange Ingest)}
  {result : Except SessionError SessionSummary}

/-- What becomes of a session by a block. -/
inductive Block.Leads (r : Router) (s : SessionSummary) (b : Block) :
    Except SessionError SessionSummary → Prop where
  | counted : ¬b.isRefused → ¬b.BreaksOff r → Leads r s b (.ok (s.count b))
  | refused (e : WireError) : b.isRefused → Leads r s b (.error (.wire e))
  | brokenOff : b.BreaksOff r → Leads r s b (.error (.router .overflow))

theorem run_answer {h : Header} (hrun : (answer h s).Run log result) :
    ∃ written, trace log = [.acknowledge (Ack.ofHeader h).text written] ∧
      if written then result = .ok s else ∃ e, result = .error (.wire e) := by
  obtain ⟨written, first, rest, rfl, hfirst, hrest⟩ := Program.Run.bind_iff.mp hrun
  refine ⟨written.isOk, ?_⟩
  cases written with
  | ok u =>
      obtain ⟨rfl, rfl⟩ := Program.Run.done_iff.mp hrest
      rw [List.append_nil]
      exact ⟨trace_acknowledge hfirst, rfl⟩
  | error e =>
      obtain ⟨rfl, rfl⟩ := Program.Run.done_iff.mp hrest
      rw [List.append_nil]
      exact ⟨trace_acknowledge hfirst, e, rfl⟩

theorem Block.leads_of_answered {b : Block} {text : String} {written : Bool}
    {counted : SessionSummary}
    (hresult : if written then result = .ok counted else ∃ e, result = .error (.wire e))
    (hreply : b.reply = some (text, written)) (hkept : ¬b.BreaksOff r)
    (hcount : s.count b = counted) : b.Leads r s result := by
  cases written with
  | true =>
      obtain rfl := hresult
      rw [← hcount]
      refine .counted ?_ hkept
      simp [isRefused, hreply]
  | false =>
      obtain ⟨e, rfl⟩ := hresult
      refine .refused e ?_
      simp [isRefused, hreply]

theorem Block.not_breaksOff_of_batch {b : Block} {batch : Batch} {id : UInt64}
    (h : b.content = .batch batch id) : ¬b.BreaksOff r := by
  rintro ⟨header, hnotice, -⟩
  rw [h] at hnotice
  cases hnotice

theorem Block.breaksOff_iff {b : Block} {h : Header} (hcontent : b.content = .notice h) :
    b.BreaksOff r ↔ r.BreaksOff h := by
  constructor
  · rintro ⟨h', hcontent', hbreaks⟩
    rw [hcontent] at hcontent'
    cases hcontent'
    exact hbreaks
  · exact fun hbreaks => ⟨h, hcontent, hbreaks⟩

/-- One frame makes one block. -/
theorem run_handle (hrun : (handle r s payload).Run log result) :
    ∃ b : Block, b.payload = payload ∧ b.Fits r ∧ trace log = b.events ∧ b.Leads r s result := by
  cases hparse : Batch.parse payload with
  | error e =>
      simp only [handle, hparse] at hrun
      obtain ⟨rfl, rfl⟩ := Program.Run.done_iff.mp hrun
      let b : Block := ⟨payload, [], none, []⟩
      have hcontent : b.content = .rejected e := by simp [Block.content, content, hparse, b]
      refine ⟨b, rfl, .rejected e hcontent rfl rfl rfl, rfl, ?_⟩
      rw [← SessionSummary.count_of_rejected hcontent rfl]
      refine .counted (by simp [Block.isRefused, b]) ?_
      rintro ⟨h, hnotice, -⟩
      rw [hcontent] at hnotice
      cases hnotice
  | ok batch =>
      cases hmarker : batch.header.marker with
      | batch id =>
          simp only [handle, hparse, hmarker] at hrun
          obtain ⟨outcome, first, rest, rfl, hfirst, hrest⟩ := Program.Run.bind_iff.mp hrun
          obtain ⟨written, hack, hresult⟩ := run_answer hrest
          let b : Block :=
            ⟨payload, tried first, some ((Ack.ofHeader batch.header).text, written), []⟩
          have hcontent : b.content = .batch batch id := by
            simp [Block.content, content, hparse, hmarker, b]
          obtain ⟨line, hline⟩ := Batch.header_of_parse hparse
          have hskipped := Router.skipped_publishBatch (Header.nodup_queries hline) hfirst
          rw [hskipped] at hresult
          refine ⟨b, rfl, ?_, ?_, Block.leads_of_answered hresult rfl
            (Block.not_breaksOff_of_batch hcontent)
            (SessionSummary.count_of_batch hcontent rfl)⟩
          · refine .batch batch id hcontent (Router.offers_publishBatch hfirst) ?_ rfl
            simp [Ack.text, Ack.ofHeader, hmarker, b]
          · rw [trace_append, Router.silent_publishBatch _ _ _ _ _ hfirst, hack]
            rfl
      | endOfStream =>
          simp only [handle, hparse, hmarker] at hrun
          obtain ⟨outcome, first, rest, rfl, hfirst, hrest⟩ := Program.Run.bind_iff.mp hrun
          rcases Router.run_fanOut hfirst with
            ⟨hkept, reports, rfl, hannounces⟩ | ⟨hbreaks, rfl, rfl⟩
          · obtain ⟨written, hack, hresult⟩ := run_answer hrest
            let b : Block :=
              ⟨payload, tried first, some ((Ack.ofHeader batch.header).text, written), reports⟩
            have hcontent : b.content = .notice batch.header := by
              simp [Block.content, content, hparse, hmarker, b]
            refine ⟨b, rfl, ?_, ?_, Block.leads_of_answered hresult rfl
              (mt (Block.breaksOff_iff hcontent).mp hkept)
              (SessionSummary.count_of_notice hcontent)⟩
            · refine .notice batch.header hcontent hkept hannounces ?_
              simp [Ack.text, Ack.ofHeader, hmarker, b]
            · rw [trace_append, Router.silent_fanOutTo _ _ _ hfirst, hack]
              rfl
          · obtain ⟨rfl, rfl⟩ := Program.Run.done_iff.mp hrest
            let b : Block := ⟨payload, [], none, []⟩
            have hcontent : b.content = .notice batch.header := by
              simp [Block.content, content, hparse, hmarker, b]
            exact ⟨b, rfl, .brokenOff batch.header hcontent hbreaks rfl rfl rfl, rfl,
              .brokenOff ((Block.breaksOff_iff hcontent).mpr hbreaks)⟩

end Session

end QueryGateway
