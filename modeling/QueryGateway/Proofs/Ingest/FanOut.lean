import Mathlib.Data.List.Forall2
import QueryGateway.Proofs.Ingest.Attempts
import QueryGateway.Proofs.Queue.Headers
import QueryGateway.Proofs.Routing.Lookup
import QueryGateway.Proofs.Wire.ParsedHeader

/-! # Telling the workers that a stream has ended

Whatever the broker answers, every routed query of a header gets its own count of end-of-stream
messages and its own budget of attempts for each of them. One message that fails in every attempt
ends the messages of its query and of no other one. If the attempts cannot be counted, then nothing
is tried at all: the router breaks off at the first worker that is to be told.
-/

namespace QueryGateway

open Ingest

/-! ## One message -/

/-- The attempts at a message that got through after some failures. -/
def deliveredAfter (failures : Nat) : List Bool :=
  List.replicate failures false ++ [true]

/-- A row of failures is longer than any that a delivered message has seen. -/
theorem not_infix_deliveredAfter {failures limit : Nat} (h : failures ≤ limit) :
    ¬List.replicate (limit + 1) false <:+: deliveredAfter failures := by
  intro hinfix
  have hcount := hinfix.sublist.count_le false
  simp [deliveredAfter] at hcount
  omega

namespace Router

variable {queue : String} {message : Message} {log : List (Exchange Ingest)}

theorem tried_publishWithin {left attempt : Nat} {sent : Bool}
    (h : (publishWithin queue message left attempt).Run log sent) :
    (sent = true ∧ ∃ failures < left,
      tried log = tries queue message (deliveredAfter failures)) ∨
    (sent = false ∧ tried log = tries queue message (List.replicate left false)) := by
  induction left generalizing attempt log with
  | zero =>
      obtain ⟨rfl, rfl⟩ := Program.Run.done_iff.mp h
      exact Or.inr ⟨rfl, rfl⟩
  | succ left ih =>
      rw [publishWithin, Program.Run.bind_iff] at h
      obtain ⟨accepted, first, rest, rfl, hpublish, hrest⟩ := h
      rw [tried_append, tried_publish hpublish]
      cases accepted with
      | true =>
          obtain ⟨rfl, rfl⟩ := Program.Run.done_iff.mp hrest
          exact Or.inl ⟨rfl, 0, by omega, rfl⟩
      | false =>
          by_cases hleft : left = 0
          · subst hleft
            obtain ⟨rfl, rfl⟩ := Program.Run.done_iff.mp hrest
            exact Or.inr ⟨rfl, rfl⟩
          · simp only [Bool.false_eq_true, if_false, hleft, Program.Run.bind_iff] at hrest
            obtain ⟨_, waited, rest, rfl, hpause, hrest⟩ := hrest
            rw [tried_append, tried_pause hpause]
            rcases ih hrest with ⟨rfl, failures, hlt, htried⟩ | ⟨rfl, htried⟩
            · refine Or.inl ⟨rfl, failures + 1, by omega, ?_⟩
              rw [htried]
              rfl
            · refine Or.inr ⟨rfl, ?_⟩
              rw [htried]
              rfl

variable {r : Router}

theorem attempts_eq_ok (h : r.retries.toNat + 1 < UInt32.size) :
    r.attempts = .ok (r.retries.toNat + 1) :=
  if_pos h

theorem attempts_eq_error (h : r.retries.toNat + 1 = UInt32.size) :
    r.attempts = .error .overflow :=
  if_neg (Nat.not_lt_of_le (Nat.le_of_eq h.symm))

theorem run_publishEnd_eq (h : r.retries.toNat + 1 < UInt32.size) :
    (r.publishEnd queue message).run =
      publishWithin queue message (r.retries.toNat + 1) 1 >>= fun sent => .done (.ok sent) := by
  rw [publishEnd, attempts_eq_ok h]
  rfl

/-- An end-of-stream message is tried until the broker takes it, but at most once more than there
are retries. -/
theorem tried_publishEnd (hretries : r.retries.toNat + 1 < UInt32.size)
    {result : Except RouterFault Bool} (h : (r.publishEnd queue message).run.Run log result) :
    (result = .ok true ∧ ∃ failures ≤ r.retries.toNat,
      tried log = tries queue message (deliveredAfter failures)) ∨
    (result = .ok false ∧
      tried log = tries queue message (List.replicate (r.retries.toNat + 1) false)) := by
  rw [run_publishEnd_eq hretries] at h
  obtain ⟨sent, first, rest, rfl, hfirst, hrest⟩ := Program.Run.bind_iff.mp h
  obtain ⟨rfl, rfl⟩ := Program.Run.done_iff.mp hrest
  rw [List.append_nil]
  rcases tried_publishWithin hfirst with ⟨rfl, failures, hlt, htried⟩ | ⟨rfl, htried⟩
  · exact .inl ⟨rfl, failures, by omega, htried⟩
  · exact .inr ⟨rfl, htried⟩

end Router

/-! ## One query -/

/-- The course of telling `expected` workers, message by message. Each entry holds the outcomes of
the attempts at one message. -/
inductive Course (retries : Nat) : (expected published : Nat) → List (List Bool) → Prop where
  /-- Every worker was told. -/
  | complete : Course retries 0 0 []
  /-- A message failed in every attempt; no further one is tried. -/
  | abandoned (expected : Nat) :
      Course retries (expected + 1) 0 [List.replicate (retries + 1) false]
  | delivered {expected published failures : Nat} {rounds : List (List Bool)} :
      failures ≤ retries → Course retries expected published rounds →
        Course retries (expected + 1) (published + 1) (deliveredAfter failures :: rounds)

namespace Course

variable {retries expected published : Nat} {rounds : List (List Bool)}

theorem published_le (h : Course retries expected published rounds) : published ≤ expected := by
  induction h with
  | complete => exact Nat.le_refl 0
  | abandoned expected => exact Nat.zero_le _
  | delivered _ _ ih => exact Nat.succ_le_succ ih

/-- Each of the published messages got through within its attempts. -/
theorem delivered_of_mem_take (h : Course retries expected published rounds) :
    ∀ round ∈ rounds.take published, ∃ failures ≤ retries, round = deliveredAfter failures := by
  induction h with
  | complete => simp
  | abandoned expected => simp
  | delivered hfailures _ ih =>
      intro round hround
      rw [List.take_succ_cons] at hround
      rcases List.mem_cons.mp hround with rfl | hround
      · exact ⟨_, hfailures, rfl⟩
      · exact ih round hround

/-- All messages are published unless one of them fails once more than there are retries. -/
theorem published_eq_iff (h : Course retries expected published rounds) :
    published = expected ↔ ∀ round ∈ rounds, ¬List.replicate (retries + 1) false <:+: round := by
  induction h with
  | complete => simp
  | abandoned expected => simp
  | delivered hfailures _ ih =>
      rw [List.forall_mem_cons, ← ih]
      constructor
      · intro heq
        exact ⟨not_infix_deliveredAfter hfailures, by omega⟩
      · rintro ⟨-, heq⟩
        rw [heq]

/-- After the published messages nothing was tried, or one more message that failed. -/
theorem drop_eq (h : Course retries expected published rounds) :
    rounds.drop published =
      if published = expected then [] else [List.replicate (retries + 1) false] := by
  induction h with
  | complete => rfl
  | abandoned expected => simp
  | delivered _ _ ih => simpa using ih

theorem published_le_length (h : Course retries expected published rounds) :
    published ≤ rounds.length := by
  induction h with
  | complete => exact Nat.le_refl 0
  | abandoned expected => exact Nat.zero_le _
  | delivered _ _ ih => exact Nat.succ_le_succ ih

/-- As many attempts were accepted as messages were published. -/
theorem accepted_eq (h : Course retries expected published rounds) :
    rounds.flatten.filter id = List.replicate published true := by
  induction h with
  | complete => rfl
  | abandoned expected => simp
  | delivered _ _ ih => simp [deliveredAfter, ih, List.replicate_succ]

end Course

namespace Router

variable {r : Router} {queue : String} {message : Message} {log : List (Exchange Ingest)}

theorem run_publishEnds {expected : Nat} {result : Except RouterFault Nat}
    (hretries : r.retries.toNat + 1 < UInt32.size ∨ expected = 0)
    (h : (r.publishEnds queue message expected).run.Run log result) :
    ∃ published rounds, result = .ok published ∧
      Course r.retries.toNat expected published rounds ∧
      tried log = tries queue message rounds.flatten := by
  induction expected generalizing result log with
  | zero =>
      obtain ⟨rfl, rfl⟩ := Program.Run.done_iff.mp h
      exact ⟨0, [], rfl, .complete, rfl⟩
  | succ expected ih =>
      have hlt := hretries.resolve_right (Nat.succ_ne_zero expected)
      rw [publishEnds] at h
      rcases Program.Run.except_bind_iff.mp h with
        ⟨e, hfailed, -⟩ | ⟨sent, first, rest, rfl, hfirst, hrest⟩
      · rcases tried_publishEnd hlt hfailed with ⟨hok, -⟩ | ⟨hok, -⟩
        · cases hok
        · cases hok
      rcases tried_publishEnd hlt hfirst with ⟨hok, failures, hle, htried⟩ | ⟨hok, htried⟩
      · obtain rfl := Except.ok.inj hok
        rw [if_pos rfl] at hrest
        rcases Program.Run.except_bind_iff.mp hrest with
          ⟨e, hfailed, -⟩ | ⟨count, middle, last, rfl, hmiddle, hlast⟩
        · obtain ⟨_, _, hok, -⟩ := ih (.inl hlt) hfailed
          cases hok
        obtain ⟨rfl, rfl⟩ := Program.Run.done_iff.mp hlast
        obtain ⟨published, rounds, hcount, hcourse, hrounds⟩ := ih (.inl hlt) hmiddle
        obtain rfl := Except.ok.inj hcount
        refine ⟨_, deliveredAfter failures :: rounds, rfl, .delivered hle hcourse, ?_⟩
        simp [htried, hrounds]
      · obtain rfl := Except.ok.inj hok
        obtain ⟨rfl, rfl⟩ := Program.Run.done_iff.mp hrest
        refine ⟨0, [List.replicate (r.retries.toNat + 1) false], rfl, .abandoned expected, ?_⟩
        simp [htried]

theorem run_publishEnds_succ (h : r.retries.toNat + 1 = UInt32.size) (count : Nat) :
    (r.publishEnds queue message (count + 1)).run = .done (.error .overflow) := by
  rw [publishEnds, publishEnd, attempts_eq_error h]
  rfl

end Router

/-! ## One header -/

/-- The attempts that a report stands for. -/
def FanOutReport.Tells (retries : Nat) (h : Header) (report : FanOutReport)
    (block : List Attempt) : Prop :=
  ∃ rounds, Course retries report.expected report.published rounds ∧
    block = tries report.queue (.endOfStream report.query h.client h.entity) rounds.flatten

section

variable {h : Header} {queue queue' : String} {query query' : QueryId}

theorem taken_tries_self (outcomes : List Bool) :
    taken queue query (tries queue (.endOfStream query h.client h.entity) outcomes) =
      List.replicate (outcomes.filter id).length (.endOfStream query h.client h.entity) := by
  induction outcomes with
  | nil => rfl
  | cons outcome rest ih =>
      cases outcome with
      | true => simpa [taken, List.replicate_succ] using ih
      | false => simpa [taken] using ih

theorem taken_tries_of_ne (hne : query' ≠ query) (outcomes : List Bool) :
    taken queue query (tries queue' (.endOfStream query' h.client h.entity) outcomes) = [] := by
  have htext : query'.text ≠ query.text := fun heq => hne (congrArg QueryId.mk heq)
  induction outcomes with
  | nil => rfl
  | cons outcome rest ih => simpa [taken, htext] using ih

end

namespace FanOutReport.Tells

variable {retries : Nat} {h : Header} {report : FanOutReport} {reports : List FanOutReport}
  {block : List Attempt} {blocks : List (List Attempt)}

theorem taken_self (htells : report.Tells retries h block) :
    taken report.queue report.query block =
      List.replicate report.published (.endOfStream report.query h.client h.entity) := by
  obtain ⟨rounds, hcourse, rfl⟩ := htells
  rw [taken_tries_self, hcourse.accepted_eq, List.length_replicate]

/-- A query gets no messages while other queries are told. -/
theorem taken_of_notMem {queue : String} {query : QueryId}
    (htells : List.Forall₂ (FanOutReport.Tells retries h) reports blocks)
    (hnot : query ∉ reports.map FanOutReport.query) : taken queue query blocks.flatten = [] := by
  induction htells with
  | nil => rfl
  | cons hhead _ ih =>
      obtain ⟨hne, hrest⟩ := not_or.mp (mt List.mem_cons.mpr hnot)
      obtain ⟨rounds, -, rfl⟩ := hhead
      rw [List.flatten_cons, taken_append, ih hrest, taken_tries_of_ne (Ne.symm hne)]
      rfl

/-- What the queue of a query took on its behalf is what its report says. -/
theorem taken_of_mem (htells : List.Forall₂ (FanOutReport.Tells retries h) reports blocks)
    (hnodup : (reports.map FanOutReport.query).Nodup) (hmem : report ∈ reports) :
    taken report.queue report.query blocks.flatten =
      List.replicate report.published (.endOfStream report.query h.client h.entity) := by
  induction htells with
  | nil => cases hmem
  | @cons head _ rest _ hhead htail ih =>
      obtain ⟨hnot, hrest⟩ := List.nodup_cons.mp hnodup
      rw [List.flatten_cons, taken_append]
      rcases List.mem_cons.mp hmem with rfl | hmem
      · rw [hhead.taken_self, taken_of_notMem htail hnot, List.append_nil]
      · have hne : head.query ≠ report.query := by
          intro heq
          exact hnot (heq ▸ List.mem_map_of_mem hmem)
        obtain ⟨rounds, -, rfl⟩ := hhead
        rw [taken_tries_of_ne hne, ih hrest hmem, List.nil_append]

end FanOutReport.Tells

namespace Router

variable {r : Router} {h : Header} {queries : List QueryId} {log : List (Exchange Ingest)}
  {result : Except RouterFault (List FanOutReport)}

/-- One of the queries has workers to tell. -/
def HasWorkers (r : Router) (h : Header) (queries : List QueryId) : Prop :=
  ∃ query ∈ queries, (r.queue? h query).isSome ∧ r.workers query h.entity ≠ 0

/-- The end of a stream cannot be told: the attempts do not fit into their word, and there is
somebody to tell. -/
def BreaksOff (r : Router) (h : Header) : Prop :=
  r.retries.toNat + 1 = UInt32.size ∧ r.HasWorkers h h.queries

instance : Decidable (r.HasWorkers h queries) :=
  inferInstanceAs (Decidable (∃ query ∈ queries, _ ∧ _))

instance : DecidablePred r.BreaksOff := fun h =>
  inferInstanceAs (Decidable (_ ∧ r.HasWorkers h h.queries))

theorem hasWorkers_cons_of_none {query : QueryId} (hqueue : r.queue? h query = none) :
    r.HasWorkers h (query :: queries) ↔ r.HasWorkers h queries := by
  simp [HasWorkers, hqueue]

theorem hasWorkers_cons_of_some {query : QueryId} {queue : String}
    (hqueue : r.queue? h query = some queue) :
    r.HasWorkers h (query :: queries) ↔ r.workers query h.entity ≠ 0 ∨ r.HasWorkers h queries := by
  simp [HasWorkers, hqueue]

theorem lt_or_of_not_breaksOff (hkept : ¬r.BreaksOff h) :
    r.retries.toNat + 1 < UInt32.size ∨ ¬r.HasWorkers h h.queries := by
  have hword : r.retries.toNat + 1 ≤ UInt32.size := r.retries.toNat_lt_size
  rcases Nat.lt_or_eq_of_le hword with hlt | hmax
  · exact .inl hlt
  · exact .inr fun hsome => hkept ⟨hmax, hsome⟩

/-- One query after the other is told, each as if it were the only one. -/
theorem run_fanOutTo (hretries : r.retries.toNat + 1 < UInt32.size ∨ ¬r.HasWorkers h queries)
    (hrun : (r.fanOutTo h queries).run.Run log result) :
    ∃ reports blocks, result = .ok reports ∧
      reports.map FanOutReport.query =
        queries.filter (fun query => (r.queue? h query).isSome) ∧
      (∀ report ∈ reports, r.queue? h report.query = some report.queue ∧
        report.expected = r.workers report.query h.entity) ∧
      tried log = blocks.flatten ∧
      List.Forall₂ (FanOutReport.Tells r.retries.toNat h) reports blocks := by
  induction queries generalizing result log with
  | nil =>
      obtain ⟨rfl, rfl⟩ := Program.Run.done_iff.mp hrun
      exact ⟨[], [], rfl, rfl, by simp, rfl, .nil⟩
  | cons query rest ih =>
      cases hqueue : r.queue? h query with
      | none =>
          rw [hasWorkers_cons_of_none hqueue] at hretries
          simp only [fanOutTo, hqueue] at hrun
          simpa [hqueue] using ih hretries hrun
      | some queue =>
          rw [hasWorkers_cons_of_some hqueue, not_or, not_not] at hretries
          have hown := hretries.imp_right And.left
          have hothers := hretries.imp_right And.right
          simp only [fanOutTo, hqueue] at hrun
          -- Neither this query nor a later one can break the run off.
          rcases Program.Run.except_bind_iff.mp hrun with
            ⟨e, hfailed, -⟩ | ⟨published, first, _, rfl, hends, hrest⟩
          · obtain ⟨_, _, hok, -⟩ := run_publishEnds hown hfailed
            cases hok
          rcases Program.Run.except_bind_iff.mp hrest with
            ⟨e, hfailed, -⟩ | ⟨others, second, _, rfl, hothers', hdone⟩
          · obtain ⟨_, _, hok, -⟩ := ih hothers hfailed
            cases hok
          obtain ⟨rfl, rfl⟩ := Program.Run.done_iff.mp hdone
          obtain ⟨_, blocks, hreports, hqueries, heach, hblocks, htells⟩ := ih hothers hothers'
          obtain ⟨_, rounds, hpublished, hcourse, hrounds⟩ := run_publishEnds hown hends
          obtain rfl := Except.ok.inj hreports
          obtain rfl := Except.ok.inj hpublished
          refine ⟨_, _ :: blocks, rfl, ?_, ?_, ?_, .cons ⟨rounds, hcourse, rfl⟩ htells⟩
          · simp [hqueue, hqueries]
          · exact List.forall_mem_cons.mpr ⟨⟨hqueue, rfl⟩, heach⟩
          · simp [hrounds, hblocks]

/-- A router that cannot count its attempts breaks off before it has asked for anything. -/
theorem run_fanOutTo_eq_error (hmax : r.retries.toNat + 1 = UInt32.size)
    (hsome : r.HasWorkers h queries) :
    (r.fanOutTo h queries).run = .done (.error .overflow) := by
  induction queries with
  | nil =>
      obtain ⟨query, hquery, -⟩ := hsome
      cases hquery
  | cons query rest ih =>
      cases hqueue : r.queue? h query with
      | none =>
          simp only [fanOutTo, hqueue]
          exact ih ((hasWorkers_cons_of_none hqueue).mp hsome)
      | some queue =>
          simp only [fanOutTo, hqueue]
          cases hcount : r.workers query h.entity with
          | zero =>
              have hrest : r.HasWorkers h rest :=
                ((hasWorkers_cons_of_some hqueue).mp hsome).resolve_left fun hne => hne hcount
              rw [publishEnds, pure_bind, ExceptT.run_bind, ih hrest]
              rfl
          | succ count =>
              rw [ExceptT.run_bind, run_publishEnds_succ hmax]
              rfl

/-- There are workers to tell just for the queries with a route. -/
theorem hasWorkers_iff {routes : List Route} {counts : List (QueryId × Nat)} {tables : Tables}
    (hbuild : Tables.build routes counts = .ok tables) {retries : UInt32} :
    HasWorkers ⟨tables, retries⟩ h queries ↔
      ∃ query ∈ queries, ∃ route ∈ routes, route.key = (query, h.entity) := by
  constructor
  · rintro ⟨query, hquery, hsome, -⟩
    exact ⟨query, hquery, (Tables.isSome_queue?_iff hbuild).mp hsome⟩
  · rintro ⟨query, hquery, hroute⟩
    have hsome := (Tables.isSome_queue?_iff hbuild).mpr hroute
    obtain ⟨queue, hqueue⟩ := Option.isSome_iff_exists.mp hsome
    obtain ⟨route, -, -, -, hcount⟩ := Tables.exists_route hbuild hqueue
    refine ⟨query, hquery, hsome, ?_⟩
    rw [workers, hcount, Option.getD_some]
    exact Nat.ne_of_gt (Tables.ingest?_pos hbuild hcount)

end Router

/-- A message tells that the stream of a header has ended for a query. -/
structure Message.TellsEnd (m : Message) (query : QueryId) (h : Header) : Prop where
  query : m.header? MessageHeader.query.name = some query.text
  client : m.header? MessageHeader.client.name = some h.client.text
  type : m.header? MessageHeader.type.name = some h.entity.endTag
  body : m.body = []

theorem Message.tellsEnd_endOfStream (query : QueryId) (h : Header) :
    (endOfStream query h.client h.entity).TellsEnd query h :=
  ⟨by simp, by simp, by simp, by simp⟩

/-- What a report says about the outcomes of the attempts, message by message. -/
structure FanOutReport.Explained (retries : Nat) (report : FanOutReport)
    (rounds : List (List Bool)) : Prop where
  published_le : report.published ≤ report.expected
  tried_all : report.published ≤ rounds.length
  /-- The messages that are counted got through after at most `retries` failures. -/
  delivered : ∀ round ∈ rounds.take report.published,
    ∃ failures ≤ retries, round = deliveredAfter failures
  /-- Nothing is missing unless one message failed once more than that in a row. -/
  complete_iff : report.published = report.expected ↔
    ∀ round ∈ rounds, ¬List.replicate (retries + 1) false <:+: round
  /-- If something is missing, the next message failed in every attempt, and none was tried after
  it. -/
  abandoned : rounds.drop report.published =
    if report.published = report.expected then [] else [List.replicate (retries + 1) false]

theorem FanOutReport.explained {retries : Nat} {report : FanOutReport} {rounds : List (List Bool)}
    (h : Course retries report.expected report.published rounds) :
    report.Explained retries rounds where
  published_le := h.published_le
  tried_all := h.published_le_length
  delivered := h.delivered_of_mem_take
  complete_iff := h.published_eq_iff
  abandoned := h.drop_eq

/-- The law of telling the workers of a header's queries: what the reports have to do with the
routes, with what the queues took, and with the attempts that were made. -/
structure FanOutLaw (routes : List Route) (retries : Nat) (h : Header)
    (reports : List FanOutReport) (log : List (Exchange Ingest)) : Prop where
  /-- There is a report for each routed query, in the order of the header. -/
  queries : reports.map FanOutReport.query =
    h.queries.filter fun query => ∃ route ∈ routes, route.key = (query, h.entity)
  /-- The queue and the count are those of the route. -/
  routed : ∀ report ∈ reports, 1 ≤ report.expected ∧ ∃ route ∈ routes,
    route.key = (report.query, h.entity) ∧ route.queue = report.queue ∧
      route.endCount = report.expected
  /-- The messages that are counted are those that the queue took for this query. -/
  counted : ∀ report ∈ reports,
    (taken report.queue report.query (tried log)).length = report.published
  tells : ∀ report ∈ reports, ∀ m ∈ taken report.queue report.query (tried log),
    m.TellsEnd report.query h
  /-- The attempts are those for the first query, then those for the next one, and so on; each
  query has all its messages and each message all its attempts before it. -/
  courses : ∃ blocks, tried log = blocks.flatten ∧
    List.Forall₂ (fun report block => ∃ rounds, report.Explained retries rounds ∧
      block = tries report.queue (.endOfStream report.query h.client h.entity) rounds.flatten)
      reports blocks

/-- The workers are told as the routes say and the reports tell what happened, whichever of the
attempts fail. -/
theorem fanOut_exact {routes : List Route} {counts : List (QueryId × Nat)} {tables : Tables}
    (hbuild : Tables.build routes counts = .ok tables) {line : String} {h : Header}
    (hparse : Header.parse line = .ok h) {retries : UInt32}
    (hretries : retries.toNat + 1 < UInt32.size) (w : World Ingest) (past : List (Exchange Ingest)) :
    ∃ reports, (w.play past (Router.fanOut ⟨tables, retries⟩ h).run).1 = .ok reports ∧
      FanOutLaw routes retries.toNat h reports
        (w.play past (Router.fanOut ⟨tables, retries⟩ h).run).2 := by
  obtain ⟨reports, blocks, hreports, hqueries, heach, hblocks, htells⟩ :=
    Router.run_fanOutTo (r := ⟨tables, retries⟩) (.inl hretries)
      (w.run_play past (Router.fanOut ⟨tables, retries⟩ h).run)
  have hnodup : (reports.map FanOutReport.query).Nodup := by
    rw [hqueries]
    exact (Header.nodup_queries hparse).filter _
  have htaken : ∀ report ∈ reports, taken report.queue report.query blocks.flatten =
      List.replicate report.published (.endOfStream report.query h.client h.entity) := by
    intro report hreport
    exact FanOutReport.Tells.taken_of_mem htells hnodup hreport
  refine ⟨reports, hreports, ?_, ?_, ?_, ?_, blocks, hblocks, ?_⟩
  · rw [hqueries]
    apply List.filter_congr
    intro query _
    rw [Bool.eq_iff_iff, decide_eq_true_iff]
    exact Tables.isSome_queue?_iff hbuild
  · intro report hreport
    obtain ⟨hqueue, hexpected⟩ := heach report hreport
    obtain ⟨route, hroute, hkey, hname, hcount⟩ := Tables.exists_route hbuild hqueue
    have hend : route.endCount = report.expected := by
      rw [hexpected, Router.workers, hcount, Option.getD_some]
    refine ⟨?_, route, hroute, hkey, hname, hend⟩
    rw [← hend]
    exact Tables.ingest?_pos hbuild hcount
  · intro report hreport
    rw [hblocks, htaken report hreport, List.length_replicate]
  · intro report hreport m hm
    rw [hblocks, htaken report hreport] at hm
    rw [List.eq_of_mem_replicate hm]
    exact Message.tellsEnd_endOfStream _ _
  · apply htells.imp
    rintro report block ⟨rounds, hcourse, rfl⟩
    exact ⟨rounds, FanOutReport.explained hcourse, rfl⟩

/-- Of two queues the first one fails for good; the worker of the second query is told all the
same. -/
theorem fanOut_exact_of_failing_queue :
    ∃ tables h,
      Tables.build [⟨⟨"Q1"⟩, .movies, "first", 2⟩, ⟨⟨"Q2"⟩, .movies, "second", 1⟩] [] =
        .ok tables ∧
      Header.parse "Q1|Q2,MOVIES,client,EOF" = .ok h ∧
      FanOutLaw [⟨⟨"Q1"⟩, .movies, "first", 2⟩, ⟨⟨"Q2"⟩, .movies, "second", 1⟩] 1 h
        [⟨⟨"Q1"⟩, "first", 2, 0⟩, ⟨⟨"Q2"⟩, "second", 1, 1⟩]
        [⟨.publish "first" (.endOfStream ⟨"Q1"⟩ ⟨"client"⟩ .movies), .error .closed⟩,
          ⟨.pause 25, ()⟩,
          ⟨.publish "first" (.endOfStream ⟨"Q1"⟩ ⟨"client"⟩ .movies), .error .closed⟩,
          ⟨.publish "second" (.endOfStream ⟨"Q2"⟩ ⟨"client"⟩ .movies), .ok ()⟩] := by
  have hbuild : Tables.build [⟨⟨"Q1"⟩, .movies, "first", 2⟩, ⟨⟨"Q2"⟩, .movies, "second", 1⟩] [] =
      .ok _ := rfl
  have hparse : Header.parse "Q1|Q2,MOVIES,client,EOF" =
      .ok ⟨[⟨"Q1"⟩, ⟨"Q2"⟩], .movies, ⟨"client"⟩, .endOfStream⟩ := rfl
  have hretries : (1 : UInt32).toNat + 1 < UInt32.size := by decide
  obtain ⟨reports, hreports, hlaw⟩ := fanOut_exact hbuild hparse hretries (fun
    | _, .publish queue _ => if queue = "first" then .error .closed else .ok ()
    | _, .pause _ => ()
    | _, .acknowledge _ => .ok ()) []
  obtain rfl := Except.ok.inj hreports
  exact ⟨_, _, hbuild, hparse, hlaw⟩

end QueryGateway
