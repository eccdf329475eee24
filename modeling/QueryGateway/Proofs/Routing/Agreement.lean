import QueryGateway.Proofs.Ingest.Attempts
import QueryGateway.Proofs.Program.Footprint
import QueryGateway.Proofs.Queue.Declared
import QueryGateway.Proofs.Routing.Building

/-! # Tables, routers and queues agree

A router finds a count wherever it finds a queue, and the queues that it finds are those that were
declared before it was given any frame.
-/

namespace QueryGateway

/-! ## Where a router publishes -/

/-- A request of a producer's session that publishes, if it does, to one of some queues. -/
def Ingest.Request.Names (names : List String) : Ingest.Request → Prop
  | .publish queue _ => queue ∈ names
  | .pause _ => True
  | .acknowledge _ => True

namespace Router

variable {names : List String} {r : Router} {h : Header} {queue : String} {m : Message}

/-- All requests of a program are of this kind. -/
abbrev Within (names : List String) (p : Program Ingest α) : Prop :=
  p.Alike (I := Ingest) (Ingest.Request.Names names) Eq p

theorem within_publish (hqueue : queue ∈ names) : Within names (Ingest.publish queue m) :=
  .perform hqueue fun _ => .done rfl

theorem Within.except_bind {x : Task α} {f : α → Task β} (hx : Within names x.run)
    (hf : ∀ a, Within names (f a).run) : Within names (x >>= f).run := by
  rw [ExceptT.run_bind]
  apply Program.Alike.bind hx
  rintro result _ rfl
  cases result with
  | error fault => exact .done rfl
  | ok a => exact hf a

theorem Within.bind {p : Program Ingest α} {f : α → Program Ingest β} (hp : Within names p)
    (hf : ∀ a, Within names (f a)) : Within names (p >>= f) :=
  Program.Alike.bind hp fun a _ heq => heq ▸ hf a

theorem within_publishWithin (hqueue : queue ∈ names) (left attempt : Nat) :
    Within names (publishWithin queue m left attempt) := by
  induction left generalizing attempt with
  | zero => exact .done rfl
  | succ left ih =>
      rw [publishWithin]
      apply (within_publish hqueue).bind
      intro accepted
      split
      · exact .done rfl
      · split
        · exact .done rfl
        · exact .perform trivial fun _ => ih (attempt + 1)

theorem within_publishEnd (hqueue : queue ∈ names) : Within names (r.publishEnd queue m).run := by
  rw [publishEnd]
  cases r.attempts with
  | error fault => exact .done rfl
  | ok attempts => exact (within_publishWithin hqueue attempts 1).bind fun _ => .done rfl

theorem within_publishEnds (hqueue : queue ∈ names) (count : Nat) :
    Within names (r.publishEnds queue m count).run := by
  induction count with
  | zero => exact .done rfl
  | succ count ih =>
      rw [publishEnds]
      apply (within_publishEnd hqueue).except_bind
      intro sent
      cases sent with
      | true => exact ih.except_bind fun _ => .done rfl
      | false => exact .done rfl

theorem queue_mem (hqueue : r.queue? h query = some queue) :
    queue ∈ r.tables.routing.queueNames :=
  RoutingTable.mem_queueNames_iff.mpr ⟨query, h.entity, hqueue⟩

theorem within_fanOutTo (r : Router) (h : Header) (queries : List QueryId) :
    Within r.tables.routing.queueNames (r.fanOutTo h queries).run := by
  induction queries with
  | nil => exact .done rfl
  | cons query rest ih =>
      rw [fanOutTo]
      split
      · exact ih
      · next queue hqueue =>
          exact (within_publishEnds (queue_mem hqueue) _).except_bind fun _ =>
            ih.except_bind fun _ => .done rfl

theorem within_publishBatch (r : Router) (h : Header) (id : UInt64) (body : Bytes)
    (queries : List QueryId) :
    Within r.tables.routing.queueNames (r.publishBatch h id body queries) := by
  induction queries with
  | nil => exact .done rfl
  | cons query rest ih =>
      have hrest : ∀ sent : Bool, Within r.tables.routing.queueNames (do
          let outcome ← r.publishBatch h id body rest
          return if sent then { outcome with published := query :: outcome.published }
            else { outcome with skipped := query :: outcome.skipped }) :=
        fun _ => ih.bind fun _ => .done rfl
      rw [publishBatch]
      split
      · next queue hqueue => exact (within_publish (queue_mem hqueue)).bind hrest
      · exact hrest false

/-- What a router has asked for while it served a frame, to the end or up to some point. -/
inductive Serves (r : Router) : List (Exchange Ingest) → Prop where
  | batch {batch : Batch} {id : UInt64} {log : List (Exchange Ingest)}
      {rest : Program Ingest BatchOutcome} : (r.routeBatch batch id).Reaches log rest → Serves r log
  | notice {h : Header} {log : List (Exchange Ingest)}
      {rest : Program Ingest (Except RouterFault (List FanOutReport))} :
      (r.fanOut h).run.Reaches log rest → Serves r log

theorem Serves.queue_mem {log : List (Exchange Ingest)} (hserves : r.Serves log)
    {answer : Except BrokerError Unit} (hmem : ⟨.publish queue m, answer⟩ ∈ log) :
    queue ∈ r.tables.routing.queueNames := by
  cases hserves with
  | batch hreaches => exact (within_publishBatch r _ _ _ _).of_reaches hreaches _ hmem
  | notice hreaches => exact (within_fanOutTo r _ _).of_reaches hreaches _ hmem

/-- Reports hold the count that is found with their queue. -/
theorem expected_of_run (hcount : ∀ query queue, r.queue? h query = some queue →
      (r.tables.multiplicity.ingest? query h.entity).isSome) {queries : List QueryId}
    {log : List (Exchange Ingest)} {reports : List FanOutReport}
    (hrun : (r.fanOutTo h queries).run.Run log (.ok reports)) : ∀ report ∈ reports,
      r.queue? h report.query = some report.queue ∧
        r.tables.multiplicity.ingest? report.query h.entity = some report.expected := by
  induction queries generalizing log reports with
  | nil =>
      obtain ⟨-, hok⟩ := Program.Run.done_iff.mp hrun
      obtain rfl := Except.ok.inj hok
      exact fun _ hreport => absurd hreport List.not_mem_nil
  | cons query rest ih =>
      cases hqueue : r.queue? h query with
      | none =>
          simp only [fanOutTo, hqueue] at hrun
          exact ih hrun
      | some queue =>
          simp only [fanOutTo, hqueue] at hrun
          rcases Program.Run.except_bind_iff.mp hrun with
            ⟨_, -, hfailed⟩ | ⟨published, _, _, rfl, -, hnext⟩
          · cases hfailed
          rcases Program.Run.except_bind_iff.mp hnext with
            ⟨_, -, hfailed⟩ | ⟨others, _, _, rfl, hrest, hdone⟩
          · cases hfailed
          obtain ⟨-, hok⟩ := Program.Run.done_iff.mp hdone
          obtain rfl := Except.ok.inj hok
          obtain ⟨n, hn⟩ := Option.isSome_iff_exists.mp (hcount query queue hqueue)
          refine List.forall_mem_cons.mpr ⟨⟨hqueue, ?_⟩, ih hrest⟩
          simp only [workers, hn, Option.getD_some]

end Router

/-! ## The law -/

/-- The publishes in a log are calls on a broker, with what these have ended with. -/
def Traffic.Answers (s : Traffic) (log : List (Exchange Ingest)) : Prop :=
  ∀ queue m answer, (⟨.publish queue m, answer⟩ : Exchange Ingest) ∈ log →
    ∃ ticket, (ticket, .publish queue m, .published answer) ∈ s.ended

/-- What tables say that were built from settings. -/
structure Tables.Agrees (c : Config) (t : Tables) : Prop where
  queue : ∀ query entity name, t.routing.queue? query entity = some name ↔
    ∃ r ∈ c.routes, r.key = (query, entity) ∧ r.queue = name
  ingest : ∀ query entity n, t.multiplicity.ingest? query entity = some n ↔
    ∃ r ∈ c.routes, r.key = (query, entity) ∧ r.endCount = n
  /-- The count that stands in when there is none is not used. -/
  expected : ∀ retries h log reports, (Router.fanOut ⟨t, retries⟩ h).run.Run log (.ok reports) →
    ∀ report ∈ reports, t.routing.queue? report.query h.entity = some report.queue ∧
      t.multiplicity.ingest? report.query h.entity = some report.expected
  results : ∀ query, t.multiplicity.resultCount query = (c.resultCount? query).getD 1 ∧
    t.multiplicity.resultCount query ≠ 0
  sorted : t.routing.queueNames.Pairwise (· < ·)
  names : ∀ name, name ∈ t.routing.queueNames ↔ ∃ r ∈ c.routes, r.queue = name
  /-- The queues can be declared on a broker that takes any. Whatever is done to that broker
  afterwards, no publish of a router fails because its queue is unknown. -/
  declared : ∀ log broker exchanges result broker', broker.CanDeclare →
    (((t.routing.queueNames ++ [c.output.resultsQueue]).forM
      (Gateway.declare log)).run.run broker).Run exchanges (result, broker') →
    result = .ok () ∧
      ∀ actions retries served, (Router.mk t retries).Serves served →
        (Traffic.run ⟨broker', 0, [], []⟩ actions).Answers served →
        ∀ queue m name,
          (⟨.publish queue m, .error (.unknownQueue name)⟩ : Exchange Ingest) ∉ served

/-- Settings form tables exactly if every route can be taken and no count is zero. Otherwise the
first route at fault is reported, or, if there is none, a query with a zero count. -/
theorem tables_agree (c : Config) :
    ((∃ t, c.tables = .ok t) ↔ Route.Clean c.routes ∧ c.Counted) ∧
    (¬Route.Clean c.routes → ∃ before r after e, c.routes = before ++ r :: after ∧
      Route.Clean before ∧ r.Refused before e ∧ c.tables = .error e) ∧
    (Route.Clean c.routes → ¬c.Counted →
      ∃ query, c.HasZero query ∧ c.tables = .error (.zeroMultiplicity query)) ∧
    ∀ t, c.tables = .ok t → t.Agrees c := by
  refine ⟨c.exists_tables_iff, Config.tables_of_not_clean, Config.tables_of_not_counted, ?_⟩
  intro t ht
  refine ⟨fun _ _ _ => Config.queue?_eq_some_iff ht, fun _ _ _ => Config.ingest?_eq_some_iff ht,
    ?_, ?_, t.routing.sorted_queueNames, fun _ => Config.mem_queueNames_iff ht, ?_⟩
  · intro retries h log reports hrun
    have hcount : ∀ query queue, Router.queue? ⟨t, retries⟩ h query = some queue →
        (t.multiplicity.ingest? query h.entity).isSome := by
      intro query queue hqueue
      obtain ⟨r, -, -, -, hingest⟩ := Tables.exists_route ht hqueue
      rw [hingest]
      rfl
    exact Router.expected_of_run hcount hrun
  · intro query
    exact ⟨Config.resultCount_eq ht query,
      Nat.one_le_iff_ne_zero.mp (Tables.resultCount_pos ht query)⟩
  · intro log broker exchanges result broker' hbroker hrun
    obtain ⟨hresult, hdeclared⟩ := Gateway.declared_of_forM hbroker.isOpen hrun
    refine ⟨hresult, ?_⟩
    intro actions retries served hserves hanswers queue m name hmem
    have hthere : ∀ name ∈ t.routing.queueNames, broker'.queues.contains name = true :=
      fun name hname => hdeclared.there name (List.mem_append_left _ hname)
    obtain ⟨ticket, hended⟩ := hanswers queue m _ hmem
    have hknows := (Traffic.Knows.start broker' hthere).run actions
    exact hknows.known ticket _ _ hended (hserves.queue_mem hmem) ⟨name, rfl⟩

/-- A pair with two routes is reported, although a count before it is zero and a queue behind it has
no name. -/
example : Config.tables { routes := [⟨⟨"q"⟩, .movies, "a", 0⟩, ⟨⟨"q"⟩, .movies, "b", 1⟩,
    ⟨⟨"q"⟩, .ratings, " ", 1⟩] } = .error (.duplicateRoute ⟨"q"⟩ .movies) := rfl

end QueryGateway
