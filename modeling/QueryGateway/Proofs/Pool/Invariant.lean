import QueryGateway.Proofs.Pool.System

/-! # What stays true in a pool

Every message of a stream is in one place: the router has not published it, it waits in the queue,
or a worker has taken it. Every result is in one place too: a worker still holds it, it waits in the
results queue, or it was handled. Ends are the last thing that a worker publishes.
-/

namespace QueryGateway

/-! ## Messages of a stream -/

namespace Setting

variable {S : Setting}

/-- The message that tells a worker of the pool that the stream has ended. -/
def streamEnd (S : Setting) : Message :=
  .endOfStream S.query S.client .movies

/-- The last message of a worker. -/
def workerEnd (S : Setting) : Message :=
  .resultEnd S.query S.client

/-- A message carries rows of the pool. -/
def IsRows (S : Setting) (m : Message) : Prop :=
  ∃ rows, m = .result S.query S.client rows

/-- How many workers are told that the stream has ended: none if the router breaks off. -/
def told (S : Setting) : Nat :=
  if S.router.BreaksOff S.header then 0 else S.workers

/-- The messages of the stream. -/
def work (S : Setting) : List Message :=
  S.batches.map (Router.batchMessage S.query) ++ List.replicate S.told S.streamEnd

/-- What the router has to say at the end. -/
def outcome (S : Setting) : Except RouterFault (List FanOutReport) :=
  (Ingest.smooth (S.router.fanOut S.header).run).2

theorem query_ne (S : Setting) : S.query.text ≠ "" :=
  Header.query_text_ne S.parsed (by simp [S.names])

theorem client_ne (S : Setting) : S.client.text ≠ "" :=
  Header.client_text_ne S.parsed

theorem workers_pos (S : Setting) : 1 ≤ S.workers :=
  Tables.ingest?_pos S.built S.fanOut

theorem resultCount_pos (S : Setting) (query : QueryId) :
    1 ≤ S.consumer.multiplicity.resultCount query :=
  Tables.resultCount_pos S.built query

theorem isEnd_streamEnd : Replica.isEnd S.streamEnd = true := by
  simp [Replica.isEnd, streamEnd]

theorem isEnd_batchMessage {batch : Batch × UInt64} (h : batch ∈ S.batches) :
    Replica.isEnd (Router.batchMessage S.query batch) = false := by
  obtain ⟨-, hmovies, -⟩ := S.likewise batch h
  rw [Replica.isEnd, Router.batchMessage, Message.type_batch, hmovies]
  rfl

/-- A worker that takes an end of the stream has its last message to publish. -/
theorem take_streamEnd (rows : List Bytes) :
    Replica.take S.streamEnd rows = ⟨[S.workerEnd], true⟩ := by
  rw [Replica.take, if_pos isEnd_streamEnd]
  simp [streamEnd, workerEnd]

/-- A worker that takes a batch has the rows that it found to publish. -/
theorem take_batchMessage {batch : Batch × UInt64} (h : batch ∈ S.batches) (rows : List Bytes) :
    Replica.take (Router.batchMessage S.query batch) rows =
      ⟨rows.map (.result S.query S.client), false⟩ := by
  obtain ⟨-, -, hclient⟩ := S.likewise batch h
  rw [Replica.take, if_neg (by simp [isEnd_batchMessage h])]
  simp [Router.batchMessage, hclient, client]

theorem mem_work_iff {m : Message} : m ∈ S.work ↔
    (∃ batch ∈ S.batches, Router.batchMessage S.query batch = m) ∨
      (S.told ≠ 0 ∧ m = S.streamEnd) := by
  simp [work]

theorem countP_isEnd_work : S.work.countP Replica.isEnd = S.told := by
  have hbatches : (S.batches.map (Router.batchMessage S.query)).countP Replica.isEnd = 0 := by
    rw [List.countP_eq_zero]
    intro m hm
    obtain ⟨batch, hbatch, rfl⟩ := List.mem_map.mp hm
    simp [isEnd_batchMessage hbatch]
  rw [work, List.countP_append, hbatches, List.countP_replicate, if_pos isEnd_streamEnd]
  omega

theorem ends_workerEnd : S.workerEnd.ends S.client S.query = true :=
  Message.ends_iff.mpr (Message.resultMeta_resultEnd S.query_ne S.client_ne)

theorem not_ends_of_isRows {m : Message} (h : S.IsRows m) :
    ¬m.ends S.client S.query = true := by
  obtain ⟨rows, rfl⟩ := h
  rw [Message.ends_iff, Message.resultMeta_result S.query_ne S.client_ne]
  simp

theorem endsIn_eq_zero {ms : List Message} (h : ∀ m ∈ ms, S.IsRows m) :
    endsIn S.client S.query ms = 0 :=
  List.countP_eq_zero.mpr fun m hm => not_ends_of_isRows (h m hm)

theorem endsIn_replicate (n : Nat) :
    endsIn S.client S.query (List.replicate n S.workerEnd) = n := by
  rw [endsIn, List.countP_replicate, if_pos ends_workerEnd]

theorem queue?_header (S : Setting) : S.router.queue? S.header S.query = some S.queue := by
  rw [Router.queue?, S.movies]
  exact S.routed

theorem workers_header (S : Setting) : S.router.workers S.query S.header.entity = S.workers := by
  have hcount : S.router.tables.multiplicity.ingest? S.query S.header.entity = some S.workers := by
    rw [S.movies]
    exact S.fanOut
  rw [Router.workers, hcount, Option.getD_some]

/-- There is somebody to tell, so the retries decide on whether the router breaks off. -/
theorem breaksOff_iff (S : Setting) :
    S.router.BreaksOff S.header ↔ S.retries.toNat + 1 = UInt32.size := by
  have hsome : S.router.HasWorkers S.header S.header.queries := by
    refine ⟨S.query, by simp [S.names], by simp [S.queue?_header], ?_⟩
    rw [S.workers_header]
    exact Nat.ne_of_gt S.workers_pos
  exact and_iff_left hsome

theorem told_le (S : Setting) : S.told ≤ S.workers := by
  rw [told]
  split <;> omega

theorem told_eq (hretries : S.retries.toNat + 1 < UInt32.size) : S.told = S.workers :=
  if_neg (mt S.breaksOff_iff.mp (Nat.ne_of_lt hretries))

theorem told_eq_zero (hretries : S.retries.toNat + 1 = UInt32.size) : S.told = 0 :=
  if_pos (S.breaksOff_iff.mpr hretries)

/-- A router that tells the workers has reports in the end. -/
theorem outcome_eq_ok (htold : S.told = S.workers) : ∃ reports, S.outcome = .ok reports := by
  have hpos := S.workers_pos
  have hkept : ¬S.router.BreaksOff S.header := by
    intro hbreaks
    rw [told, if_pos hbreaks] at htold
    omega
  obtain ⟨reports, hsmooth⟩ := Router.smooth_fanOut hkept
  exact ⟨reports, congrArg Prod.snd hsmooth⟩

theorem outcome_eq_error (hretries : S.retries.toNat + 1 = UInt32.size) :
    S.outcome = .error .overflow := by
  rw [outcome, Router.run_fanOut_eq_error (S.breaksOff_iff.mpr hretries)]
  rfl

theorem smooth_fanOut (S : Setting) : (Ingest.smooth (S.router.fanOut S.header).run).1 =
    (List.replicate S.told S.streamEnd).map (Ingest.Request.publish S.queue) := by
  by_cases hbreaks : S.router.BreaksOff S.header
  · rw [Router.run_fanOut_eq_error hbreaks, told, if_pos hbreaks]
    rfl
  · obtain ⟨reports, hsmooth⟩ := Router.smooth_fanOut hbreaks
    rw [hsmooth, told, if_neg hbreaks, S.names, List.flatMap_singleton, S.workers_header,
      Router.address_eq S.queue?_header, List.map_map, S.movies]
    rfl

/-- The requests of the router are the messages of the stream. -/
theorem smooth_stream (S : Setting) :
    Ingest.smooth (S.router.stream S.header S.batches) =
      (S.work.map (Ingest.Request.publish S.queue), S.outcome) := by
  have hbatches : ∀ batch ∈ S.batches, batch.1.header.queries = [S.query] ∧
      S.router.queue? batch.1.header S.query = some S.queue := by
    intro batch hbatch
    obtain ⟨hnames, hmovies, -⟩ := S.likewise batch hbatch
    refine ⟨hnames, ?_⟩
    rw [Router.queue?, hmovies]
    exact S.routed
  rw [Router.smooth_stream hbatches, S.smooth_fanOut, work, List.map_append, outcome]

end Setting

/-! ## The invariant -/

/-- What a worker can have left to publish. -/
inductive Replica.Sound (S : Setting) : Replica → Prop where
  | working {outbox : List Message} : (∀ m ∈ outbox, S.IsRows m) → Sound S ⟨outbox, false⟩
  | ending : Sound S ⟨[S.workerEnd], true⟩
  | stopped : Sound S ⟨[], true⟩

section

variable {S : Setting} {m : Message}

theorem Replica.sound_take (h : m ∈ S.work) (rows : List Bytes) :
    (Replica.take m rows).Sound S := by
  rcases Setting.mem_work_iff.mp h with ⟨batch, hbatch, rfl⟩ | ⟨-, rfl⟩
  · rw [Setting.take_batchMessage hbatch]
    apply Replica.Sound.working
    intro result hresult
    obtain ⟨body, -, rfl⟩ := List.mem_map.mp hresult
    exact ⟨body, rfl⟩
  · rw [Setting.take_streamEnd]
    exact .ending

theorem Replica.outbox_take (h : m ∈ S.work) (rows : List Bytes) :
    (Replica.take m rows).outbox =
      Replica.rowsFor m rows ++ List.replicate ([m].countP Replica.isEnd) S.workerEnd := by
  rcases Setting.mem_work_iff.mp h with ⟨batch, hbatch, rfl⟩ | ⟨-, rfl⟩
  · simp [Replica.rowsFor, Setting.isEnd_batchMessage hbatch]
  · simp [Replica.rowsFor, Setting.isEnd_streamEnd, Setting.take_streamEnd]

theorem Replica.isRows_of_mem_rowsFor (h : m ∈ S.work) {rows : List Bytes} {result : Message}
    (hresult : result ∈ Replica.rowsFor m rows) : S.IsRows result := by
  rcases Setting.mem_work_iff.mp h with ⟨batch, hbatch, rfl⟩ | ⟨-, rfl⟩
  · rw [Replica.rowsFor, if_neg (by simp [Setting.isEnd_batchMessage hbatch]),
      Setting.take_batchMessage hbatch] at hresult
    obtain ⟨body, -, rfl⟩ := List.mem_map.mp hresult
    exact ⟨body, rfl⟩
  · rw [Replica.rowsFor, if_pos Setting.isEnd_streamEnd] at hresult
    cases hresult

/-- What holds of all workers still does if one of them changes to a state in which it holds. -/
theorem Replica.forall_mem_replace {p : Replica → Prop} {replicas before after : List Replica}
    {old new : Replica} (hall : ∀ r ∈ replicas, p r) (hreplicas : replicas = before ++ old :: after)
    (hnew : p new) : ∀ r ∈ before ++ new :: after, p r := by
  intro r hr
  rcases List.mem_append.mp hr with hr | hr
  · exact hall r (by simp [hreplicas, hr])
  · rcases List.mem_cons.mp hr with rfl | hr
    · exact hnew
    · exact hall r (by simp [hreplicas, hr])

/-- A worker that just took a message is not stopped. -/
theorem Replica.not_stopped_take (h : m ∈ S.work) (rows : List Bytes) :
    ¬(Replica.take m rows).Stopped := by
  rintro ⟨hended, hempty⟩
  rw [Replica.ended_take] at hended
  rw [Replica.outbox_take h, List.append_eq_nil_iff, List.countP_singleton, if_pos hended] at hempty
  cases hempty.2

end

/-- The invariant of a pool: `queued` is in the queue of the workers, `published` in the results
queue, and `rest` is what the router has still to publish. -/
structure Pool.Inv (S : Setting) (s : Pool) (queued published rest : List Message) : Prop where
  queue : s.broker.Holds S.queue queued
  results : s.broker.Holds S.results published
  capacity : 1 ≤ s.broker.capacity
  router : Ingest.smooth s.router = (rest.map (Ingest.Request.publish S.queue), S.outcome)
  /-- The messages of the stream are taken in their order. -/
  work : s.taken ++ (queued ++ rest) = S.work
  workers : s.replicas.length = S.workers
  sound : ∀ r ∈ s.replicas, r.Sound S
  /-- A worker ends when it takes an end of the stream. -/
  ended : s.replicas.countP Replica.ended = s.taken.countP Replica.isEnd
  found : ∀ m ∈ s.found, S.IsRows m
  /-- Every result is published and handled once. -/
  sent : (s.handled ++ published ++ s.replicas.flatMap Replica.outbox).Perm
    (s.found ++ List.replicate (s.taken.countP Replica.isEnd) S.workerEnd)
  /-- No rows are published after all workers have stopped. -/
  last : (∀ r ∈ s.replicas, r.Stopped) → (s.handled ++ published).getLast? = some S.workerEnd
  counts : S.consumer.CountsAfter s.handled s.delivery.counts
  completions : s.completions = endsIn S.client S.query s.handled / S.workers

namespace Pool

variable {S : Setting} {s : Pool} {queued published rest : List Message}

theorem inv_start (owed : Debts) : Inv S (start S owed) [] [] S.work where
  queue := (Broker.holds_withQueues S.separate).1
  results := (Broker.holds_withQueues S.separate).2
  capacity := Broker.capacity_withQueues _ _ _
  router := S.smooth_stream
  work := rfl
  workers := List.length_replicate
  sound := by
    intro r hr
    rw [List.eq_of_mem_replicate hr]
    exact .working (by simp)
  ended := by simp [start, List.countP_replicate, Replica.idle]
  found := by simp [start]
  sent := by simp [start, List.flatMap_replicate, Replica.idle]
  last := by
    intro hstopped
    have hmem : Replica.idle ∈ (start S owed).replicas :=
      List.mem_replicate.mpr ⟨by have := S.workers_pos; omega, rfl⟩
    exact absurd (hstopped _ hmem).1 (by simp [Replica.idle])
  counts := Consumer.countsAfter_empty
  completions := by simp [start, endsIn]

namespace Inv

/-- The router publishes the next message of the stream. -/
theorem publish (h : Inv S s queued published rest) {queue : String} {m : Message}
    {ticket : Ticket}
    {next : Except BrokerError Unit → Program Ingest (Except RouterFault (List FanOutReport))}
    {answer : Except BrokerError Unit} {broker : Broker}
    (hrouter : s.router = .perform (I := Ingest) (.publish queue m) next)
    (hbroker : s.broker.publish queue ticket m = (.ready answer, broker)) :
    ∃ rest', rest = m :: rest' ∧
      Inv S { s with broker, router := next answer } (queued ++ [m]) published rest' := by
  obtain ⟨hrequests, houtcome⟩ := Prod.mk.inj (hrouter ▸ h.router)
  cases rest with
  | nil => cases hrequests
  | cons head rest' =>
      obtain ⟨hhead, htail⟩ := List.cons.inj hrequests
      cases hhead
      obtain ⟨rfl, rfl⟩ := Broker.publish_eq_ready h.queue hbroker
      refine ⟨rest', rfl, ?_⟩
      exact {
        queue := Broker.holds_setQueue h.queue.isOpen
        results := h.results.setQueue_of_ne S.separate _
        capacity := h.capacity
        router := Prod.ext htail houtcome
        work := by rw [← h.work]; simp
        workers := h.workers
        sound := h.sound
        ended := h.ended
        found := h.found
        sent := h.sent
        last := h.last
        counts := h.counts
        completions := h.completions }

/-- The router never has to wait, for no publish fails. -/
theorem not_pause (h : Inv S s queued published rest) {milliseconds : Nat}
    {next : Unit → Program Ingest (Except RouterFault (List FanOutReport))} :
    s.router ≠ .perform (I := Ingest) (.pause milliseconds) next := by
  intro hrouter
  obtain ⟨hrequests, -⟩ := Prod.mk.inj (hrouter ▸ h.router)
  cases rest with
  | nil => cases hrequests
  | cons head rest' =>
      have hhead := (List.cons.inj hrequests).1
      cases hhead

/-- An idle worker takes the next message of the stream. -/
theorem take (h : Inv S s queued published rest) {before after : List Replica} {m : Message}
    {ticket : Ticket} {broker : Broker} (rows : List Bytes)
    (hreplicas : s.replicas = before ++ .idle :: after)
    (hbroker : s.broker.next S.queue ticket = (.ready (some m), broker)) :
    ∃ queued', queued = m :: queued' ∧
      Inv S { s with
        broker
        replicas := before ++ .take m rows :: after
        taken := s.taken ++ [m]
        found := s.found ++ Replica.rowsFor m rows } queued' published rest := by
  obtain ⟨m', queued', rfl, hm, rfl⟩ := Broker.next_eq_ready h.queue hbroker
  cases hm
  have hmem : m ∈ S.work := by simp [← h.work]
  have hworkers := h.workers
  have hended := h.ended
  have hsent := h.sent
  rw [hreplicas] at hworkers hended hsent
  refine ⟨queued', rfl, ?_⟩
  exact {
    queue := Broker.holds_setQueue h.queue.isOpen
    results := h.results.setQueue_of_ne S.separate _
    capacity := h.capacity
    router := h.router
    work := by rw [← h.work]; simp
    workers := by simpa using hworkers
    sound := Replica.forall_mem_replace h.sound hreplicas (Replica.sound_take hmem rows)
    ended := by
      simp only [List.countP_append, List.countP_cons, List.countP_nil, Replica.idle,
        Replica.ended_take] at hended ⊢
      simp only [Bool.false_eq_true, if_false] at hended
      omega
    found := by
      intro result hresult
      rcases List.mem_append.mp hresult with hresult | hresult
      · exact h.found result hresult
      · exact Replica.isRows_of_mem_rowsFor hmem hresult
    sent := by
      classical
      rw [List.perm_iff_count] at hsent ⊢
      intro result
      have hcount := hsent result
      simp only [List.flatMap_append, List.flatMap_cons, Replica.idle, List.nil_append,
        List.count_append] at hcount
      simp only [List.flatMap_append, List.flatMap_cons, Replica.outbox_take hmem,
        List.countP_append, List.replicate_add, List.count_append]
      omega
    last := by
      intro hstopped
      exact absurd (hstopped _ (by simp)) (Replica.not_stopped_take hmem rows)
    counts := h.counts
    completions := h.completions }

/-- A worker publishes the next of its results. -/
theorem reply (h : Inv S s queued published rest) {before after : List Replica} {m : Message}
    {outbox : List Message} {ended : Bool} {ticket : Ticket} {broker : Broker}
    {answer : Except BrokerError Unit}
    (hreplicas : s.replicas = before ++ ⟨m :: outbox, ended⟩ :: after)
    (hbroker : s.broker.publish S.results ticket m = (.ready answer, broker)) :
    Inv S { s with broker, replicas := before ++ ⟨outbox, ended⟩ :: after }
      queued (published ++ [m]) rest := by
  obtain ⟨rfl, rfl⟩ := Broker.publish_eq_ready h.results hbroker
  have hsound : (⟨m :: outbox, ended⟩ : Replica).Sound S := h.sound _ (by simp [hreplicas])
  have hworkers := h.workers
  have hended := h.ended
  have hsent := h.sent
  rw [hreplicas] at hworkers hended hsent
  exact {
    queue := h.queue.setQueue_of_ne (Ne.symm S.separate) _
    results := Broker.holds_setQueue h.results.isOpen
    capacity := h.capacity
    router := h.router
    work := h.work
    workers := by simpa using hworkers
    sound := by
      apply Replica.forall_mem_replace h.sound hreplicas
      cases hsound with
      | working hrows =>
          exact .working fun result hresult => hrows result (List.mem_cons_of_mem _ hresult)
      | ending => exact .stopped
    ended := by simpa [List.countP_cons] using hended
    found := h.found
    sent := by
      classical
      rw [List.perm_iff_count] at hsent ⊢
      intro result
      have hcount := hsent result
      simp only [List.flatMap_append, List.flatMap_cons, List.count_append, List.count_cons,
        List.count_nil] at hcount ⊢
      omega
    last := by
      intro hstopped
      obtain ⟨rfl, rfl⟩ : ended = true ∧ outbox = [] := hstopped ⟨outbox, ended⟩ (by simp)
      cases hsound with
      | ending => simp
    counts := h.counts
    completions := h.completions }

/-- The delivery side handles the next result. -/
theorem handle (h : Inv S s queued published rest) {m : Message} {ticket : Ticket}
    {broker : Broker} (w : World Outlet)
    (hbroker : s.broker.next S.results ticket = (.ready (some m), broker)) :
    ∃ published', published = m :: published' ∧
      Inv S { s with
        broker
        delivery := (S.consumer.turn w s.delivery m).2
        handled := s.handled ++ [m]
        completions := s.completions +
          if S.consumer.completes s.delivery.counts S.client S.query m then 1 else 0 }
        queued published' rest := by
  obtain ⟨m', published', rfl, hm, rfl⟩ := Broker.next_eq_ready h.results hbroker
  cases hm
  refine ⟨published', rfl, ?_⟩
  exact {
    queue := h.queue.setQueue_of_ne (Ne.symm S.separate) _
    results := Broker.holds_setQueue h.results.isOpen
    capacity := h.capacity
    router := h.router
    work := h.work
    workers := h.workers
    sound := h.sound
    ended := h.ended
    found := h.found
    sent := by simpa using h.sent
    last := by simpa using h.last
    counts := by
      change S.consumer.CountsAfter _ (S.consumer.turn w s.delivery m).2.counts
      rw [Consumer.counts_turn]
      exact Consumer.countsAfter_frameOf S.resultCount_pos h.counts
    completions := by
      have hcount : S.consumer.multiplicity.resultCount S.query = S.workers := S.fanIn
      have hdiv : endsIn S.client S.query (s.handled ++ [m]) / _ = _ :=
        Consumer.div_endsIn_append (S.resultCount_pos S.query) h.counts
      rw [hcount] at hdiv
      rw [hdiv, h.completions] }

end Inv

/-- Whatever the steps of a pool and their order, the invariant holds. -/
theorem inv_of_reachable (h : Reachable S s) :
    ∃ queued published rest, Inv S s queued published rest := by
  induction h with
  | start owed => exact ⟨[], [], S.work, inv_start owed⟩
  | step _ hstep ih =>
      obtain ⟨queued, published, rest, hinv⟩ := ih
      cases hstep with
      | publish hrouter hbroker =>
          obtain ⟨rest', -, hinv'⟩ := hinv.publish hrouter hbroker
          exact ⟨_, _, rest', hinv'⟩
      | pause hrouter => exact absurd hrouter hinv.not_pause
      | take rows hreplicas hbroker =>
          obtain ⟨queued', -, hinv'⟩ := hinv.take rows hreplicas hbroker
          exact ⟨queued', _, _, hinv'⟩
      | reply hreplicas hbroker => exact ⟨_, _, _, hinv.reply hreplicas hbroker⟩
      | handle w hbroker =>
          obtain ⟨published', -, hinv'⟩ := hinv.handle w hbroker
          exact ⟨_, published', _, hinv'⟩

end Pool

end QueryGateway
