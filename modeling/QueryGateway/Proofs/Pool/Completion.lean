import Mathlib.Data.Prod.Lex
import Mathlib.Logic.Relation
import Mathlib.Order.WellFounded
import QueryGateway.Proofs.Pool.Invariant

/-! # How a pool comes to its end

The last awaited message is handled once, and then there is nothing left of the stream or of its
results. Every run of a pool ends, and it ends nowhere else.
-/

namespace QueryGateway.Pool

variable {S : Setting} {s s' : Pool} {queued published rest : List Message}

/-! ## After the last message -/

namespace Inv

/-- When every worker has taken an end, nothing of the stream is left. -/
theorem eq_nil_of_ended (h : Inv S s queued published rest)
    (hall : s.taken.countP Replica.isEnd = S.workers) :
    queued = [] ∧ rest = [] ∧ S.told = S.workers := by
  have hcount := Setting.countP_isEnd_work (S := S)
  have hle := S.told_le
  rw [← h.work, List.countP_append, hall] at hcount
  have htold : S.told = S.workers := by omega
  have hnone : (queued ++ rest).countP Replica.isEnd = 0 := by omega
  have hempty : queued ++ rest = [] := by
    rcases List.eq_nil_or_concat' (queued ++ rest) with hempty | ⟨front, m, hlast⟩
    · exact hempty
    · obtain ⟨n, hn⟩ := Nat.exists_eq_succ_of_ne_zero (Nat.one_le_iff_ne_zero.mp S.workers_pos)
      have hwork := h.work
      rw [hlast, Setting.work, htold, hn, List.replicate_succ', ← List.append_assoc,
        ← List.append_assoc] at hwork
      have hend : m = S.streamEnd := by simpa using (List.append_inj' hwork rfl).2
      rw [hlast, hend, List.countP_append, List.countP_singleton,
        if_pos Setting.isEnd_streamEnd] at hnone
      omega
  obtain ⟨hqueued, hrest⟩ := List.append_eq_nil_iff.mp hempty
  exact ⟨hqueued, hrest, htold⟩

/-- How many ends the delivery side has handled, and where the others are. -/
theorem endsIn_sent (h : Inv S s queued published rest) :
    endsIn S.client S.query s.handled + endsIn S.client S.query published +
      endsIn S.client S.query (s.replicas.flatMap Replica.outbox) =
      s.taken.countP Replica.isEnd := by
  have hcount := h.sent.countP_eq (Message.ends S.client S.query)
  rw [List.countP_append, List.countP_append, List.countP_append] at hcount
  have hfound := Setting.endsIn_eq_zero h.found
  have hends := Setting.endsIn_replicate (S := S) (s.taken.countP Replica.isEnd)
  rw [endsIn] at hfound hends ⊢
  rw [endsIn, endsIn]
  omega

/-- A pool in which all results were published and handled is finished. -/
theorem finished (h : Inv S s queued [] rest)
    (hall : s.taken.countP Replica.isEnd = S.workers)
    (hstopped : ∀ r ∈ s.replicas, r.Stopped) : Finished S s ∧ s.completions = 1 := by
  obtain ⟨rfl, rfl, htold⟩ := h.eq_nil_of_ended hall
  have hempty : s.replicas.flatMap Replica.outbox = [] := by
    rw [List.flatMap_eq_nil_iff]
    intro r hr
    exact (hstopped r hr).2
  have hhandled : endsIn S.client S.query s.handled = S.workers := by
    have hsent := h.endsIn_sent
    rw [hempty, hall] at hsent
    simpa [endsIn] using hsent
  constructor
  · exact {
      router := by
        obtain ⟨result, hdone⟩ := Ingest.eq_done_of_smooth_eq_nil (congrArg Prod.fst h.router)
        obtain ⟨reports, hreports⟩ := Setting.outcome_eq_ok htold
        have hresult := congrArg Prod.snd h.router
        rw [hdone, hreports] at hresult
        exact ⟨reports, by rw [hdone, show result = .ok reports from hresult]⟩
      queue := h.queue.messages_eq
      results := h.results.messages_eq
      taken := by
        have hwork := h.work
        rw [List.append_nil, List.append_nil, Setting.work, htold] at hwork
        exact hwork
      stopped := hstopped
      handled := by
        have hsent := h.sent
        rw [hempty, hall, List.append_nil, List.append_nil] at hsent
        exact hsent }
  · rw [h.completions, hhandled]
    exact Nat.div_self S.workers_pos

/-- The last awaited message is handled when all workers have stopped, and it is the last result. -/
theorem finished_of_completions (h : Inv S s queued published rest) (hpos : 0 < s.completions) :
    Finished S s ∧ s.completions = 1 := by
  have hsent := h.endsIn_sent
  have hle : s.replicas.countP Replica.ended ≤ S.workers := by
    rw [← h.workers]
    exact List.countP_le_length
  have hhandled : S.workers ≤ endsIn S.client S.query s.handled := by
    rw [h.completions] at hpos
    exact (Nat.div_pos_iff.mp hpos).2
  have hended := h.ended
  have hall : s.taken.countP Replica.isEnd = S.workers := by omega
  have hpublished : endsIn S.client S.query published = 0 := by omega
  have houtbox : endsIn S.client S.query (s.replicas.flatMap Replica.outbox) = 0 := by omega
  have hstopped : ∀ r ∈ s.replicas, r.Stopped := by
    intro r hr
    have hend : r.ended = true := by
      have hlength : s.replicas.countP Replica.ended = s.replicas.length := by
        rw [hended, hall, h.workers]
      exact List.countP_eq_length.mp hlength r hr
    refine ⟨hend, ?_⟩
    cases h.sound r hr with
    | working hrows => cases hend
    | ending =>
        have hmem : S.workerEnd ∈ s.replicas.flatMap Replica.outbox :=
          List.mem_flatMap.mpr ⟨_, hr, by simp⟩
        exact absurd Setting.ends_workerEnd (List.countP_eq_zero.mp houtbox _ hmem)
    | stopped => rfl
  have hempty : published = [] := by
    rcases List.eq_nil_or_concat' published with hempty | ⟨front, m, rfl⟩
    · exact hempty
    · have hlast := h.last hstopped
      rw [← List.append_assoc, List.getLast?_concat] at hlast
      obtain rfl := Option.some.inj hlast
      have hmem : S.workerEnd ∈ front ++ [S.workerEnd] := by simp
      exact absurd Setting.ends_workerEnd (List.countP_eq_zero.mp hpublished _ hmem)
  subst hempty
  exact h.finished hall hstopped

/-- Nothing is completed in a pool whose workers are not told of the end. -/
theorem completions_eq_zero (h : Inv S s queued published rest) (hnone : S.told = 0) :
    s.completions = 0 := by
  have htaken : s.taken.countP Replica.isEnd = 0 := by
    have hcount := Setting.countP_isEnd_work (S := S)
    rw [← h.work, List.countP_append, hnone] at hcount
    omega
  have hhandled : endsIn S.client S.query s.handled = 0 := by
    have hsent := h.endsIn_sent
    omega
  rw [h.completions, hhandled, Nat.zero_div]

end Inv

/-! ## Nowhere else -/

namespace Inv

/-- The delivery side can handle a result. -/
theorem exists_handle (h : Inv S s queued published rest) (hsome : published ≠ []) :
    ∃ s', Step S s s' := by
  obtain ⟨m, more, rfl⟩ := List.exists_cons_of_ne_nil hsome
  have hnext : s.broker.next S.results 0 = _ := Broker.next_cons h.results
  exact ⟨_, .handle (.attentive S.client ⟨0⟩) hnext⟩

/-- A worker can publish a result if there is room for it. -/
theorem exists_reply (h : Inv S s queued [] rest) {r : Replica} (hr : r ∈ s.replicas)
    (hsome : r.outbox ≠ []) : ∃ s', Step S s s' := by
  obtain ⟨before, after, hreplicas⟩ := List.append_of_mem hr
  obtain ⟨outbox, ended⟩ := r
  obtain ⟨m, more, rfl⟩ := List.exists_cons_of_ne_nil hsome
  have hpublish : s.broker.publish S.results 0 m = _ := Broker.publish_of_lt h.results h.capacity
  exact ⟨_, .reply hreplicas hpublish⟩

/-- An idle worker can take a message. -/
theorem exists_take (h : Inv S s queued published rest) (hr : .idle ∈ s.replicas)
    (hsome : queued ≠ []) : ∃ s', Step S s s' := by
  obtain ⟨before, after, hreplicas⟩ := List.append_of_mem hr
  obtain ⟨m, more, rfl⟩ := List.exists_cons_of_ne_nil hsome
  have hnext : s.broker.next S.queue 0 = _ := Broker.next_cons h.queue
  exact ⟨_, .take [] hreplicas hnext⟩

/-- The router can publish a message if there is room for it. -/
theorem exists_publish (h : Inv S s [] published rest) (hsome : rest ≠ []) :
    ∃ s', Step S s s' := by
  obtain ⟨m, more, rfl⟩ := List.exists_cons_of_ne_nil hsome
  have hrequests := congrArg Prod.fst h.router
  cases hrouter : s.router with
  | done result =>
      rw [hrouter] at hrequests
      cases hrequests
  | perform request next =>
      rw [hrouter] at hrequests
      have hrequest : request = .publish S.queue m := (List.cons.inj hrequests).1
      subst hrequest
      have hpublish : s.broker.publish S.queue 0 m = _ := Broker.publish_of_lt h.queue h.capacity
      exact ⟨_, .publish hrouter hpublish⟩

/-- A pool that can do nothing is finished, if the router tells every worker of the end. -/
theorem finished_of_stuck (h : Inv S s queued published rest)
    (hretries : S.retries.toNat + 1 < UInt32.size) (hstuck : ∀ s', ¬Step S s s') :
    Finished S s ∧ s.completions = 1 := by
  have hno : ¬∃ s', Step S s s' := fun ⟨s', hstep⟩ => hstuck s' hstep
  have hpublished : published = [] := by
    by_contra hsome
    exact hno (h.exists_handle hsome)
  subst hpublished
  have houtbox : ∀ r ∈ s.replicas, r.outbox = [] := by
    intro r hr
    by_contra hsome
    exact hno (h.exists_reply hr hsome)
  have hresting : ∀ r ∈ s.replicas, r = .idle ∨ r.Stopped := by
    intro r hr
    have hempty := houtbox r hr
    cases h.sound r hr with
    | working hrows =>
        left
        rw [Replica.idle, ← hempty]
    | ending => cases hempty
    | stopped => exact Or.inr ⟨rfl, rfl⟩
  -- as long as messages are queued nobody is idle, so every worker has taken its end already
  have hqueued : queued = [] := by
    by_contra hsome
    have hstopped : ∀ r ∈ s.replicas, r.ended = true := by
      intro r hr
      rcases hresting r hr with rfl | hstopped
      · exact absurd (h.exists_take hr hsome) hno
      · exact hstopped.1
    have hall : s.taken.countP Replica.isEnd = S.workers := by
      rw [← h.ended, List.countP_eq_length.mpr hstopped, h.workers]
    exact hsome (h.eq_nil_of_ended hall).1
  subst hqueued
  have hrest : rest = [] := by
    by_contra hsome
    exact hno (h.exists_publish hsome)
  subst hrest
  have hall : s.taken.countP Replica.isEnd = S.workers := by
    have hcount := Setting.countP_isEnd_work (S := S)
    rw [← h.work, List.append_nil, List.append_nil] at hcount
    rw [hcount]
    exact Setting.told_eq hretries
  have hended : ∀ r ∈ s.replicas, r.ended = true := by
    apply List.countP_eq_length.mp
    rw [h.ended, hall, h.workers]
  exact h.finished hall fun r hr => ⟨hended r hr, houtbox r hr⟩

end Inv

/-! ## Every run ends -/

/-- What there is to do at most until the next row is found: the requests of the router, the
messages in the queue, the results that workers hold, and those that were published. -/
def rank (S : Setting) (s : Pool) : ℕ ×ₗ ℕ ×ₗ ℕ ×ₗ ℕ :=
  toLex ((Ingest.smooth s.router).1.length, toLex ((s.broker.messages S.queue).length,
    toLex ((s.replicas.flatMap Replica.outbox).length, (s.broker.messages S.results).length)))

theorem rank_eq (h : Inv S s queued published rest) : rank S s =
    toLex (rest.length, toLex (queued.length,
      toLex ((s.replicas.flatMap Replica.outbox).length, published.length))) := by
  rw [rank, h.queue.messages_eq, h.results.messages_eq, h.router, List.length_map]

theorem rank_lt (h : Reachable S s) (hstep : Step S s s') : rank S s' < rank S s := by
  obtain ⟨queued, published, rest, hinv⟩ := inv_of_reachable h
  rw [rank_eq hinv]
  cases hstep with
  | publish hrouter hbroker =>
      obtain ⟨rest', rfl, hinv'⟩ := hinv.publish hrouter hbroker
      rw [rank_eq hinv', Prod.Lex.toLex_lt_toLex]
      exact Or.inl (Nat.lt_succ_self _)
  | pause hrouter => exact absurd hrouter hinv.not_pause
  | take rows hreplicas hbroker =>
      obtain ⟨queued', rfl, hinv'⟩ := hinv.take rows hreplicas hbroker
      rw [rank_eq hinv', Prod.Lex.toLex_lt_toLex, Prod.Lex.toLex_lt_toLex]
      exact Or.inr ⟨rfl, Or.inl (Nat.lt_succ_self _)⟩
  | reply hreplicas hbroker =>
      rw [rank_eq (hinv.reply hreplicas hbroker), Prod.Lex.toLex_lt_toLex,
        Prod.Lex.toLex_lt_toLex, Prod.Lex.toLex_lt_toLex]
      refine Or.inr ⟨rfl, Or.inr ⟨rfl, Or.inl ?_⟩⟩
      simp [hreplicas]
  | handle w hbroker =>
      obtain ⟨published', rfl, hinv'⟩ := hinv.handle w hbroker
      rw [rank_eq hinv', Prod.Lex.toLex_lt_toLex, Prod.Lex.toLex_lt_toLex,
        Prod.Lex.toLex_lt_toLex]
      exact Or.inr ⟨rfl, Or.inr ⟨rfl, Or.inr ⟨rfl, Nat.lt_succ_self _⟩⟩⟩

theorem not_infinite_run {run : ℕ → Pool} (hstart : Reachable S (run 0))
    (hsteps : ∀ n, Step S (run n) (run (n + 1))) : False := by
  have hreachable : ∀ n, Reachable S (run n) := by
    intro n
    induction n with
    | zero => exact hstart
    | succ n ih => exact ih.step (hsteps n)
  obtain ⟨n, hn⟩ := WellFounded.not_rel_apply_succ (r := (· < ·)) fun n => rank S (run n)
  exact hn (rank_lt (hreachable n) (hsteps n))

theorem Reachable.trans (h : Reachable S s) (hsteps : Relation.ReflTransGen (Step S) s s') :
    Reachable S s' := by
  induction hsteps with
  | refl => exact h
  | tail _ hstep ih => exact ih.step hstep

/-- From every moment on a pool can still finish. -/
theorem exists_finished (hretries : S.retries.toNat + 1 < UInt32.size) (h : Reachable S s) :
    ∃ last, Relation.ReflTransGen (Step S) s last ∧ Finished S last ∧ last.completions = 1 := by
  induction hrank : rank S s using WellFoundedLT.induction generalizing s with
  | _ r ih =>
      by_cases hstuck : ∀ s', ¬Step S s s'
      · obtain ⟨queued, published, rest, hinv⟩ := inv_of_reachable h
        exact ⟨s, .refl, hinv.finished_of_stuck hretries hstuck⟩
      · obtain ⟨s', hstep⟩ := not_forall_not.mp hstuck
        have hlt : rank S s' < r := by
          rw [← hrank]
          exact rank_lt h hstep
        obtain ⟨last, hsteps, hfinished⟩ := ih _ hlt (h.step hstep) rfl
        exact ⟨last, .head hstep hsteps, hfinished⟩

/-! ## The law -/

/-- The law of a pool. -/
structure Law (S : Setting) : Prop where
  once : ∀ s, Reachable S s → s.completions ≤ 1
  /-- The last awaited message is not handled before everything else is over. -/
  notEarly : ∀ s, Reachable S s → 0 < s.completions → Finished S s
  ends : ¬∃ run : ℕ → Pool, Reachable S (run 0) ∧ ∀ n, Step S (run n) (run (n + 1))
  /-- A pool in which no step is left has handled the last awaited message. -/
  completes : S.retries.toNat + 1 < UInt32.size →
    ∀ s, Reachable S s → (∀ s', ¬Step S s s') → s.completions = 1 ∧ Finished S s
  /-- With the most retries that a word can say, the router breaks off and no worker is told. -/
  untold : S.retries.toNat + 1 = UInt32.size → ∀ s, Reachable S s →
    s.completions = 0 ∧ ∀ result, s.router = .done result → result = .error .overflow

/-- The workers of a query end it exactly once, and only after all of their results. -/
theorem pool_completes_once (S : Setting) : Law S where
  once := by
    intro s hreachable
    obtain ⟨queued, published, rest, hinv⟩ := inv_of_reachable hreachable
    rcases Nat.eq_zero_or_pos s.completions with hzero | hpos
    · omega
    · exact (hinv.finished_of_completions hpos).2.le
  notEarly := by
    intro s hreachable hpos
    obtain ⟨queued, published, rest, hinv⟩ := inv_of_reachable hreachable
    exact (hinv.finished_of_completions hpos).1
  ends := by
    rintro ⟨run, hstart, hsteps⟩
    exact not_infinite_run hstart hsteps
  completes := by
    intro hretries s hreachable hstuck
    obtain ⟨queued, published, rest, hinv⟩ := inv_of_reachable hreachable
    exact (hinv.finished_of_stuck hretries hstuck).symm
  untold := by
    intro hretries s hreachable
    obtain ⟨queued, published, rest, hinv⟩ := inv_of_reachable hreachable
    refine ⟨hinv.completions_eq_zero (Setting.told_eq_zero hretries), ?_⟩
    intro result hdone
    have hresult := congrArg Prod.snd hinv.router
    rw [hdone, Setting.outcome_eq_error hretries] at hresult
    exact hresult

/-- One batch for a query with two workers. -/
def twoWorkers : Setting where
  routes := [⟨⟨"Q"⟩, .movies, "work", 2⟩]
  counts := [(⟨"Q"⟩, 2)]
  tables := _
  built := rfl
  retries := 2
  ackTimeout := 1000
  line := "Q,MOVIES,client,EOF"
  header := ⟨[⟨"Q"⟩], .movies, ⟨"client"⟩, .endOfStream⟩
  parsed := rfl
  query := ⟨"Q"⟩
  names := rfl
  movies := rfl
  batches := [(⟨⟨[⟨"Q"⟩], .movies, ⟨"client"⟩, .batch 0⟩, "\n1|Title|.|0|0|Drama|Argentina|2000"⟩, 0)]
  likewise := by simp
  queue := "work"
  routed := rfl
  results := "results"
  separate := by decide
  workers := 2
  fanOut := rfl
  fanIn := rfl
  capacity := 1

/-- Two workers share one batch through queues that hold one message. -/
theorem pool_completes_once_of_two_workers :
    Law twoWorkers ∧ ∃ s, Reachable twoWorkers s ∧ Finished twoWorkers s ∧ s.completions = 1 := by
  have hretries : twoWorkers.retries.toNat + 1 < UInt32.size := by decide
  have hstart : Reachable twoWorkers (start twoWorkers fun _ => 0) := .start _
  obtain ⟨last, hsteps, hfinished⟩ := exists_finished hretries hstart
  exact ⟨pool_completes_once twoWorkers, last, hstart.trans hsteps, hfinished⟩

end QueryGateway.Pool
