import Mathlib.Data.DFinsupp.WellFounded
import Mathlib.Order.PiLex
import QueryGateway.Proofs.Uplink.Breaking

/-! # Every call comes to an end

Whoever does the next step, no run goes on for ever, and one that cannot go on has made all calls.
Each queue has received the streams of its queries then, and nothing else. All calls have succeeded,
unless a router broke off: then its producer's calls have failed from that one on.
-/

namespace QueryGateway

open Ingest Producer

namespace Uplink

variable {r : Router} {offers published due : List (String × Message)} {replies owed : List Reply}
  {u u' : Uplink} {ups downs : List String} {after : Producer}

/-! ## Nowhere else -/

/-- When nothing is on its way, somebody can do something, unless everything is done. -/
theorem Inv.exists_step (h : Inv r offers replies u published ups downs due owed after)
    (hup : u.up = []) (hdown : u.down = []) (hleft : u.calls ≠ [] ∨ u.call ≠ none) :
    ∃ own u', u.Step r own u' := by
  have hphase := h.phase
  have hfar := h.far
  have hnear := h.near
  rw [hup] at hfar
  rw [hdown] at hnear
  -- The phase says whose turn it is: the producer's, or the session's while a call is handled.
  generalize hcall : u.call = now, hsession : u.session = session at hphase
  cases hphase with
  | idle _ =>
      have hcalls : u.calls ≠ [] := hleft.resolve_right fun hne => hne hcall
      obtain ⟨call, rest, hcons⟩ := List.exists_cons_of_ne_nil hcalls
      exact ⟨_, _, .begin hcall hcons⟩
  | calling hproper _ _ =>
      obtain ⟨next, hrun, -⟩ := hproper.asks_run
      rw [hrun] at hcall
      exact ⟨_, _, .write hcall rfl⟩
  | asked _ _ _ hready =>
      obtain ⟨summary, rfl | rfl⟩ := hready
      · obtain ⟨far, hlook, -⟩ := hfar.look_all
        exact ⟨_, _, .take hsession hlook⟩
      · exact ⟨_, _, .turn hsession⟩
  | @handling _ _ handler due _ _ _ hsmooth =>
      cases handler with
      | done result => exact absurd hsmooth smooth_done_ne
      | perform request next =>
          cases request with
          | publish queue m => exact ⟨_, _, .publish hsession⟩
          | pause milliseconds => exact ⟨_, _, .pause hsession⟩
          | acknowledge ack => exact ⟨_, _, .acknowledge hsession rfl⟩
  | answered hawaits _ =>
      obtain ⟨next, rfl, -⟩ := hawaits
      obtain ⟨near, hlook, -⟩ := hnear.look_all
      exact ⟨_, _, .read hcall hlook⟩
  | returned _ => exact ⟨_, _, .finish hcall⟩

/-- The end of a connection lets its producer go on. -/
theorem Broken.exists_step_of_ended (h : Broken r offers replies u published)
    (hended : u.near.inlet.ended = true) (hleft : u.calls ≠ [] ∨ u.call ≠ none) :
    ∃ own u', u.Step r own u' := by
  cases hcall : u.call with
  | none =>
      have hcalls : u.calls ≠ [] := hleft.resolve_right fun hne => hne hcall
      obtain ⟨call, rest, hcons⟩ := List.exists_cons_of_ne_nil hcalls
      exact ⟨_, _, .begin hcall hcons⟩
  | some program =>
      cases h.call program hcall with
      | failed _ => exact ⟨_, _, .finish hcall⟩
      | reading _ =>
          rcases h.near.look with ⟨hopen, -⟩ | ⟨-, e, near, hlook, -⟩
          · rw [hopen.inlet] at hended
            cases hended
          · exact ⟨_, _, .read hcall hlook⟩
      | writing _ _ _ => exact ⟨_, _, .write hcall rfl⟩

/-- When its router has broken off, a session ends the connection. -/
theorem Broken.exists_step (h : Broken r offers replies u published) (hup : u.up = [])
    (hleft : u.calls ≠ [] ∨ u.call ≠ none) : ∃ own u', u.Step r own u' := by
  cases h.falling with
  | calling _ _ _ hproper _ hcall =>
      obtain ⟨next, hrun, -⟩ := hproper.asks_run
      rw [hrun] at hcall
      exact ⟨_, _, .write hcall rfl⟩
  | asked hready _ hfar _ _ _ =>
      obtain ⟨summary, hsession | hsession⟩ := hready
      · rw [hup] at hfar
        obtain ⟨far, hlook, -⟩ := hfar.look_all
        exact ⟨_, _, .take hsession hlook⟩
      · exact ⟨_, _, .turn hsession⟩
  | handled e hsession _ => exact ⟨_, _, .stop hsession⟩
  | stopped e hsession =>
      cases hended : u.near.inlet.ended with
      | false => exact ⟨_, _, .hangUp hsession h.down hended⟩
      | true => exact h.exists_step_of_ended hended hleft

/-- A producer and a session that can do nothing have done everything. -/
theorem Sound.finished_of_stuck (h : Sound r offers replies u published)
    (hstuck : ∀ own u', ¬u.Step r own u') :
    u.calls = [] ∧ u.call = none ∧ published = offers ∧
      ∃ failed, u.replies = replies ++ failed ∧ ∀ reply ∈ failed, reply.failed = true := by
  -- Bytes on their way could be carried, so there are none.
  have hup : u.up = [] := by
    by_contra hsome
    exact hstuck _ _ (.carryUp (List.append_nil u.up).symm hsome)
  have hdown : u.down = [] := by
    by_contra hsome
    exact hstuck _ _ (.carryDown (List.append_nil u.down).symm hsome)
  have hdone : u.calls = [] ∧ u.call = none := by
    by_contra hleft
    obtain ⟨own, u', hstep⟩ : ∃ own u', u.Step r own u' := by
      rcases h with ⟨ups, downs, due, owed, after, hinv⟩ | hbroken
      · exact hinv.exists_step hup hdown (not_and_or.mp hleft)
      · exact hbroken.exists_step hup (not_and_or.mp hleft)
    exact hstuck own u' hstep
  refine ⟨hdone.1, hdone.2, ?_⟩
  rcases h with ⟨ups, downs, due, owed, after, hinv⟩ | hbroken
  · obtain ⟨-, -, rfl, rfl, -, -⟩ := hinv.phase.begin hdone.2
    have hpublished := hinv.published
    have hreplies := hinv.replies
    rw [hdone.1] at hpublished hreplies
    refine ⟨by simpa [Producer.offers, Producer.kept] using hpublished, [], ?_, by simp⟩
    simpa [Producer.replies, Producer.kept] using hreplies
  · exact ⟨hbroken.published, hbroken.replies⟩

/-! ## The number of calls -/

/-- How many calls were made, are being made, and are still to be made. -/
def callCount (u : Uplink) : ℕ :=
  u.replies.length + u.call.toList.length + u.calls.length

/-- No call is lost or made twice. -/
theorem Step.callCount_eq {own : List (String × Message)} (h : u.Step r own u') :
    u'.callCount = u.callCount := by
  cases h with
  | begin hcall hcalls => simp [callCount, hcall, hcalls]; omega
  | write hcall _ => simp [callCount, hcall]
  | read hcall _ => simp [callCount, hcall]
  | wait _ _ _ => rfl
  | finish hcall => simp [callCount, hcall]
  | carryUp _ _ => rfl
  | carryDown _ _ => rfl
  | take _ _ => rfl
  | await _ _ _ => rfl
  | publish _ => rfl
  | pause _ => rfl
  | acknowledge _ _ => rfl
  | turn _ => rfl
  | stop _ => rfl
  | hangUp _ _ _ => rfl
  | lose _ hcall _ => simp [callCount, hcall]

/-- As long as there is a call for every reply, none has failed. -/
theorem Sound.prefix_replies (h : Sound r offers replies u published)
    (hcount : u.callCount = replies.length) : u.replies <+: replies := by
  rcases h with ⟨ups, downs, due, owed, after, hinv⟩ | hbroken
  · rw [← hinv.replies, List.append_assoc]
    exact List.prefix_append _ _
  · obtain ⟨failed, hreplies, -⟩ := hbroken.replies
    have hlength : u.replies.length ≤ replies.length := by
      rw [← hcount, callCount]
      omega
    have hnone : failed = [] := by
      rw [hreplies, List.length_append] at hlength
      exact List.length_eq_zero_iff.mp (by omega)
    rw [hreplies, hnone, List.append_nil]

end Uplink

namespace Ingestion

variable {n : ℕ} {r : Router} {plans : Fin n → Plan} {s s' : Ingestion n}

/-! ## All producers together -/

theorem uplinks_moved (s : Ingestion n) (i : Fin n) (u : Uplink) (own : List (String × Message)) :
    (s.moved i u own).uplinks = Function.update s.uplinks i u := rfl

theorem publishedBy_moved (s : Ingestion n) (i j : Fin n) (u : Uplink)
    (own : List (String × Message)) :
    (s.moved i u own).publishedBy j = s.publishedBy j ++ if i = j then own else [] := by
  rw [publishedBy, publishedBy, moved, List.filterMap_append, List.filterMap_map]
  by_cases h : i = j
  · simp [h]
  · simp [h]

/-- Every producer and its session are on their way. -/
theorem sound_of_reachable (hplans : ∀ i, (plans i).IsProper) (h : Reachable r plans s)
    (i : Fin n) :
    (s.uplinks i).Sound r ((plans i).producer.offers r ((plans i).kept r))
      ((plans i).producer.replies ((plans i).kept r)) (s.publishedBy i) := by
  induction h with
  | refl => exact .inl (Uplink.going_start (hplans i))
  | tail _ hstep ih =>
      cases hstep with
      | move j hmove =>
          rw [publishedBy_moved, uplinks_moved]
          by_cases heq : j = i
          · subst heq
            rw [if_pos rfl, Function.update_self]
            exact (ih.advances hmove).1
          · rw [if_neg heq, List.append_nil, Function.update_of_ne (Ne.symm heq)]
            exact ih

theorem callCount_of_reachable (h : Reachable r plans s) (i : Fin n) :
    (s.uplinks i).callCount = (plans i).calls.length := by
  induction h with
  | refl => simp [start, Uplink.start, Uplink.callCount]
  | tail _ hstep ih =>
      cases hstep with
      | move j hmove =>
          rw [uplinks_moved]
          by_cases heq : j = i
          · subst heq
            rw [Function.update_self, hmove.callCount_eq]
            exact ih
          · rw [Function.update_of_ne (Ne.symm heq)]
            exact ih

def rank (s : Ingestion n) : Lex (Fin n → ℕ ×ₗ ℕ ×ₗ ℕ ×ₗ ℕ) :=
  toLex fun i => (s.uplinks i).rank

theorem rank_lt (hplans : ∀ i, (plans i).IsProper) (h : Reachable r plans s)
    (hstep : Step r s s') : rank s' < rank s := by
  cases hstep with
  | @move i own u hmove =>
      have hless := ((sound_of_reachable hplans h i).advances hmove).2
      have hrank : rank (s.moved i u own) =
          toLex (Function.update (fun j => (s.uplinks j).rank) i u.rank) := by
        rw [rank, uplinks_moved]
        exact congrArg toLex (Function.comp_update Uplink.rank s.uplinks i u)
      rw [hrank, rank, Pi.toLex_update_lt_self_iff]
      exact hless

theorem not_infinite_run (hplans : ∀ i, (plans i).IsProper) {run : ℕ → Ingestion n}
    (hstart : Reachable r plans (run 0)) (hsteps : ∀ k, Step r (run k) (run (k + 1))) : False := by
  have hreachable : ∀ k, Reachable r plans (run k) := by
    intro k
    induction k with
    | zero => exact hstart
    | succ k ih => exact ih.tail (hsteps k)
  obtain ⟨k, hk⟩ := WellFounded.not_rel_apply_succ (r := (· < ·)) fun k => rank (run k)
  exact hk (rank_lt hplans (hreachable k) (hsteps k))

def Over (r : Router) (s : Ingestion n) : Prop :=
  ∀ s', ¬Step r s s'

/-- From every moment on, everything comes to an end. -/
theorem exists_over (hplans : ∀ i, (plans i).IsProper) (h : Reachable r plans s) :
    ∃ last, Reachable r plans last ∧ Over r last := by
  induction hrank : rank s using WellFoundedLT.induction generalizing s with
  | _ left ih =>
      by_cases hover : Over r s
      · exact ⟨s, h, hover⟩
      · obtain ⟨s', hstep⟩ := not_forall_not.mp hover
        have hless : rank s' < left := by
          rw [← hrank]
          exact rank_lt hplans h hstep
        exact ih _ hless (h.tail hstep) rfl

/-- When nobody can do anything, all calls are made: those before the one at which the router broke
off have succeeded, and the others have failed. -/
theorem finished_of_over (hplans : ∀ i, (plans i).IsProper) (h : Reachable r plans s)
    (hover : Over r s) (i : Fin n) :
    s.publishedBy i = (plans i).producer.offers r ((plans i).kept r) ∧
      ∃ failed, (s.uplinks i).replies = (plans i).producer.replies ((plans i).kept r) ++ failed ∧
        (∀ reply ∈ failed, reply.failed = true) ∧
        ((plans i).kept r).length + failed.length = (plans i).calls.length := by
  obtain ⟨hcalls, hcall, hpublished, failed, hreplies, hfailed⟩ :=
    (sound_of_reachable hplans h i).finished_of_stuck fun own u hmove => hover _ (.move i hmove)
  refine ⟨hpublished, failed, hreplies, hfailed, ?_⟩
  have hcount := callCount_of_reachable h i
  rw [Uplink.callCount, hcalls, hcall, hreplies, List.length_append, length_replies] at hcount
  simpa using hcount

/-! ## The law -/

/-- The law of producers that make their calls. -/
structure Law (routes : List Route) (r : Router) (plans : Fin n → Plan) : Prop where
  /-- At every moment the calls made so far have succeeded. -/
  succeeds : ∀ s, Reachable r plans s → ∀ i, (plans i).IsTellable routes r.retries →
    (s.uplinks i).replies <+: (plans i).replies
  numbers : ∀ i, (plans i).replies.filterMap Reply.number? =
    (List.range ((plans i).calls.countP Call.isBatch)).map UInt64.ofNat
  ends : ¬∃ run : ℕ → Ingestion n, Reachable r plans (run 0) ∧ ∀ k, Step r (run k) (run (k + 1))
  completes : ∀ s, Reachable r plans s → Over r s → ∀ i, (plans i).IsTellable routes r.retries →
    (s.uplinks i).replies = (plans i).replies
  /-- Every queue has received its streams, and every worker was told of their ends. -/
  served : ∀ s, Reachable r plans s → Over r s → ∀ i, (plans i).IsTellable routes r.retries →
    Served routes (plans i).producer (plans i).calls (s.received i)
  /-- With the most retries that a word can say, the first call that ends the stream of a query with
  a route fails, and so does every later one. Nothing is published for them. -/
  breaksOff : r.retries.toNat + 1 = UInt32.size → ∀ s, Reachable r plans s → Over r s →
    ∀ i before call rest, (plans i).calls = before ++ call :: rest →
    (∀ earlier ∈ before, ¬earlier.EndsRouted routes (plans i).entity) →
    call.EndsRouted routes (plans i).entity →
    Served routes (plans i).producer before (s.received i) ∧
      ∃ failed, (s.uplinks i).replies = (plans i).producer.replies before ++ failed ∧
        failed.length = rest.length + 1 ∧ ∀ reply ∈ failed, reply.failed = true

section

variable {routes : List Route} {counts : List (QueryId × Nat)}
  (hbuild : Tables.build routes counts = .ok r.tables)

include hbuild

theorem kept_eq_calls {plan : Plan} (h : plan.IsTellable routes r.retries) :
    plan.kept r = plan.calls := by
  have hkept : ∀ call ∈ plan.calls, ¬call.BreaksOff r plan.producer := by
    intro call hcall hbreaks
    obtain ⟨hmax, hends⟩ := (Call.breaksOff_iff _ _ hbuild).mp hbreaks
    rcases h with hlt | hnone
    · exact Nat.ne_of_lt hlt hmax
    · exact hnone call hcall hends
  have happend : plan.producer.kept r (plan.calls ++ []) = plan.calls := kept_append hkept (by simp)
  rwa [List.append_nil] at happend

theorem kept_eq_before (hmax : r.retries.toNat + 1 = UInt32.size) {plan : Plan}
    {before rest : List Call} {call : Call} (hcalls : plan.calls = before ++ call :: rest)
    (hbefore : ∀ earlier ∈ before, ¬earlier.EndsRouted routes plan.entity)
    (hcall : call.EndsRouted routes plan.entity) : plan.kept r = before := by
  rw [Plan.kept, hcalls]
  apply kept_append
  · intro earlier hmem hbreaks
    exact hbefore earlier hmem ((Call.breaksOff_iff _ _ hbuild).mp hbreaks).2
  · rintro _ ⟨⟩
    exact (Call.breaksOff_iff _ _ hbuild).mpr ⟨hmax, hcall⟩

theorem served_of_over (hplans : ∀ i, (plans i).IsProper) (h : Reachable r plans s)
    (hover : Over r s) (i : Fin n) :
    Served routes (plans i).producer ((plans i).kept r) (s.received i) := by
  have hreceived : s.received i = fun queue =>
      content queue ((plans i).producer.offers r ((plans i).kept r)) := by
    funext queue
    rw [received, (finished_of_over hplans h hover i).1]
  rw [hreceived]
  exact Producer.served hbuild (accepts_kept (hplans i))

/-- Whatever producers are asked for, and in whatever order things happen, all calls succeed and
every stream gets into the queue of its query, unless the router breaks off. -/
theorem streams_exact (hplans : ∀ i, (plans i).IsProper) : Law routes r plans where
  succeeds := by
    intro s h i htellable
    have hsound := sound_of_reachable hplans h i
    rw [kept_eq_calls hbuild htellable] at hsound
    apply hsound.prefix_replies
    rw [callCount_of_reachable h i, length_replies]
  numbers := by
    intro i
    have hfirst : ∀ k, (plans i).producer.nextBatch + UInt64.ofNat k = UInt64.ofNat k := by
      intro k
      exact UInt64.zero_add _
    rw [Plan.replies, numbers_replies]
    exact List.map_congr_left fun k _ => hfirst k
  ends := by
    rintro ⟨run, hstart, hsteps⟩
    exact not_infinite_run hplans hstart hsteps
  completes := by
    intro s h hover i htellable
    obtain ⟨-, failed, hreplies, -, hlength⟩ := finished_of_over hplans h hover i
    rw [kept_eq_calls hbuild htellable] at hreplies hlength
    have hnone : failed = [] := List.length_eq_zero_iff.mp (by omega)
    rw [hreplies, hnone, List.append_nil]
    rfl
  served := by
    intro s h hover i htellable
    have hserved := served_of_over hbuild hplans h hover i
    rwa [kept_eq_calls hbuild htellable] at hserved
  breaksOff := by
    intro hmax s h hover i before call rest hcalls hbefore hcall
    have hkept := kept_eq_before hbuild hmax hcalls hbefore hcall
    have hserved := served_of_over hbuild hplans h hover i
    obtain ⟨-, failed, hreplies, hfailed, hlength⟩ := finished_of_over hplans h hover i
    rw [hkept] at hserved hreplies hlength
    rw [hcalls, List.length_append, List.length_cons] at hlength
    exact ⟨hserved, failed, hreplies, by omega, hfailed⟩

end

/-- Movies for two queries, and ratings for one of them from somebody else. -/
def twoPlans : Fin 2 → Plan
  | 0 => ⟨.movies, ⟨"first"⟩, [.batch [⟨"Q1"⟩, ⟨"Q2"⟩] ["1|Title|.|0|0|Drama|Argentina|2000"],
      .finish [⟨"Q1"⟩, ⟨"Q2"⟩]]⟩
  | 1 => ⟨.ratings, ⟨"second"⟩, [.batch [⟨"Q1"⟩] ["7|1|4.5|0", ""], .finish [⟨"Q1"⟩]]⟩

/-- Two producers share a queue; a query has no route. -/
theorem streams_exact_of_two_producers :
    ∃ r : Router, Tables.build [⟨⟨"Q1"⟩, .movies, "work", 2⟩, ⟨⟨"Q1"⟩, .ratings, "work", 1⟩] [] =
        .ok r.tables ∧
      Law [⟨⟨"Q1"⟩, .movies, "work", 2⟩, ⟨⟨"Q1"⟩, .ratings, "work", 1⟩] r twoPlans ∧
      ∃ s, Reachable r twoPlans s ∧ Over r s ∧
        (s.uplinks 1).replies = [.batch (.ok 0), .finish (.ok ())] ∧
        (s.received 1 "work").filter (Message.isFor ⟨"Q1"⟩) =
          [.batch ⟨"Q1"⟩ ⟨"second"⟩ 0 .ratings (.ofText "movie_id,rating\n1,4.5"),
            .endOfStream ⟨"Q1"⟩ ⟨"second"⟩ .ratings] := by
  have hbuild : Tables.build [⟨⟨"Q1"⟩, .movies, "work", 2⟩, ⟨⟨"Q1"⟩, .ratings, "work", 1⟩] [] =
      .ok _ := rfl
  have hplans : ∀ i, (twoPlans i).IsProper := by decide
  have hlaw := streams_exact (r := ⟨_, 2⟩) hbuild hplans
  obtain ⟨s, hreachable, hover⟩ := exists_over (r := ⟨_, 2⟩) hplans .refl
  have htellable : ∀ routes, (twoPlans 1).IsTellable routes 2 := fun _ => .inl (by decide)
  have hserved := hlaw.served s hreachable hover 1 (htellable _)
  exact ⟨_, hbuild, hlaw, s, hreachable, hover, hlaw.completes s hreachable hover 1 (htellable _),
    hserved.stream ⟨⟨"Q1"⟩, .ratings, "work", 1⟩ (by decide) rfl⟩

/-- The end of one stream, and nothing else. -/
def endOnly : Plan := ⟨.movies, ⟨"c"⟩, [.finish [⟨"q"⟩]]⟩

/-- With the most retries that a word can say, the call that ends a stream fails, and the worker
that the route counts is not told. -/
theorem stream_broken_of_largest_retries :
    endOnly.IsProper ∧
      endOnly.producer.stream ⟨"q"⟩ 1 endOnly.calls = [.endOfStream ⟨"q"⟩ ⟨"c"⟩ .movies] ∧
      ∃ r : Router, r.retries = 4294967295 ∧
        Tables.build [⟨⟨"q"⟩, .movies, "work", 1⟩] [] = .ok r.tables ∧
        ∃ s : Ingestion 1, Reachable r (fun _ => endOnly) s ∧ Over r s ∧
          (∃ reply, (s.uplinks 0).replies = [reply] ∧ reply.failed = true) ∧
          s.received 0 "work" = [] := by
  have hbuild : Tables.build [⟨⟨"q"⟩, .movies, "work", 1⟩] [] = .ok _ := rfl
  have hplans : ∀ _ : Fin 1, endOnly.IsProper := by decide
  have hkept : endOnly.kept ⟨_, 4294967295⟩ = [] :=
    kept_eq_before hbuild (by decide) rfl (by simp) ⟨⟨"q"⟩, by simp, _, List.mem_cons_self, rfl⟩
  obtain ⟨s, hreachable, hover⟩ := exists_over (r := ⟨_, 4294967295⟩) hplans .refl
  obtain ⟨hpublished, failed, hreplies, hfailed, hlength⟩ :=
    finished_of_over hplans hreachable hover 0
  rw [hkept] at hpublished hreplies hlength
  obtain ⟨reply, rfl⟩ := List.length_eq_one_iff.mp ((Nat.zero_add _).symm.trans hlength)
  refine ⟨hplans 0, rfl, _, rfl, hbuild, s, hreachable, hover, ⟨reply, hreplies, ?_⟩, ?_⟩
  · exact hfailed reply List.mem_cons_self
  · rw [received, hpublished]
    rfl

end Ingestion

end QueryGateway
