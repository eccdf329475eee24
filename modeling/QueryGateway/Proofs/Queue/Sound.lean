import Mathlib.Data.List.Nodup
import QueryGateway.Proofs.Queue.Traffic

/-! # Traffic is kept in order

Every call waits or has ended, each queue is orderly, and its line holds exactly the publish calls
that wait. Whatever happens keeps it so.
-/

namespace QueryGateway.Traffic

open Broker (Call Ending Denied Enters Leaves)

variable {k : Nat} {s s' : Traffic} {name : String} {ticket : Ticket} {call : Call}
  {ending : Ending} {q : QueueState}

/-! ## What an ended call has put in or got out -/

theorem put?_of_denied (h : Denied call ending) : put? name (ticket, call, ending) = none := by
  cases h <;> rfl

theorem got?_of_denied (h : Denied call ending) : got? name (ticket, call, ending) = none := by
  cases h <;> rfl

theorem put?_abandoned : put? name (ticket, call, .abandoned) = none := by
  cases call <;> rfl

theorem got?_abandoned : got? name (ticket, call, .abandoned) = none := by
  cases call <;> rfl

theorem put?_of_ne (h : call.queue ≠ name) : put? name (ticket, call, ending) = none := by
  unfold put?
  split
  · next heq =>
      cases heq
      exact if_neg h
  · rfl

theorem got?_of_ne (h : call.queue ≠ name) : got? name (ticket, call, ending) = none := by
  unfold got?
  split
  · next heq =>
      cases heq
      exact if_neg h
  · rfl

theorem put?_eq_some {entry : Ticket × Message} {done : Ticket × Call × Ending}
    (h : put? name done = some entry) :
    done = (entry.1, .publish name entry.2, .published (.ok ())) := by
  unfold put? at h
  split at h
  · split at h
    · next hname =>
        cases h
        rw [hname]
    · cases h
  · cases h

/-- Whoever has put in a message has ended. -/
theorem putIn_sublist (s : Traffic) (name : String) :
    ((s.putIn name).map Prod.fst).Sublist (s.ended.map (·.1)) := by
  unfold putIn
  induction s.ended with
  | nil => exact .slnil
  | cons done ended ih =>
      cases hput : put? name done with
      | none =>
          rw [List.filterMap_cons_none hput]
          exact ih.cons _
      | some entry =>
          rw [List.filterMap_cons_some hput, List.map_cons, List.map_cons, put?_eq_some hput]
          exact ih.cons_cons _

theorem putIn_of_ended {done : Ticket × Call × Ending} (h : s'.ended = s.ended ++ [done]) :
    s'.putIn name = s.putIn name ++ (put? name done).toList := by
  rw [putIn, h, List.filterMap_append]
  cases hput : put? name done with
  | none => rw [List.filterMap_cons_none hput]; rfl
  | some => rw [List.filterMap_cons_some hput]; rfl

theorem handedOut_of_ended {done : Ticket × Call × Ending} (h : s'.ended = s.ended ++ [done]) :
    s'.handedOut name = s.handedOut name ++ (got? name done).toList := by
  rw [handedOut, h, List.filterMap_append]
  cases hgot : got? name done with
  | none => rw [List.filterMap_cons_none hgot]; rfl
  | some => rw [List.filterMap_cons_some hgot]; rfl

/-! ## The invariant -/

/-- What is true of traffic at any time. -/
structure Sound (k : Nat) (s : Traffic) : Prop where
  capacity : s.broker.capacity = k
  /-- Every call has ended or waits. -/
  calls : (s.ended.map (·.1) ++ s.waiting.map (·.1)).Perm (List.range s.started)
  declared : ∀ entry ∈ s.waiting, s.broker.queues.contains entry.2.queue = true
  orderly : ∀ name, (s.broker.queue name).Orderly k (s.putIn name) (s.handedOut name)
  /-- The publish calls that wait are those in the line. -/
  standing : ∀ name t m,
    (t, m) ∈ s.granted name ++ s.lined name ↔ (t, .publish name m) ∈ s.waiting

namespace Sound

theorem start (capacity : Nat) : Sound (max capacity 1) (start capacity) where
  capacity := rfl
  calls := .nil
  declared := nofun
  orderly _ := .empty _
  standing _ _ _ := ⟨nofun, nofun⟩

theorem nodup (h : Sound k s) : (s.ended.map (·.1) ++ s.waiting.map (·.1)).Nodup :=
  h.calls.nodup_iff.mpr List.nodup_range

theorem nodup_waiting (h : Sound k s) : (s.waiting.map (·.1)).Nodup :=
  (List.nodup_append.mp h.nodup).2.1

theorem nodup_ended (h : Sound k s) : (s.ended.map (·.1)).Nodup :=
  (List.nodup_append.mp h.nodup).1

/-- A call waits once. -/
theorem unique (h : Sound k s) {other : Call} (hcall : (ticket, call) ∈ s.waiting)
    (hother : (ticket, other) ∈ s.waiting) : call = other :=
  congrArg Prod.snd (List.inj_on_of_nodup_map h.nodup_waiting hcall hother rfl)

theorem lt_of_waiting (h : Sound k s) (hcall : (ticket, call) ∈ s.waiting) : ticket < s.started :=
  List.mem_range.mp (h.calls.mem_iff.mp (List.mem_append_right _ (List.mem_map_of_mem hcall)))

theorem lt_of_putIn (h : Sound k s) {entry : Ticket × Message} (hentry : entry ∈ s.putIn name) :
    entry.1 < s.started := by
  have hended := (s.putIn_sublist name).subset (List.mem_map_of_mem hentry)
  exact List.mem_range.mp (h.calls.mem_iff.mp (List.mem_append_left _ hended))

theorem lt_of_standing (h : Sound k s) {entry : Ticket × Message}
    (hentry : entry ∈ s.granted name ++ s.lined name) : entry.1 < s.started :=
  h.lt_of_waiting ((h.standing name entry.1 entry.2).mp hentry)

/-! ### The numbers of the calls -/

theorem calls_call (h : Sound k s) (call : Call) :
    (s.ended.map (·.1) ++ (s.waiting ++ [(s.started, call)]).map (·.1)).Perm
      (List.range (s.started + 1)) := by
  rw [List.map_append, ← List.append_assoc, List.range_succ]
  exact h.calls.append_right _

theorem calls_end (h : Sound k s) (call : Call) (ending : Ending) :
    ((s.ended ++ [(s.started, call, ending)]).map (·.1) ++ s.waiting.map (·.1)).Perm
      (List.range (s.started + 1)) := by
  refine .trans ?_ (h.calls_call call)
  rw [List.map_append, List.map_append, List.append_assoc]
  exact List.perm_append_comm.append_left _

theorem calls_finish (h : Sound k s) (hcall : (ticket, call) ∈ s.waiting) (ending : Ending) :
    ((s.ended ++ [(ticket, call, ending)]).map (·.1) ++
      (s.waiting.filter (·.1 ≠ ticket)).map (·.1)).Perm (List.range s.started) := by
  refine .trans ?_ h.calls
  rw [List.map_append, List.append_assoc]
  refine .append_left _ ?_
  have hkept : ((s.waiting.filter (·.1 ≠ ticket)).map (·.1)).Nodup :=
    h.nodup_waiting.sublist (List.filter_sublist.map _)
  refine (List.perm_ext_iff_of_nodup (List.nodup_cons.mpr ⟨?_, hkept⟩) h.nodup_waiting).mpr ?_
  · simp
  · intro t
    constructor
    · rintro (_ | ⟨_, hmem⟩)
      · exact List.mem_map_of_mem hcall
      · exact (List.filter_sublist.map _).subset hmem
    · intro hmem
      by_cases heq : t = ticket
      · exact heq ▸ List.mem_cons_self
      · obtain ⟨entry, hentry, rfl⟩ := List.mem_map.mp hmem
        refine List.mem_cons_of_mem _ (List.mem_map_of_mem (List.mem_filter.mpr ⟨hentry, ?_⟩))
        exact decide_eq_true heq

/-! ### The queues -/

/-- The calls see nothing of the broker but its queues. -/
theorem withBroker {b : Broker} (h : Sound k s) (hcapacity : b.capacity = s.broker.capacity)
    (hcontains : ∀ name, s.broker.queues.contains name = true → b.queues.contains name = true)
    (hqueue : ∀ name, b.queue name = s.broker.queue name) : Sound k { s with broker := b } where
  capacity := hcapacity.trans h.capacity
  calls := h.calls
  declared entry hentry := hcontains _ (h.declared entry hentry)
  orderly name := by
    change (b.queue name).Orderly k (s.putIn name) (s.handedOut name)
    rw [hqueue]
    exact h.orderly name
  standing name t m := by
    simp only [granted, lined, hqueue]
    exact h.standing name t m

/-- A call that ends has put into its own queue, or got out of it. -/
theorem orderly_end (h : Sound k s) (hbroker : s'.broker = s.broker.setQueue call.queue q)
    (hended : s'.ended = s.ended ++ [(ticket, call, ending)])
    (hq : q.Orderly k (s.putIn call.queue ++ (put? call.queue (ticket, call, ending)).toList)
      (s.handedOut call.queue ++ (got? call.queue (ticket, call, ending)).toList))
    (name : String) : (s'.broker.queue name).Orderly k (s'.putIn name) (s'.handedOut name) := by
  rw [hbroker, Broker.queue_setQueue, putIn_of_ended hended, handedOut_of_ended hended]
  by_cases hname : call.queue = name
  · subst hname
    rw [if_pos rfl]
    exact hq
  · rw [if_neg hname, put?_of_ne hname, got?_of_ne hname]
    simpa using h.orderly name

/-- Where a queue's line stays as it is, so do the calls that wait. -/
theorem standing_setQueue (h : Sound k s)
    (hline : ∀ entry, entry ∈ q.granted ++ q.publishers ↔ entry ∈ s.granted name ++ s.lined name)
    (other : String) (entry : Ticket × Message) :
    entry ∈ ((s.broker.setQueue name q).queue other).granted ++
        ((s.broker.setQueue name q).queue other).publishers ↔
      (entry.1, .publish other entry.2) ∈ s.waiting := by
  rw [Broker.queue_setQueue, ← h.standing]
  by_cases hname : name = other
  · subst hname
    rw [if_pos rfl]
    exact hline entry
  · rw [if_neg hname]
    rfl

/-! ### A call is made -/

theorem call_end (h : Sound k s) (call : Call) (ending : Ending)
    (hq : q.Orderly k (s.putIn call.queue ++ (put? call.queue (s.started, call, ending)).toList)
      (s.handedOut call.queue ++ (got? call.queue (s.started, call, ending)).toList))
    (hline : q.granted ++ q.publishers = s.granted call.queue ++ s.lined call.queue) :
    Sound k ⟨s.broker.setQueue call.queue q, s.started + 1, s.waiting,
      s.ended ++ [(s.started, call, ending)]⟩ where
  capacity := h.capacity
  calls := h.calls_end call ending
  declared entry hentry := Broker.contains_setQueue (h.declared entry hentry)
  orderly := h.orderly_end rfl rfl hq
  standing name t m := h.standing_setQueue (fun entry => by rw [hline]) name (t, m)

theorem call_wait (h : Sound k s) (call : Call)
    (hqueue : s.broker.queues.contains call.queue = true)
    (hq : q.Orderly k (s.putIn call.queue) (s.handedOut call.queue))
    (hline : ∀ entry, entry ∈ q.granted ++ q.publishers ↔
      entry ∈ s.granted call.queue ++ s.lined call.queue ∨
        call = .publish call.queue entry.2 ∧ entry.1 = s.started) :
    Sound k ⟨s.broker.setQueue call.queue q, s.started + 1, s.waiting ++ [(s.started, call)],
      s.ended⟩ where
  capacity := h.capacity
  calls := h.calls_call call
  declared entry hentry := by
    refine Broker.contains_setQueue ?_
    rcases List.mem_append.mp hentry with hearlier | hlast
    · exact h.declared entry hearlier
    · exact List.mem_singleton.mp hlast ▸ hqueue
  orderly name := by
    change ((s.broker.setQueue call.queue q).queue name).Orderly k (s.putIn name) (s.handedOut name)
    rw [Broker.queue_setQueue]
    split
    · next hname => exact hname ▸ hq
    · exact h.orderly name
  standing name t m := by
    change (t, m) ∈ ((s.broker.setQueue call.queue q).queue name).granted ++
      ((s.broker.setQueue call.queue q).queue name).publishers ↔ _
    rw [Broker.queue_setQueue, List.mem_append (t := [_]), List.mem_singleton, ← h.standing]
    by_cases hname : call.queue = name
    · subst hname
      rw [if_pos rfl, hline]
      refine or_congr_right ?_
      constructor
      · rintro ⟨hcall, ht⟩
        exact Prod.ext ht hcall.symm
      · intro heq
        exact ⟨(congrArg Prod.snd heq).symm, congrArg Prod.fst heq⟩
    · rw [if_neg hname]
      refine (or_iff_left ?_).symm
      intro heq
      exact hname (congrArg (·.2.queue) heq).symm

theorem call_denied (h : Sound k s) (hdenied : Denied call ending) :
    Sound k ⟨s.broker, s.started + 1, s.waiting, s.ended ++ [(s.started, call, ending)]⟩ where
  capacity := h.capacity
  calls := h.calls_end call ending
  declared := h.declared
  orderly name := by
    rw [putIn_of_ended (s := s) rfl, handedOut_of_ended (s := s) rfl, put?_of_denied hdenied,
      got?_of_denied hdenied]
    simpa using h.orderly name
  standing := h.standing

theorem call_served (h : Sound k s)
    (henters : Enters k s.started call (s.broker.queue call.queue) (some ending) q) :
    Sound k ⟨s.broker.setQueue call.queue q, s.started + 1, s.waiting,
      s.ended ++ [(s.started, call, ending)]⟩ := by
  have horderly := h.orderly call.queue
  generalize hbefore : s.broker.queue call.queue = before at henters horderly
  cases henters with
  | @accept name m q hroom =>
      refine h.call_end (.publish name m) _ ?_ (by rw [granted, lined, hbefore])
      simpa [put?, got?, Call.queue] using horderly.accept hroom
  | @take name m rest q hbuffer =>
      refine h.call_end (.next name) _ ?_ ?_
      · simpa [put?, got?, Call.queue] using horderly.take hbuffer _
      · rw [QueueState.granted_append_grant, granted, lined, hbefore]

theorem call_waits (h : Sound k s) (hqueue : s.broker.queues.contains call.queue = true)
    (henters : Enters k s.started call (s.broker.queue call.queue) none q) :
    Sound k ⟨s.broker.setQueue call.queue q, s.started + 1, s.waiting ++ [(s.started, call)],
      s.ended⟩ := by
  have horderly := h.orderly call.queue
  generalize hbefore : s.broker.queue call.queue = before at henters horderly
  cases henters with
  | @lineUp name m q hfull =>
      refine h.call_wait (.publish name m) hqueue ?_ ?_
      · refine horderly.lineUp hfull ?_ fun entry => h.lt_of_putIn
        rw [← hbefore]
        exact fun waiter => h.lt_of_standing
      · rintro ⟨t, m'⟩
        rw [← List.append_assoc, List.mem_append, List.mem_singleton, granted, lined, hbefore]
        refine or_congr_right ?_
        simp [and_comm, eq_comm, Call.queue]
  | @stand name q consumers =>
      refine h.call_wait (.next name) hqueue (horderly.withConsumers consumers) ?_
      intro entry
      rw [granted, lined, hbefore]
      simp

/-! ### A call that waits ends -/

/-- Whoever stands in a line waits with a publish call. -/
theorem eq_publish (h : Sound k s) (hcall : (ticket, call) ∈ s.waiting) {m : Message}
    (hentry : (ticket, m) ∈ s.granted name ++ s.lined name) : call = .publish name m :=
  h.unique hcall ((h.standing name ticket m).mp hentry)

theorem leaves_orderly (h : Sound k s) (hcall : (ticket, call) ∈ s.waiting)
    (hleaves : Leaves k ticket call (s.broker.queue call.queue) ending q) :
    q.Orderly k (s.putIn call.queue ++ (put? call.queue (ticket, call, ending)).toList)
      (s.handedOut call.queue ++ (got? call.queue (ticket, call, ending)).toList) := by
  have horderly := h.orderly call.queue
  have hown : ∀ m, (ticket, m) ∈ (s.broker.queue call.queue).granted →
      call = .publish call.queue m :=
    fun m hmem => h.eq_publish hcall (List.mem_append_left _ hmem)
  generalize s.broker.queue call.queue = before at hleaves horderly hown
  cases hleaves with
  | @resume name m m' _ hgranted =>
      obtain rfl : m = m' := by simpa [Call.queue] using hown m' hgranted
      simpa [put?, got?, Call.queue] using horderly.resume hgranted
  | @take name m rest _ consumers hbuffer =>
      simpa [put?, got?, Call.queue] using horderly.take hbuffer consumers
  | refused =>
      rw [put?_of_denied (.refusal call), got?_of_denied (.refusal call)]
      simpa using horderly.abandon ticket
  | abandoned =>
      rw [put?_abandoned, got?_abandoned]
      simpa using horderly.abandon ticket

theorem leaves_line (h : Sound k s) (hcall : (ticket, call) ∈ s.waiting)
    (hleaves : Leaves k ticket call (s.broker.queue call.queue) ending q)
    (entry : Ticket × Message) : entry ∈ q.granted ++ q.publishers ↔
      entry ∈ s.granted call.queue ++ s.lined call.queue ∧ entry.1 ≠ ticket := by
  have hown : ∀ m, (ticket, m) ∈ s.granted call.queue ++ s.lined call.queue →
      call = .publish call.queue m :=
    fun m hmem => h.eq_publish hcall hmem
  have horder := (h.orderly call.queue).order
  rw [granted, lined] at hown ⊢
  generalize s.broker.queue call.queue = before at hleaves horder hown
  cases hleaves with
  | @resume name m m' _ hgranted =>
      -- Those who wait for room came later than the one who had it.
      have hlater : ∀ waiter ∈ before.publishers, waiter.1 ≠ ticket := fun waiter hwaiter =>
        Nat.ne_of_gt ((List.pairwise_append.mp horder).2.2 _ hgranted waiter hwaiter)
      simp only [List.mem_append, List.mem_filter, decide_eq_true_eq]
      constructor
      · rintro (⟨hmem, hne⟩ | hmem)
        · exact ⟨.inl hmem, hne⟩
        · exact ⟨.inr hmem, hlater entry hmem⟩
      · rintro ⟨hmem | hmem, hne⟩
        · exact .inl ⟨hmem, hne⟩
        · exact .inr hmem
  | @take name m rest _ consumers hbuffer =>
      rw [QueueState.granted_append_grant]
      refine (and_iff_left_of_imp ?_).symm
      rintro hmem rfl
      cases hown entry.2 hmem
  | refused => exact QueueState.mem_line_abandon
  | abandoned => exact QueueState.mem_line_abandon

/-- A call that waits ends. -/
theorem finish (h : Sound k s) (hcall : (ticket, call) ∈ s.waiting)
    (hleaves : Leaves k ticket call (s.broker.queue call.queue) ending q) :
    Sound k ({ s with broker := s.broker.setQueue call.queue q }.finish ticket call ending) where
  capacity := h.capacity
  calls := h.calls_finish hcall ending
  declared entry hentry := Broker.contains_setQueue (h.declared entry (List.mem_filter.mp hentry).1)
  orderly := h.orderly_end rfl rfl (h.leaves_orderly hcall hleaves)
  standing name t m := by
    have hwaiting : (t, Call.publish name m) ∈ s.waiting.filter (·.1 ≠ ticket) ↔
        (t, m) ∈ s.granted name ++ s.lined name ∧ t ≠ ticket := by
      rw [List.mem_filter, h.standing, decide_eq_true_eq]
    refine .trans ?_ hwaiting.symm
    change (t, m) ∈ ((s.broker.setQueue call.queue q).queue name).granted ++
      ((s.broker.setQueue call.queue q).queue name).publishers ↔ _
    rw [Broker.queue_setQueue]
    by_cases hname : call.queue = name
    · subst hname
      rw [if_pos rfl]
      exact h.leaves_line hcall hleaves (t, m)
    · rw [if_neg hname]
      refine (and_iff_left_of_imp ?_).symm
      rintro hmem rfl
      exact hname (congrArg Call.queue (h.eq_publish hcall hmem))

/-! ### Every step -/

theorem opened (h : Sound k s) (hnew : s.broker.queues.contains name = false) :
    Sound k { s with broker := s.broker.setQueue name .empty } := by
  refine h.withBroker rfl (fun _ => Broker.contains_setQueue) fun other => ?_
  rw [Broker.queue_setQueue]
  split
  · next hname => rw [← hname, Broker.queue_of_contains_eq_false hnew]
  · rfl

theorem moves (h : Sound k s) (action : Action) : s.Moves (s.step action) :=
  moves_step h.declared action

/-- Whatever happens keeps the traffic sound. -/
theorem of_moves (h : Sound k s) (hmoves : s.Moves s') : Sound k s' := by
  cases hmoves with
  | idle => exact h
  | opened hnew => exact h.opened hnew
  | denied hdenied _ => exact h.call_denied hdenied
  | served _ henters => exact h.call_served (h.capacity ▸ henters)
  | waits _ hqueue henters => exact h.call_waits hqueue (h.capacity ▸ henters)
  | left hcall hleaves _ => exact h.finish hcall (h.capacity ▸ hleaves)
  | closed => exact h.withBroker rfl (fun _ => id) fun _ => rfl

theorem step (h : Sound k s) (action : Action) : Sound k (s.step action) :=
  h.of_moves (h.moves action)

theorem run (h : Sound k s) (actions : List Action) : Sound k (s.run actions) := by
  induction actions generalizing s with
  | nil => exact h
  | cons action actions ih => exact ih (h.step action)

end Sound

end QueryGateway.Traffic
