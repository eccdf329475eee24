import QueryGateway.Proofs.Reception.Invariant

/-! # Registered connections are always accounted for

The registry holds the newest connection of a client, or none. A connection that is removed is the
one that the removal is about. Whoever takes a connection out deals with it, so that after a
shutdown none is left, however late it was announced.
-/

namespace QueryGateway

open Delivery

/-- Why a task may ask for a handle to be removed, after what it has asked for before. -/
def Party.MayRemove {n : Nat} (a : Arrivals n) (handle : Handle) :
    Party n → List (Exchange Delivery) → Prop
  | .arrival i, before => handle = a.handle i ∧ ⟨.stopping, true⟩ ∈ before
  | .message _, before =>
    ∃ frame timeout reply, GivesUp reply ∧ ⟨.deliver handle frame timeout, reply⟩ ∈ before
  | .shutdown, _ => False

/-- A removal is asked for by a task that may do so, and it leaves all other handles where they
are. -/
structure RemovalLaw {n : Nat} (a : Arrivals n) (party : Party n)
    (before : List (Party n × Exchange Delivery)) (client : ClientId) (handle : Handle) : Prop where
  cause : party.MayRemove a handle (party.logIn before)
  others : ∀ client' handle', handle' ≠ handle →
    (Registry.replay (before.map Prod.snd)).get? client' = some handle' →
      ((Registry.replay (before.map Prod.snd)).after (.removeIfCurrent client handle)).get? client' =
        some handle'

/-- How connections fare that were registered. -/
structure ReceptionLaw {n : Nat} (a : Arrivals n) (s : Reception n) : Prop where
  replay : s.registry = .replay s.exchanges
  latest : ∀ client handle, s.registry.get? client = some handle →
    latest? client s.exchanges = some handle
  /-- A handle that was registered is still registered, or one of the tasks took it out. -/
  place : ∀ client handle, (client, handle) ∈ insertions s.exchanges →
    s.registry.get? client = some handle ∨ ∃ party, TakenOut handle (s.logOf party)
  removals : ∀ before after party client handle removed,
    s.log = before ++ (party, ⟨.removeIfCurrent client handle, removed⟩) :: after →
      RemovalLaw a party before client handle
  /-- A task that has ended has dealt with all connections that it took out. -/
  settled : ∀ party, s.Done party → Settled (s.logOf party)
  /-- When the shutdown and the tasks of all connections have ended, every connection that was ever
  registered is closed, or was lost. -/
  finished : (∀ i, s.Done (.arrival i)) → s.Done .shutdown → s.registry = .empty ∧
    ∀ client handle, (client, handle) ∈ insertions s.exchanges →
      Closed handle s.exchanges ∨ Failed handle s.exchanges

theorem Party.mayRemove_of_completes {n : Nat} {a : Arrivals n} {party : Party n}
    {log before : List (Exchange Delivery)} {client : ClientId} {handle : Handle} {removed : Bool}
    (h : party.Completes a log)
    (hpart : before ++ [⟨.removeIfCurrent client handle, removed⟩] <+: log) :
    party.MayRemove a handle before := by
  have hentry : (client, handle) ∈
      removals (before ++ [⟨.removeIfCurrent client handle, removed⟩]) := by
    simp [Request.removes?]
  cases party with
  | arrival i =>
      obtain ⟨hhandle, hstopping⟩ := removals_of_accepts h hpart hentry
      rcases List.mem_append.mp hstopping with hbefore | hlast
      · exact ⟨hhandle, hbefore⟩
      · cases List.mem_singleton.mp hlast
  | message k =>
      obtain ⟨frame, timeout, reply, hgives, hdeliver⟩ := removals_of_handles h hpart hentry
      rcases List.mem_append.mp hdeliver with hbefore | hlast
      · exact ⟨frame, timeout, reply, hgives, hbefore⟩
      · cases List.mem_singleton.mp hlast
  | shutdown =>
      have hnone : (client, handle) ∈ removals log := mem_asked_of_prefix hpart hentry
      rw [removals_of_closes h] at hnone
      cases hnone

theorem Registry.get?_removeIfCurrent_of_ne {r : Registry} {client client' : ClientId}
    {handle handle' : Handle} (hne : handle' ≠ handle) (hget : r.get? client' = some handle') :
    (r.removeIfCurrent client handle).2.get? client' = some handle' := by
  have hnot : ¬(client = client' ∧ r.get? client = some handle) := by
    rintro ⟨rfl, hcurrent⟩
    exact hne (Option.some.inj (hget.symm.trans hcurrent))
  rw [get?_removeIfCurrent, if_neg hnot]
  exact hget

theorem Delivery.mem_of_latest? {client : ClientId} {handle : Handle}
    {log : List (Exchange Delivery)} (h : latest? client log = some handle) :
    (client, handle) ∈ insertions log := by
  obtain ⟨⟨client', handle'⟩, hlast, rfl⟩ := Option.map_eq_some_iff.mp h
  obtain ⟨hmem, hclient⟩ := List.mem_filter.mp (List.mem_of_getLast? hlast)
  obtain rfl : client' = client := by simpa using hclient
  exact hmem

namespace Reception.Sound

variable {n : Nat} {a : Arrivals n} {c : Consumer} {s : Reception n} {party : Party n}
  {client : ClientId} {handle : Handle} {log : List (Exchange Delivery)}

/-- A task that has asked for something can be carried on to its end. -/
theorem completes_of_prefix (h : s.Sound a c) (hsome : s.logOf party ≠ []) :
    ∃ log, party.Completes a log ∧ s.logOf party <+: log := by
  cases htask : s.task party with
  | none => exact absurd (h.untouched party htask) hsome
  | some p =>
      obtain ⟨start, hruns, hreaches⟩ := h.course party p htask
      obtain ⟨rest, result, hrest⟩ := p.exists_run
      exact ⟨_, Party.completes_of_run hruns (hreaches.run hrest), List.prefix_append _ rest⟩

theorem removalLaw (h : s.Sound a c) {before after : List (Party n × Exchange Delivery)}
    {removed : Bool}
    (hlog : s.log = before ++ (party, ⟨.removeIfCurrent client handle, removed⟩) :: after) :
    RemovalLaw a party before client handle := by
  have hown : s.logOf party = party.logIn before ++
      ⟨.removeIfCurrent client handle, removed⟩ :: party.logIn after := by
    simp [logOf, Party.logIn, hlog]
  have hsome : s.logOf party ≠ [] := by simp [hown]
  obtain ⟨log, hcompletes, hprefix⟩ := h.completes_of_prefix hsome
  have hpart : party.logIn before ++ [⟨.removeIfCurrent client handle, removed⟩] <+:
      s.logOf party := ⟨party.logIn after, by simp [hown]⟩
  exact ⟨Party.mayRemove_of_completes hcompletes (hpart.trans hprefix),
    fun client' handle' hne hget => Registry.get?_removeIfCurrent_of_ne hne hget⟩

/-- A task that asked for something has ended when the shutdown has. -/
theorem done_of_shutdown (h : s.Sound a c) (harrivals : ∀ i, s.Done (.arrival i))
    (hshutdown : s.Done .shutdown) (hsome : s.logOf party ≠ []) : s.Done party := by
  cases party with
  | arrival i => exact harrivals i
  | shutdown => exact hshutdown
  | message k =>
      have hbegun : s.task .shutdown ≠ none := by
        obtain ⟨result, hdone⟩ := hshutdown
        rw [hdone]
        exact nofun
      have hlast := h.resting (h.stopped hbegun).2
      rcases Nat.lt_trichotomy k s.handled with hlt | rfl | hgt
      · exact h.past k hlt
      · exact absurd (h.untouched _ hlast) hsome
      · exact absurd (h.untouched _ (h.future k hgt)) hsome

/-- After the shutdown nobody is registered: a late task has seen that the gateway stops. -/
theorem unregistered (h : s.Sound a c) (harrivals : ∀ i, s.Done (.arrival i))
    (hshutdown : s.Done .shutdown) : s.registry.get? client = none := by
  cases hget : s.registry.get? client with
  | none => rfl
  | some handle =>
      obtain ⟨e, he, hinserts⟩ := mem_asked.mp (mem_of_latest? (h.latest client handle hget))
      obtain ⟨party, hparty⟩ := exists_logOf_of_mem he
      have hentry : (client, handle) ∈ insertions (s.logOf party) :=
        mem_asked.mpr ⟨e, hparty, hinserts⟩
      have hdone := h.done_of_shutdown harrivals hshutdown (List.ne_nil_of_mem hparty)
      have hcompletes := h.completes_of_done hdone
      obtain ⟨i, rfl, hhandle, -⟩ := Party.insertion_of_completes hcompletes hentry
      obtain rfl : handle = a.handle i := hhandle
      obtain ⟨handles, hdrain⟩ := drain_of_closes (h.completes_of_done hshutdown)
      obtain ⟨hpassed, hremoved⟩ := h.drained handles hdrain i client hget
      rcases checked_of_accepts hcompletes hentry with hpass | hremove
      · exact absurd hpass hpassed
      · exact absurd hremove hremoved

theorem taken_by (h : s.Sound a c) (hentry : (client, handle) ∈ insertions s.exchanges) :
    s.registry.get? client = some handle ∨ ∃ party, TakenOut handle (s.logOf party) := by
  rcases h.place client handle hentry with hget | ⟨e, he, htakes⟩
  · exact .inl hget
  · obtain ⟨party, hparty⟩ := exists_logOf_of_mem he
    exact .inr ⟨party, e, hparty, htakes⟩

/-- Whoever took a connection out has dealt with it, and everybody has ended. -/
theorem accounted (h : s.Sound a c) (harrivals : ∀ i, s.Done (.arrival i))
    (hshutdown : s.Done .shutdown) (hentry : (client, handle) ∈ insertions s.exchanges) :
    Closed handle s.exchanges ∨ Failed handle s.exchanges := by
  rcases h.taken_by hentry with hget | ⟨party, htaken⟩
  · rw [h.unregistered harrivals hshutdown] at hget
    cases hget
  · have hsome : s.logOf party ≠ [] := by
      obtain ⟨e, he, -⟩ := htaken
      exact List.ne_nil_of_mem he
    have hdone := h.done_of_shutdown harrivals hshutdown hsome
    have hsettled := Party.settled_of_completes (h.completes_of_done hdone)
    rcases hsettled handle htaken with hclosed | ⟨frame, timeout, error, hlost, hmem⟩
    · exact .inl (mem_exchanges_of_logOf hclosed)
    · exact .inr ⟨frame, timeout, error, hlost, mem_exchanges_of_logOf hmem⟩

end Reception.Sound

/-- The law holds at every moment, whoever announces itself and whatever comes of the deliveries. -/
theorem reception_accounts {n : Nat} {a : Arrivals n} {c : Consumer} {s : Reception n}
    (hreachable : Reception.Reachable a c s) : ReceptionLaw a s := by
  have hsound := Reception.sound_of_reachable hreachable
  exact ⟨hsound.replay, hsound.latest, fun _ _ => hsound.taken_by,
    fun _ _ _ _ _ _ hlog => hsound.removalLaw hlog,
    fun _ hdone => Party.settled_of_completes (hsound.completes_of_done hdone),
    fun harrivals hshutdown =>
      ⟨Registry.eq_empty_of_get? fun _ => hsound.unregistered harrivals hshutdown,
        fun _ _ hentry => hsound.accounted harrivals hshutdown hentry⟩⟩

/-- Two connections that announce themselves as the same client. -/
def Arrivals.twins : Arrivals 2 where
  handle i := ⟨i.val⟩
  injective _ _ h := Fin.ext (Handle.mk.inj h)
  read _ := some (.ok "CLIENT_ID,abc")

/-- The second of two connections is registered just after the registry was drained. -/
def Reception.late : Reception 2 :=
  (Reception.start .twins).run ⟨⟨.empty, .empty⟩, 1000⟩ [.perform (.arrival 0) (.ok .acked),
    .perform (.arrival 0) (.ok .acked), .take (.result ⟨"q"⟩ ⟨"abc"⟩ (.ofText "row")),
    .perform (.message 0) (.ok .acked), .perform (.message 0) (.ok .timedOut), .finish, .rest,
    .cancel, .shutdown, .perform .shutdown (.ok .acked), .perform (.arrival 1) (.ok .acked),
    .perform .shutdown (.ok .acked), .perform (.arrival 1) (.ok .acked),
    .perform (.arrival 1) (.ok .acked), .perform (.arrival 1) (.ok .acked)]

/-- The task of a connection that comes too late takes it out again. -/
theorem reception_accounts_of_late_announcement :
    Reception.Reachable .twins ⟨⟨.empty, .empty⟩, 1000⟩ .late ∧
      ReceptionLaw .twins Reception.late ∧
      (∀ i, Reception.late.Done (.arrival i)) ∧ Reception.late.Done .shutdown ∧
      Reception.late.registry = .empty ∧
      Reception.late.log = [(.arrival 0, ⟨.insert ⟨"abc"⟩ ⟨0⟩, none⟩),
        (.arrival 0, ⟨.stopping, false⟩), (.message 0, ⟨.lookup ⟨"abc"⟩, some ⟨0⟩⟩),
        (.message 0, ⟨.deliver ⟨0⟩ ⟨⟨"q"⟩, .rows "row"⟩ 1000, .ok .timedOut⟩),
        (.shutdown, ⟨.drain, [⟨0⟩]⟩), (.arrival 1, ⟨.insert ⟨"abc"⟩ ⟨1⟩, none⟩),
        (.shutdown, ⟨.close ⟨0⟩, ()⟩), (.arrival 1, ⟨.stopping, true⟩),
        (.arrival 1, ⟨.removeIfCurrent ⟨"abc"⟩ ⟨1⟩, true⟩), (.arrival 1, ⟨.close ⟨1⟩, ()⟩)] := by
  have hreachable : Reception.Reachable .twins ⟨⟨.empty, .empty⟩, 1000⟩ .late :=
    Reception.reachable_run .refl _
  have hlaw := reception_accounts hreachable
  have harrivals : ∀ i, Reception.late.Done (.arrival i) := by
    intro i
    match i with
    | 0 => exact ⟨_, by rfl⟩
    | 1 => exact ⟨_, by rfl⟩
  have hshutdown : Reception.late.Done .shutdown := ⟨_, by rfl⟩
  exact ⟨hreachable, hlaw, harrivals, hshutdown, (hlaw.finished harrivals hshutdown).1, by rfl⟩

end QueryGateway
