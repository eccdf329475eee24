import QueryGateway.Proofs.Reception.System
import QueryGateway.Proofs.Routing.Lookup

/-! # What stays true while connections come and go

A handle that was registered is still registered or was taken out. Once the registry has been
drained, a connection can only be registered by a task that has not looked yet whether the gateway
stops; and the gateway does stop then.
-/

namespace QueryGateway

open Delivery

instance (request : Interface.Request Delivery) : Inhabited (Interface.Answer Delivery request) :=
  match request with
  | .lookup _ => ⟨(none : Option Handle)⟩
  | .insert _ _ => ⟨(none : Option Handle)⟩
  | .removeIfCurrent _ _ => ⟨false⟩
  | .drain => ⟨([] : List Handle)⟩
  | .deliver _ _ _ => ⟨(.error .closed : Except WireError AckOutcome)⟩
  | .close _ => ⟨()⟩
  | .stopping => ⟨false⟩

/-! ## One task -/

namespace Party

variable {n : Nat} {a : Arrivals n} {c : Consumer} {party : Party n}
  {log : List (Exchange Delivery)}

/-- What a task has asked for when it comes to its end. -/
def Completes (a : Arrivals n) : Party n → List (Exchange Delivery) → Prop
  | .arrival i, log => Accepts (a.handle i) log
  | .message _, log => Handles log
  | .shutdown, log => Closes log

theorem completes_of_run {p : Program Delivery party.Result} {result : party.Result}
    (hruns : party.Runs a c p) (hrun : p.Run log result) : party.Completes a log := by
  cases hruns with
  | arrival i => exact accepts_of_run hrun
  | message k counts m => exact Consumer.handles_of_process hrun
  | shutdown => exact closes_of_run hrun

theorem settled_of_completes (h : party.Completes a log) : Settled log := by
  cases party with
  | arrival i => exact settled_of_accepts h
  | message k => exact settled_of_handles h
  | shutdown => exact settled_of_closes h

/-- Only the task of a new connection registers it, with its own handle, and does so first. -/
theorem insertion_of_completes {entry : ClientId × Handle} (h : party.Completes a log)
    (hentry : entry ∈ insertions log) :
    ∃ i, party = .arrival i ∧ entry.2 = a.handle i ∧ insertions log.tail = [] := by
  cases party with
  | arrival i =>
      obtain ⟨htail, howner⟩ := insertions_of_accepts h
      exact ⟨i, rfl, howner entry hentry, htail⟩
  | message k =>
      rw [insertions_of_handles h] at hentry
      cases hentry
  | shutdown =>
      rw [insertions_of_closes h] at hentry
      cases hentry

end Party

/-! ## The registry and its requests -/

namespace Registry

variable {r : Registry} {client : ClientId} {handle : Handle}

theorem replay_append (log : List (Exchange Delivery)) (e : Exchange Delivery) :
    replay (log ++ [e]) = (replay log).after e.request := by
  simp [replay]

theorem get?_after_of_inserts {request : Delivery.Request}
    (h : request.inserts? = some (client, handle)) :
    (r.after request).get? client = some handle := by
  cases request with
  | insert client' handle' =>
      cases h
      simp [after, get?_insert]
  | _ => cases h

theorem mem_drain (h : r.get? client = some handle) : handle ∈ r.drain.1 :=
  List.mem_map_of_mem (f := Prod.snd) (Table.mem_entries_of_get? h)

theorem eq_empty_of_get? (h : ∀ client, r.get? client = none) : r = .empty := by
  obtain ⟨⟨entries, hnodup⟩⟩ := r
  cases entries with
  | nil => rfl
  | cons entry rest =>
      have hnone := h entry.1
      simp [get?, Table.get?, Table.find] at hnone

end Registry

theorem Delivery.latest?_append {client : ClientId} {log : List (Exchange Delivery)}
    {e : Exchange Delivery} : latest? client (log ++ [e]) =
      match e.request.inserts? with
      | some (client', handle) => if client' = client then some handle else latest? client log
      | none => latest? client log := by
  simp only [latest?, asked_append, asked_cons, asked_nil, List.append_nil, List.filter_append]
  cases Request.inserts? e.request with
  | none => simp
  | some entry =>
      obtain ⟨client', handle⟩ := entry
      by_cases hclient : client' = client
      · simp [hclient]
      · simp [hclient]

namespace Reception

variable {n : Nat} {s : Reception n} {e : Exchange Delivery} {client : ClientId} {handle : Handle}
  {log : List (Exchange Delivery)}

/-- A handle stays registered, or it is taken out. -/
theorem Answers.keeps (h : s.Answers e) (hget : s.registry.get? client = some handle) :
    (s.registry.after e.request).get? client = some handle ∨ Takes handle e := by
  cases h with
  | lookup => exact .inl hget
  | deliver => exact .inl hget
  | close => exact .inl hget
  | stopping => exact .inl hget
  | insert client' newer =>
      by_cases hclient : client' = client
      · right
        have hold : (s.registry.insert client' newer).1 = some handle := hclient ▸ hget
        rw [hold]
        exact .displaced client' newer
      · left
        simpa [Registry.after, Registry.get?_insert, hclient] using hget
  | removeIfCurrent client' handle' =>
      by_cases hboth : client' = client ∧ s.registry.get? client' = some handle'
      · right
        obtain ⟨rfl, hcurrent⟩ := hboth
        obtain rfl : handle' = handle := Option.some.inj (hcurrent.symm.trans hget)
        simp only [Registry.removeIfCurrent, hcurrent, if_true]
        exact .removed client'
      · left
        rw [Registry.after, Registry.get?_removeIfCurrent, if_neg hboth]
        exact hget
  | drain hperm => exact .inr (.drained (hperm.mem_iff.mpr (Registry.mem_drain hget)))

theorem Answers.latest (h : s.Answers e)
    (hlatest : ∀ handle, s.registry.get? client = some handle → latest? client log = some handle)
    (hget : (s.registry.after e.request).get? client = some handle) :
    latest? client (log ++ [e]) = some handle := by
  rw [latest?_append]
  cases h with
  | lookup => exact hlatest handle hget
  | deliver => exact hlatest handle hget
  | close => exact hlatest handle hget
  | stopping => exact hlatest handle hget
  | insert client' newer =>
      simp only [Registry.after, Registry.get?_insert] at hget
      simp only [Request.inserts?]
      split
      · next hclient => rwa [if_pos hclient] at hget
      · next hclient =>
          rw [if_neg hclient] at hget
          exact hlatest handle hget
  | removeIfCurrent client' handle' =>
      exact hlatest handle (Registry.get?_of_removeIfCurrent hget)
  | drain hperm => cases hget

/-! ## All tasks together -/

/-- What a new connection's task has asked for leaves open whether it stays registered. -/
def Undecided (a : Arrivals n) (i : Fin n) (client : ClientId) (log : List (Exchange Delivery)) :
    Prop :=
  ⟨.stopping, false⟩ ∉ log ∧ (client, a.handle i) ∉ removals log

/-- What holds between the registry, the tasks and what was asked. -/
structure Sound (a : Arrivals n) (c : Consumer) (s : Reception n) : Prop where
  replay : s.registry = .replay s.exchanges
  latest : ∀ client handle, s.registry.get? client = some handle →
    latest? client s.exchanges = some handle
  /-- A handle that was registered is still registered or was taken out. -/
  place : ∀ client handle, (client, handle) ∈ insertions s.exchanges →
    s.registry.get? client = some handle ∨ TakenOut handle s.exchanges
  untouched : ∀ party, s.task party = none → s.logOf party = []
  course : ∀ party p, s.task party = some p →
    ∃ start, party.Runs a c start ∧ start.Reaches (s.logOf party) p
  past : ∀ k < s.handled, s.Done (.message k)
  future : ∀ k, s.handled < k → s.task (.message k) = none
  resting : s.resting = true → s.task (.message s.handled) = none
  stopped : s.task .shutdown ≠ none → s.stopping = true ∧ s.resting = true
  /-- After the registry was drained nobody is registered who was found to be in time or has been
  asked to be removed. -/
  drained : ∀ handles, ⟨.drain, handles⟩ ∈ s.logOf .shutdown → ∀ i client,
    s.registry.get? client = some (a.handle i) → Undecided a i client (s.logOf (.arrival i))

variable {a : Arrivals n} {c : Consumer} {s' : Reception n} {party other : Party n}
  {p : Program Delivery party.Result}

section Changes

@[simp] theorem task_set_self : (s.set party p).task party = some p :=
  Function.update_self ..

theorem task_set_of_ne (h : other ≠ party) : (s.set party p).task other = s.task other :=
  Function.update_of_ne h ..

@[simp] theorem exchanges_perform :
    (s.perform party e p).exchanges = s.exchanges ++ [e] := by
  simp [exchanges, perform]

@[simp] theorem logOf_perform_self :
    (s.perform party e p).logOf party = s.logOf party ++ [e] := by
  simp [logOf, Party.logIn, perform]

theorem logOf_perform_of_ne (h : other ≠ party) :
    (s.perform party e p).logOf other = s.logOf other := by
  simp [logOf, Party.logIn, perform, Ne.symm h]

end Changes

theorem mem_exchanges_of_logOf (h : e ∈ s.logOf party) : e ∈ s.exchanges := by
  obtain ⟨entry, hentry, heq⟩ := List.mem_filterMap.mp h
  split at heq
  · obtain rfl := Option.some.inj heq
    exact List.mem_map_of_mem hentry
  · cases heq

theorem exists_logOf_of_mem (h : e ∈ s.exchanges) : ∃ party, e ∈ s.logOf party := by
  obtain ⟨⟨party, e'⟩, hentry, rfl⟩ := List.mem_map.mp h
  exact ⟨party, List.mem_filterMap.mpr ⟨_, hentry, by simp⟩⟩

namespace Sound

/-- What a task has asked for so far is the beginning of what it asks for until its end. -/
theorem exists_completes (h : s.Sound a c) {request : Delivery.Request}
    {next : Interface.Answer Delivery request → Program Delivery party.Result}
    (htask : s.task party = some (.perform (I := Delivery) request next))
    (answer : Interface.Answer Delivery request) :
    ∃ rest, party.Completes a (s.logOf party ++ ⟨request, answer⟩ :: rest) := by
  obtain ⟨start, hruns, hreaches⟩ := h.course party _ htask
  obtain ⟨rest, result, hrest⟩ := (next answer).exists_run
  exact ⟨rest, Party.completes_of_run hruns (hreaches.run (.perform answer hrest))⟩

theorem completes_of_done (h : s.Sound a c) (hdone : s.Done party) :
    party.Completes a (s.logOf party) := by
  obtain ⟨result, htask⟩ := hdone
  obtain ⟨start, hruns, hreaches⟩ := h.course party _ htask
  exact Party.completes_of_run hruns hreaches.run_of_done

/-- The task that registers a connection has not asked for anything before. -/
theorem arrival_of_inserts (h : s.Sound a c) {request : Delivery.Request}
    {next : Interface.Answer Delivery request → Program Delivery party.Result}
    (htask : s.task party = some (.perform (I := Delivery) request next))
    (answer : Interface.Answer Delivery request)
    (hinserts : request.inserts? = some (client, handle)) :
    ∃ i, party = .arrival i ∧ handle = a.handle i ∧ s.logOf party = [] := by
  obtain ⟨rest, hcompletes⟩ := h.exists_completes htask answer
  have hentry : (client, handle) ∈ insertions (s.logOf party ++ ⟨request, answer⟩ :: rest) := by
    simp [hinserts]
  obtain ⟨i, hparty, hhandle, htail⟩ := Party.insertion_of_completes hcompletes hentry
  refine ⟨i, hparty, hhandle, ?_⟩
  cases hlog : s.logOf party with
  | nil => rfl
  | cons first before => simp [hlog, hinserts] at htail

theorem start (a : Arrivals n) (c : Consumer) : (Reception.start a).Sound a c where
  replay := rfl
  latest := nofun
  place := nofun
  untouched _ _ := rfl
  course party p hp := by
    cases party with
    | arrival i =>
        obtain rfl := Option.some.inj hp
        exact ⟨_, .arrival i, .refl _⟩
    | message k => cases hp
    | shutdown => cases hp
  past := nofun
  future _ _ := rfl
  resting := nofun
  stopped hne := absurd rfl hne
  drained := nofun

/-! ## Tasks that begin -/

theorem untouched_set (h : s.Sound a c) (hnone : (s.set party p).task other = none) :
    s.logOf other = [] := by
  by_cases hother : other = party
  · subst hother
    rw [task_set_self] at hnone
    cases hnone
  · rw [task_set_of_ne hother] at hnone
    exact h.untouched other hnone

theorem course_set (h : s.Sound a c) (hruns : party.Runs a c p) (hnone : s.task party = none)
    {q : Program Delivery other.Result} (hq : (s.set party p).task other = some q) :
    ∃ start, other.Runs a c start ∧ start.Reaches (s.logOf other) q := by
  by_cases hother : other = party
  · subst hother
    rw [task_set_self] at hq
    obtain rfl := Option.some.inj hq
    rw [h.untouched other hnone]
    exact ⟨p, hruns, .refl p⟩
  · rw [task_set_of_ne hother] at hq
    exact h.course other q hq

/-! ## Requests -/

variable {request : Delivery.Request}
  {next : Interface.Answer Delivery request → Program Delivery party.Result}
  {answer : Interface.Answer Delivery request}

theorem place_perform (h : s.Sound a c) (hanswers : s.Answers e)
    (hentry : (client, handle) ∈ insertions (s.exchanges ++ [e])) :
    (s.registry.after e.request).get? client = some handle ∨
      TakenOut handle (s.exchanges ++ [e]) := by
  simp only [asked_append, List.mem_append] at hentry
  rcases hentry with hearlier | hnow
  · rcases h.place client handle hearlier with hget | ⟨e', he', htakes⟩
    · rcases hanswers.keeps hget with hget' | htakes
      · exact .inl hget'
      · exact .inr ⟨e, by simp, htakes⟩
    · exact .inr ⟨e', List.mem_append_left _ he', htakes⟩
  · exact .inl (Registry.get?_after_of_inserts (by simpa using hnow))

theorem course_perform (h : s.Sound a c)
    (htask : s.task party = some (.perform (I := Delivery) request next))
    {q : Program Delivery other.Result}
    (hq : (s.perform party ⟨request, answer⟩ (next answer)).task other = some q) :
    ∃ start, other.Runs a c start ∧
      start.Reaches ((s.perform party ⟨request, answer⟩ (next answer)).logOf other) q := by
  by_cases hother : other = party
  · subst hother
    obtain rfl : next answer = q := Option.some.inj (task_set_self.symm.trans hq)
    obtain ⟨start, hruns, hreaches⟩ := h.course other _ htask
    exact ⟨start, hruns, by simpa using hreaches.answer answer⟩
  · rw [logOf_perform_of_ne hother]
    exact h.course other q ((task_set_of_ne hother).symm.trans hq)

theorem undecided_perform {i : Fin n}
    (hopen : Undecided a i client (s.logOf (.arrival i)))
    (hpassed : (⟨.stopping, false⟩ : Exchange Delivery) ≠ e)
    (hremoves : e.request.removes? ≠ some (client, a.handle i)) :
    Undecided a i client ((s.perform party e p).logOf (.arrival i)) := by
  by_cases hparty : .arrival i = party
  · subst hparty
    rw [logOf_perform_self]
    exact ⟨by simp [hopen.1, hpassed], by simp [hopen.2, hremoves]⟩
  · rw [logOf_perform_of_ne hparty]
    exact hopen

/-- A connection that is registered after the registry was drained is undecided: its task will
see that the gateway stops. -/
theorem drained_perform (h : s.Sound a c)
    (htask : s.task party = some (.perform (I := Delivery) request next))
    (hanswers : s.Answers ⟨request, answer⟩) {handles : List Handle} {i : Fin n}
    (hdrain : ⟨.drain, handles⟩ ∈ (s.perform party ⟨request, answer⟩ p).logOf .shutdown)
    (hget : (s.registry.after request).get? client = some (a.handle i)) :
    Undecided a i client ((s.perform party ⟨request, answer⟩ p).logOf (.arrival i)) := by
  have hearlier : (∀ handles, (⟨.drain, handles⟩ : Exchange Delivery) ≠ ⟨request, answer⟩) →
      ⟨.drain, handles⟩ ∈ s.logOf .shutdown := by
    intro hne
    by_cases hparty : .shutdown = party
    · subst hparty
      rw [logOf_perform_self, List.mem_append, List.mem_singleton] at hdrain
      exact hdrain.resolve_right (hne handles)
    · rwa [logOf_perform_of_ne hparty] at hdrain
  cases hanswers with
  | drain hperm => cases hget
  | lookup client' =>
      exact undecided_perform (h.drained handles (hearlier nofun) i client hget) nofun nofun
  | deliver handle frame timeout reply =>
      exact undecided_perform (h.drained handles (hearlier nofun) i client hget) nofun nofun
  | close handle =>
      exact undecided_perform (h.drained handles (hearlier nofun) i client hget) nofun nofun
  | stopping =>
      have hmem := hearlier nofun
      have hbegun : s.task .shutdown ≠ none := by
        intro hnone
        rw [h.untouched .shutdown hnone] at hmem
        cases hmem
      refine undecided_perform (h.drained handles hmem i client hget) ?_ nofun
      rw [(h.stopped hbegun).1]
      exact nofun
  | removeIfCurrent client' handle' =>
      refine undecided_perform (h.drained handles (hearlier nofun) i client
        (Registry.get?_of_removeIfCurrent hget)) nofun ?_
      intro hremoves
      cases hremoves
      exact Registry.get?_removeIfCurrent_ne _ _ _ hget
  | insert client' handle' =>
      by_cases hclient : client' = client
      · -- This task has asked for nothing before, so it has not looked.
        obtain ⟨j, rfl, hj, hfirst⟩ :=
          h.arrival_of_inserts htask (s.registry.insert client' handle').1 rfl
        have hhandle : handle' = a.handle i := by
          rw [Registry.after, Registry.get?_insert, if_pos hclient] at hget
          exact Option.some.inj hget
        obtain rfl : i = j := a.injective (hhandle.symm.trans hj)
        rw [logOf_perform_self, hfirst]
        exact ⟨by rw [List.nil_append, List.mem_singleton]; exact nofun, List.not_mem_nil⟩
      · rw [Registry.after, Registry.get?_insert, if_neg hclient] at hget
        exact undecided_perform (h.drained handles (hearlier nofun) i client hget) nofun nofun

/-- A task that was at another point than this one is not the one that moves. -/
theorem ne_of_task (htask : s.task party = some (.perform (I := Delivery) request next))
    {found : Option (Program Delivery other.Result)} (hother : s.task other = found)
    (hfound : ∀ request next, found ≠ some (.perform (I := Delivery) request next)) :
    other ≠ party := by
  rintro rfl
  exact hfound request next (hother.symm.trans htask)

/-- A request of one of the tasks keeps everything in order. -/
theorem perform (h : s.Sound a c)
    (htask : s.task party = some (.perform (I := Delivery) request next))
    (hanswers : s.Answers ⟨request, answer⟩) :
    (s.perform party ⟨request, answer⟩ (next answer)).Sound a c where
  replay := by
    rw [exchanges_perform, Registry.replay_append, ← h.replay]
    rfl
  latest client handle hget := by
    rw [exchanges_perform]
    exact hanswers.latest (h.latest client) hget
  place client handle hentry := by
    rw [exchanges_perform] at hentry ⊢
    exact h.place_perform hanswers hentry
  untouched other hnone := by
    have hother : other ≠ party := by
      rintro rfl
      cases task_set_self.symm.trans hnone
    rw [logOf_perform_of_ne hother]
    exact h.untouched other ((task_set_of_ne hother).symm.trans hnone)
  course other q hq := h.course_perform htask hq
  past k hk := by
    obtain ⟨result, hdone⟩ := h.past k hk
    exact ⟨result, (task_set_of_ne (ne_of_task htask hdone nofun)).trans hdone⟩
  future k hk := by
    have hnone := h.future k hk
    exact (task_set_of_ne (ne_of_task htask hnone nofun)).trans hnone
  resting hrest := by
    have hnone := h.resting hrest
    exact (task_set_of_ne (ne_of_task htask hnone nofun)).trans hnone
  stopped hne := by
    by_cases hparty : .shutdown = party
    · subst hparty
      exact h.stopped (by rw [htask]; exact nofun)
    · exact h.stopped fun hnone => hne ((task_set_of_ne hparty).trans hnone)
  drained handles hdrain i client hget := h.drained_perform htask hanswers hdrain hget

theorem step (h : s.Sound a c) (hstep : Step c s s') : s'.Sound a c := by
  cases hstep with
  | perform htask hanswers => exact h.perform htask hanswers
  | take m hresting hnone =>
      have hother : ∀ k, k ≠ s.handled → Party.message (n := n) k ≠ .message s.handled :=
        fun k hk heq => hk (Party.message.inj heq)
      have hshutdown : Party.shutdown (n := n) ≠ .message s.handled := nofun
      exact { h with
        untouched := fun other => h.untouched_set
        course := fun other q => h.course_set (.message s.handled s.counts m) hnone
        past := fun k hk => by
          obtain ⟨result, hdone⟩ := h.past k hk
          exact ⟨result, (task_set_of_ne (hother k (Nat.ne_of_lt hk))).trans hdone⟩
        future := fun k hk =>
          (task_set_of_ne (hother k (Nat.ne_of_gt hk))).trans (h.future k hk)
        resting := fun hrest => nomatch hresting.symm.trans hrest
        stopped := fun hne => h.stopped fun hnone => hne ((task_set_of_ne hshutdown).trans hnone) }
  | @finish outcome counts htask =>
      exact { h with
        past := fun k hk => by
          rcases Nat.lt_succ_iff_lt_or_eq.mp hk with hlt | rfl
          · exact h.past k hlt
          · exact ⟨(outcome, counts), htask⟩
        future := fun k hk => h.future k (Nat.lt_of_succ_lt hk)
        resting := fun hrest => nomatch (h.resting hrest).symm.trans htask }
  | rest hnone =>
      exact { h with
        resting := fun _ => hnone
        stopped := fun hne => ⟨(h.stopped hne).1, rfl⟩ }
  | cancel => exact { h with stopped := fun hne => ⟨rfl, (h.stopped hne).2⟩ }
  | shutdown hstopping hresting hnone =>
      have hother : ∀ k, Party.message (n := n) k ≠ .shutdown := nofun
      exact { h with
        untouched := fun other => h.untouched_set
        course := fun other q => h.course_set .shutdown hnone
        past := fun k hk => by
          obtain ⟨result, hdone⟩ := h.past k hk
          exact ⟨result, (task_set_of_ne (hother k)).trans hdone⟩
        future := fun k hk => (task_set_of_ne (hother k)).trans (h.future k hk)
        resting := fun hrest => (task_set_of_ne (hother s.handled)).trans (h.resting hrest)
        stopped := fun _ => ⟨hstopping, hresting⟩ }

end Sound

theorem sound_of_reachable (h : Reachable a c s) : s.Sound a c := by
  induction h with
  | refl => exact .start a c
  | tail _ hstep ih => exact ih.step hstep

end Reception

end QueryGateway
