import QueryGateway.Gateway.Run
import QueryGateway.Proofs.Program.Runs
import QueryGateway.Proofs.Queue.Traffic

/-! # Queues that were declared

A queue stays where it is once it was declared, also in a broker that is closed. A publisher who
names it may be refused, but not because the queue is unknown.
-/

namespace QueryGateway

namespace Broker

/-- The most messages that a queue can be made to hold. -/
def maxCapacity : Nat := 0x1FFFFFFFFFFFFFFF

/-- Queues can be declared. A queue that is to hold more than the most messages is not refused: the
program breaks off where it declares one. -/
structure CanDeclare (b : Broker) : Prop where
  isOpen : b.closed = false
  fits : b.capacity ≤ maxCapacity

variable {b b' : Broker} {ticket : Ticket} {call : Call} {name : String}

/-- No queue of a broker is missing in another one. -/
def Keeps (b b' : Broker) : Prop :=
  ∀ name, b.queues.contains name = true → b'.queues.contains name = true

theorem keeps_setQueue (b : Broker) (name : String) (q : QueueState) :
    b.Keeps (b.setQueue name q) :=
  fun _ => contains_setQueue

theorem keeps_declare (h : b.declare name = .ok b') : b.Keeps b' := by
  rcases b.declare_cases name with hrefused | hsame | ⟨hopened, -⟩
  · rw [hrefused] at h
    cases h
  · obtain rfl := Except.ok.inj (hsame.symm.trans h)
    exact fun _ => id
  · obtain rfl := Except.ok.inj (hopened.symm.trans h)
    exact b.keeps_setQueue name .empty

theorem keeps_enter (b : Broker) (ticket : Ticket) (call : Call) :
    b.Keeps (b.enter ticket call).2 := by
  rcases b.enter_cases ticket call with ⟨_, henter, -⟩ | ⟨-, -, _, q, henter, -⟩
  · rw [henter]
    exact fun _ => id
  · rw [henter]
    exact b.keeps_setQueue call.queue q

theorem proceed_of_unknown (h : b.queues.contains call.queue = false) :
    (b.proceed ticket call).2 = b := by
  have hnone : b.queues.get? call.queue = none :=
    Option.isNone_iff_eq_none.mp (Option.isSome_eq_false_iff.mp h)
  cases call with
  | publish queue m =>
      simp only [Call.queue] at hnone
      simp only [proceed, pollPublish, hnone]
  | next queue =>
      simp only [Call.queue] at hnone
      simp only [proceed, pollNext, hnone]

theorem keeps_proceed (b : Broker) (ticket : Ticket) (call : Call) :
    b.Keeps (b.proceed ticket call).2 := by
  cases hthere : b.queues.contains call.queue with
  | false =>
      rw [proceed_of_unknown hthere]
      exact fun _ => id
  | true =>
      rcases b.proceed_cases ticket hthere with hwaits | ⟨_, q, hends, -⟩
      · rw [hwaits]
        exact fun _ => id
      · rw [hends]
        exact b.keeps_setQueue call.queue q

theorem keeps_abandon (b : Broker) (name : String) (ticket : Ticket) :
    b.Keeps (b.abandon name ticket) := by
  rw [abandon]
  split
  · exact fun _ => id
  · exact b.keeps_setQueue name _

/-- How a publish call ends for whose queue there is none. -/
def Ending.IsUnknown (ending : Ending) : Prop :=
  ∃ name, ending = .published (.error (.unknownQueue name))

theorem known_of_enter (h : b.queues.contains call.queue = true) {ending : Ending}
    (henter : (b.enter ticket call).1 = some ending) : ¬ending.IsUnknown := by
  rintro ⟨name, rfl⟩
  rcases b.enter_cases ticket call with ⟨_, heq, hdenied⟩ | ⟨-, -, _, q, heq, henters⟩
  · rw [heq] at henter
    obtain rfl := Option.some.inj henter
    obtain ⟨q, hq⟩ := Option.isSome_iff_exists.mp h
    -- The broker is closed, so this is not what it says.
    cases hdenied with
    | publish =>
        simp only [Call.queue] at hq
        simp only [enter, publish, hq] at heq
        split at heq
        · cases heq
        · split at heq
          · cases heq
          · cases heq
  · rw [heq] at henter
    obtain rfl : _ = some _ := henter
    cases henters

theorem known_of_proceed (h : b.queues.contains call.queue = true) {ending : Ending}
    (hproceed : (b.proceed ticket call).1 = some ending) : ¬ending.IsUnknown := by
  rintro ⟨name, rfl⟩
  rcases b.proceed_cases ticket h with hwaits | ⟨_, q, hends, hleaves⟩
  · rw [hwaits] at hproceed
    cases hproceed
  · rw [hends] at hproceed
    obtain rfl := Option.some.inj hproceed
    generalize hrefusal : Ending.published (.error (.unknownQueue name)) = ending at hleaves
    cases hleaves with
    | resume => cases hrefusal
    | take => cases hrefusal
    | refused =>
        cases call with
        | publish => cases hrefusal
        | next => cases hrefusal
    | abandoned => cases hrefusal

end Broker

/-! ## Whatever happens -/

namespace Traffic

open Broker (Call Ending)

/-- Some queues are there, and no call on one of them has ended as if it was not. -/
structure Knows (names : List String) (s : Traffic) : Prop where
  there : ∀ name ∈ names, s.broker.queues.contains name = true
  known : ∀ ticket call ending, (ticket, call, ending) ∈ s.ended → call.queue ∈ names →
    ¬ending.IsUnknown

namespace Knows

variable {names : List String} {s : Traffic}

theorem start (b : Broker) (h : ∀ name ∈ names, b.queues.contains name = true) :
    Knows names ⟨b, 0, [], []⟩ :=
  ⟨h, fun _ _ _ hmem => absurd hmem List.not_mem_nil⟩

/-- A call has ended. -/
theorem concat (h : Knows names s) {broker : Broker} (hkeeps : s.broker.Keeps broker)
    {started : Nat} {waiting : List (Ticket × Call)} {ticket : Ticket} {call : Call}
    {ending : Ending} (hending : s.broker.queues.contains call.queue = true → ¬ending.IsUnknown) :
    Knows names ⟨broker, started, waiting, s.ended ++ [(ticket, call, ending)]⟩ := by
  refine ⟨fun name hname => hkeeps name (h.there name hname), ?_⟩
  intro ticket' call' ending' hmem hname
  rcases List.mem_append.mp hmem with hmem | hmem
  · exact h.known ticket' call' ending' hmem hname
  · cases List.mem_singleton.mp hmem
    exact hending (h.there _ hname)

/-- No call has ended. -/
theorem move (h : Knows names s) {broker : Broker} (hkeeps : s.broker.Keeps broker)
    (started : Nat) (waiting : List (Ticket × Call)) :
    Knows names ⟨broker, started, waiting, s.ended⟩ :=
  ⟨fun name hname => hkeeps name (h.there name hname), h.known⟩

theorem step (h : Knows names s) (action : Action) : Knows names (s.step action) := by
  cases action with
  | declare name =>
      rw [Traffic.step]
      split
      · next broker hdeclare => exact h.move (Broker.keeps_declare hdeclare) _ _
      · exact h
  | call call =>
      have hkeeps := s.broker.keeps_enter s.started call
      rw [Traffic.step]
      split
      · next ending broker henter =>
          rw [henter] at hkeeps
          exact h.concat hkeeps fun hthere =>
            Broker.known_of_enter hthere (congrArg Prod.fst henter)
      · next broker henter =>
          rw [henter] at hkeeps
          exact h.move hkeeps _ _
  | poll ticket =>
      rw [Traffic.step]
      split
      · exact h
      · next call hfind =>
          have hkeeps := s.broker.keeps_proceed ticket call
          split
          · next ending broker hproceed =>
              rw [hproceed] at hkeeps
              exact h.concat hkeeps fun hthere =>
                Broker.known_of_proceed hthere (congrArg Prod.fst hproceed)
          · next broker hproceed =>
              rw [hproceed] at hkeeps
              exact h.move hkeeps _ _
  | abandon ticket =>
      rw [Traffic.step]
      split
      · exact h
      · next call hfind =>
          refine h.concat (s.broker.keeps_abandon call.queue ticket) fun _ => ?_
          rintro ⟨name, hname⟩
          cases hname
  | close =>
      have hkeeps : s.broker.Keeps s.broker.close := fun _ => id
      exact h.move hkeeps _ _

theorem run (h : Knows names s) (actions : List Action) : Knows names (s.run actions) := by
  induction actions generalizing s with
  | nil => exact h
  | cons first rest ih => exact ih (h.step first)

end Knows

end Traffic

/-! ## Declaring -/

namespace Gateway

variable {α β : Type} {log : Log} {b b' : Broker} {name : String} {names : List String}
  {exchanges : List (Exchange Host)} {result : Except GatewayError Unit}

theorem run_host (p : Program Host α) (b : Broker) :
    (host p).run.run b = p >>= fun a => .done (.ok a, b) := by
  have hlift : (host p).run.run b =
      (p >>= fun a => .done (a, b)) >>= fun (a, b) => .done (.ok a, b) := rfl
  rw [hlift, Program.bind_assoc]
  rfl

theorem run_bind (x : Run α) (f : α → Run β) (b : Broker) :
    (x >>= f).run.run b = x.run.run b >>= fun (result, b) =>
      match result with
      | .ok a => (f a).run.run b
      | .error e => .done (.error e, b) := by
  rw [ExceptT.run_bind, StateT.run_bind]
  apply congrArg
  funext ⟨result, b⟩
  cases result with
  | ok a => rfl
  | error e => rfl

theorem run_get_bind (f : Broker → Run α) (b : Broker) :
    (get >>= f).run.run b = (f b).run.run b := rfl

theorem run_declare (h : b.declare name = .ok b') :
    (declare log name).run.run b = (do
      if !b.queues.contains name then
        host (Host.log log .debug s!"Queue {name} declared") : Run Unit).run.run b' := by
  rw [declare, run_get_bind, h]
  rfl

/-- A broker is open, has no queue less than another one, and some more. -/
structure Declared (b : Broker) (names : List String) (b' : Broker) : Prop where
  isOpen : b'.closed = false
  keeps : b.Keeps b'
  there : ∀ name ∈ names, b'.queues.contains name = true

theorem declare_of_open (hopen : b.closed = false) (name : String) :
    ∃ b', b.declare name = .ok b' ∧ Declared b [name] b' := by
  cases hthere : b.queues.contains name with
  | true =>
      refine ⟨b, by simp [Broker.declare, hopen, hthere], hopen, fun _ => id, ?_⟩
      simpa using hthere
  | false =>
      have hdeclare : b.declare name = .ok (b.setQueue name .empty) := by
        simp [Broker.declare, hopen, hthere]
      refine ⟨_, hdeclare, hopen, Broker.keeps_declare hdeclare, ?_⟩
      simp [Broker.setQueue, Table.contains]

theorem declared_of_declare (hopen : b.closed = false)
    (h : ((declare log name).run.run b).Run exchanges (result, b')) :
    result = .ok () ∧ Declared b [name] b' := by
  obtain ⟨broker, hdeclare, hdeclared⟩ := declare_of_open hopen name
  rw [run_declare hdeclare] at h
  have hresult : result = .ok () ∧ b' = broker := by
    split at h
    · rw [run_host, Program.Run.bind_iff] at h
      obtain ⟨_, _, _, -, -, hdone⟩ := h
      obtain ⟨-, heq⟩ := Program.Run.done_iff.mp hdone
      exact Prod.mk.inj heq
    · obtain ⟨-, heq⟩ := Program.Run.done_iff.mp h
      exact Prod.mk.inj heq
  obtain ⟨rfl, rfl⟩ := hresult
  exact ⟨rfl, hdeclared⟩

/-- On an open broker all queues can be declared. -/
theorem declared_of_forM (hopen : b.closed = false)
    (h : ((names.forM (declare log)).run.run b).Run exchanges (result, b')) :
    result = .ok () ∧ Declared b names b' := by
  induction names generalizing b exchanges with
  | nil =>
      obtain ⟨-, heq⟩ := Program.Run.done_iff.mp h
      obtain ⟨rfl, rfl⟩ := Prod.mk.inj heq
      exact ⟨rfl, hopen, fun _ => id, by simp⟩
  | cons name rest ih =>
      have hcons : (name :: rest).forM (declare log) =
          declare log name >>= fun _ => rest.forM (declare log) := rfl
      rw [hcons, run_bind, Program.Run.bind_iff] at h
      obtain ⟨⟨first, broker⟩, _, _, -, hfirst, hrest⟩ := h
      obtain ⟨rfl, hbroker⟩ := declared_of_declare hopen hfirst
      obtain ⟨rfl, hdeclared⟩ := ih hbroker.isOpen hrest
      refine ⟨rfl, hdeclared.isOpen, fun other => hdeclared.keeps other ∘ hbroker.keeps other, ?_⟩
      exact List.forall_mem_cons.mpr
        ⟨hdeclared.keeps name (hbroker.there name List.mem_cons_self), hdeclared.there⟩

end Gateway

end QueryGateway
