import Mathlib.Data.List.Sort
import QueryGateway.Proofs.Queue.Line

/-! # Traffic on a broker

Publishers and consumers call the broker as they like. A call that has to wait may be polled at any
time, and may be given up; queues may be declared again, and the broker may be closed. Calls are
numbered as they are made.
-/

namespace QueryGateway

namespace Broker

/-- A call that may have to wait. -/
inductive Call where
  | publish (queue : String) (m : Message)
  | next (queue : String)

/-- The queue that a call is about. -/
def Call.queue : Call → String
  | publish queue _ => queue
  | next queue => queue

/-- How a call has ended. -/
inductive Ending where
  | published (result : Except BrokerError Unit)
  | found (m : Option Message)
  | abandoned

/-- How a call ends when the broker is closed. -/
def Call.refusal : Call → Ending
  | publish _ _ => .published (.error .closed)
  | next _ => .found none

/-- The end of a call that need not wait. -/
def ending? (f : α → Ending) : Progress α → Option Ending
  | .ready result => some (f result)
  | .waiting => none

/-- Makes a call. -/
def enter (b : Broker) (ticket : Ticket) : Call → Option Ending × Broker
  | .publish queue m =>
    let (progress, b) := b.publish queue ticket m
    (ending? .published progress, b)
  | .next queue =>
    let (progress, b) := b.next queue ticket
    (ending? .found progress, b)

/-- Goes on with a call. -/
def proceed (b : Broker) (ticket : Ticket) : Call → Option Ending × Broker
  | .publish queue _ =>
    let (progress, b) := b.pollPublish queue ticket
    (ending? .published progress, b)
  | .next queue =>
    let (progress, b) := b.pollNext queue ticket
    (ending? .found progress, b)

end Broker

open Broker (Call Ending)

/-- A broker with all calls that were made. -/
structure Traffic where
  broker : Broker
  /-- How many calls were made. The next one has this number. -/
  started : Nat
  waiting : List (Ticket × Call)
  /-- The calls that have ended, in the order in which they did. -/
  ended : List (Ticket × Call × Ending)

namespace Traffic

/-- What may happen to a broker. A subscription is opened without a change. -/
inductive Action where
  | declare (queue : String)
  | call (call : Call)
  | poll (ticket : Ticket)
  | abandon (ticket : Ticket)
  | close

/-- Nothing has happened. -/
def start (capacity : Nat) : Traffic := ⟨.new capacity, 0, [], []⟩

/-- A call that waited has ended. -/
def finish (s : Traffic) (ticket : Ticket) (call : Call) (ending : Ending) : Traffic :=
  { s with
    waiting := s.waiting.filter (·.1 ≠ ticket)
    ended := s.ended ++ [(ticket, call, ending)] }

/-- The traffic after something has happened. Only calls that wait can be polled or given up. -/
def step (s : Traffic) : Action → Traffic
  | .declare queue =>
    match s.broker.declare queue with
    | .ok broker => { s with broker }
    | .error _ => s
  | .call call =>
    match s.broker.enter s.started call with
    | (some ending, broker) =>
      ⟨broker, s.started + 1, s.waiting, s.ended ++ [(s.started, call, ending)]⟩
    | (none, broker) => ⟨broker, s.started + 1, s.waiting ++ [(s.started, call)], s.ended⟩
  | .poll ticket =>
    match s.waiting.find? (·.1 = ticket) with
    | none => s
    | some (_, call) =>
      match s.broker.proceed ticket call with
      | (some ending, broker) => { s with broker }.finish ticket call ending
      | (none, broker) => { s with broker }
  | .abandon ticket =>
    match s.waiting.find? (·.1 = ticket) with
    | none => s
    | some (_, call) =>
      { s with broker := s.broker.abandon call.queue ticket }.finish ticket call .abandoned
  | .close => { s with broker := s.broker.close }

/-- Everything that has happened, one after the other. -/
def run (s : Traffic) (actions : List Action) : Traffic :=
  actions.foldl step s

/-- The message that an ended call has put into a queue, with the number of the call. -/
def put? (name : String) : Ticket × Call × Ending → Option (Ticket × Message)
  | (ticket, .publish queue m, .published (.ok ())) =>
    if queue = name then some (ticket, m) else none
  | _ => none

/-- The message that an ended call has got out of a queue. -/
def got? (name : String) : Ticket × Call × Ending → Option Message
  | (_, .next queue, .found (some m)) => if queue = name then some m else none
  | _ => none

/-- The messages that were put into a queue, each with the number of the call that did so. -/
def putIn (s : Traffic) (name : String) : List (Ticket × Message) :=
  s.ended.filterMap (put? name)

/-- The messages that were handed out from a queue, in the order in which they were. -/
def handedOut (s : Traffic) (name : String) : List Message :=
  s.ended.filterMap (got? name)

end Traffic

/-- The state of a queue, which is empty before it is declared. -/
def Broker.queue (b : Broker) (name : String) : QueueState :=
  (b.queues.get? name).getD .empty

namespace Traffic

/-- The publish calls that have been given room and have not used it yet. -/
def granted (s : Traffic) (name : String) : List (Ticket × Message) :=
  (s.broker.queue name).granted

/-- The publish calls that wait for room. -/
def lined (s : Traffic) (name : String) : List (Ticket × Message) :=
  (s.broker.queue name).publishers

/-- The messages that were put into a queue, or are about to be, in the order in which the calls
were made. -/
def inCallOrder (s : Traffic) (name : String) : List Message :=
  ((s.putIn name ++ s.granted name).insertionSort (·.1 ≤ ·.1)).map Prod.snd

end Traffic

/-! ## What comes of a call -/

namespace Broker

/-- A call ends without anything. -/
inductive Denied : Call → Ending → Prop where
  | publish {name : String} {m : Message} (e : BrokerError) :
      Denied (.publish name m) (.published (.error e))
  | next {name : String} : Denied (.next name) (.found none)

/-- What becomes of a queue when a call is made. -/
inductive Enters (k : Nat) (ticket : Ticket) : Call → QueueState → Option Ending → QueueState → Prop
  where
  | accept {name : String} {m : Message} {q : QueueState} : q.pending < k →
      Enters k ticket (.publish name m) q (some (.published (.ok ())))
        { q with buffer := q.buffer ++ [m] }
  | lineUp {name : String} {m : Message} {q : QueueState} : k ≤ q.pending →
      Enters k ticket (.publish name m) q none
        { q with publishers := q.publishers ++ [(ticket, m)] }
  | take {name : String} {m : Message} {rest : List Message} {q : QueueState} :
      q.buffer = m :: rest →
      Enters k ticket (.next name) q (some (.found (some m))) ({ q with buffer := rest }.grant k)
  | stand {name : String} {q : QueueState} (consumers : List Ticket) :
      Enters k ticket (.next name) q none { q with consumers }

/-- What becomes of a queue when a call ends that has waited. -/
inductive Leaves (k : Nat) (ticket : Ticket) : Call → QueueState → Ending → QueueState → Prop where
  | resume {name : String} {m m' : Message} {q : QueueState} : (ticket, m') ∈ q.granted →
      Leaves k ticket (.publish name m) q (.published (.ok ()))
        { q with buffer := q.buffer ++ [m'], granted := q.granted.filter (·.1 ≠ ticket) }
  | take {name : String} {m : Message} {rest : List Message} {q : QueueState}
      (consumers : List Ticket) : q.buffer = m :: rest →
      Leaves k ticket (.next name) q (.found (some m))
        ({ q with buffer := rest, consumers }.grant k)
  | refused {call : Call} {q : QueueState} :
      Leaves k ticket call q call.refusal (q.abandon k ticket)
  | abandoned {call : Call} {q : QueueState} :
      Leaves k ticket call q .abandoned (q.abandon k ticket)

variable {b : Broker} {ticket : Ticket} {call : Call} {name : String} {q : QueueState}

theorem queue_eq (h : b.queues.get? name = some q) : b.queue name = q := by
  rw [queue, h]
  rfl

theorem get?_queue (h : b.queues.contains name = true) :
    b.queues.get? name = some (b.queue name) := by
  obtain ⟨q, hq⟩ := Option.isSome_iff_exists.mp h
  rw [hq, queue_eq hq]

theorem queue_setQueue (b : Broker) (name other : String) (q : QueueState) :
    (b.setQueue name q).queue other = if name = other then q else b.queue other := by
  rw [queue, setQueue, Table.get?_insert]
  split
  · rfl
  · rfl

theorem contains_setQueue {other : String} (h : b.queues.contains other = true) :
    (b.setQueue name q).queues.contains other = true := by
  rw [Table.contains, setQueue, Table.get?_insert]
  split
  · rfl
  · exact h

theorem Denied.refusal (call : Call) : Denied call call.refusal := by
  cases call with
  | publish => exact .publish _
  | next => exact .next

/-- A closed broker refuses every call. -/
theorem enter_of_closed (hclosed : b.closed = true) :
    b.enter ticket call = (some call.refusal, b) := by
  cases call with
  | publish => simp only [enter, publish, hclosed, if_true]; rfl
  | next => simp only [enter, next, hclosed, if_true]; rfl

/-- A call that is made is denied, as everything is once the broker is closed, or it does something
to its queue. -/
theorem enter_cases (b : Broker) (ticket : Ticket) (call : Call) :
    (∃ ending, b.enter ticket call = (some ending, b) ∧ Denied call ending) ∨
    b.closed = false ∧ b.queues.contains call.queue = true ∧ ∃ ending q,
      b.enter ticket call = (ending, b.setQueue call.queue q) ∧
        Enters b.capacity ticket call (b.queue call.queue) ending q := by
  cases hclosed : b.closed with
  | true => exact .inl ⟨call.refusal, enter_of_closed hclosed, .refusal call⟩
  | false =>
      cases hq : b.queues.get? call.queue with
      | none =>
          refine .inl ?_
          cases call with
          | publish name m =>
              refine ⟨_, ?_, .publish (.unknownQueue name)⟩
              simp only [Call.queue] at hq
              simp [enter, publish, hclosed, hq, ending?]
          | next name =>
              refine ⟨_, ?_, .next⟩
              simp only [Call.queue] at hq
              simp [enter, next, hclosed, hq, ending?]
      | some q =>
          refine .inr ⟨rfl, by rw [Table.contains, hq]; rfl, ?_⟩
          rw [queue_eq hq]
          cases call with
          | publish name m =>
              simp only [Call.queue] at hq
              by_cases hroom : q.pending < b.capacity
              · refine ⟨_, _, ?_, .accept hroom⟩
                simp [enter, publish, hclosed, hq, hroom, ending?, Call.queue]
              · refine ⟨_, _, ?_, .lineUp (Nat.le_of_not_lt hroom)⟩
                simp [enter, publish, hclosed, hq, hroom, ending?, Call.queue]
          | next name =>
              simp only [Call.queue] at hq
              have hstand : b.next name ticket = (.waiting, b.setQueue name
                    { q with consumers := q.consumers ++ [ticket] }) ∨
                  ∃ m rest, q.buffer = m :: rest ∧ b.next name ticket = (.ready (some m),
                    b.setQueue name ({ q with buffer := rest }.grant b.capacity)) := by
                cases hconsumers : q.consumers with
                | nil =>
                    cases hbuffer : q.buffer with
                    | nil =>
                        exact .inl (by
                          simp [next, hclosed, hq, hconsumers, QueueState.take, hbuffer])
                    | cons m rest =>
                        exact .inr ⟨m, rest, rfl,
                          by simp [next, hclosed, hq, hconsumers, QueueState.take, hbuffer]⟩
                | cons => exact .inl (by simp [next, hclosed, hq, hconsumers])
              rcases hstand with hstand | ⟨m, rest, hbuffer, htake⟩
              · exact ⟨_, _, by rw [enter, hstand]; rfl, .stand _⟩
              · exact ⟨_, _, by rw [enter, htake]; rfl, .take hbuffer⟩

/-- A closed broker refuses every call that waits. -/
theorem proceed_of_closed (hclosed : b.closed = true)
    (hqueue : b.queues.contains call.queue = true) :
    b.proceed ticket call = (some call.refusal,
      b.setQueue call.queue ((b.queue call.queue).abandon b.capacity ticket)) := by
  replace hqueue := get?_queue hqueue
  cases call with
  | publish =>
      simp only [Call.queue] at hqueue
      simp only [proceed, pollPublish, hqueue, hclosed, if_true]
      rfl
  | next =>
      simp only [Call.queue] at hqueue
      simp only [proceed, pollNext, hqueue, hclosed, if_true]
      rfl

/-- A call that waits goes on waiting, or it ends. -/
theorem proceed_cases (b : Broker) (ticket : Ticket)
    (hqueue : b.queues.contains call.queue = true) :
    b.proceed ticket call = (none, b) ∨ ∃ ending q,
      b.proceed ticket call = (some ending, b.setQueue call.queue q) ∧
        Leaves b.capacity ticket call (b.queue call.queue) ending q := by
  cases hclosed : b.closed with
  | true => exact .inr ⟨_, _, proceed_of_closed hclosed hqueue, .refused⟩
  | false =>
      replace hqueue := get?_queue hqueue
      generalize b.queue call.queue = q at hqueue ⊢
      cases call with
      | publish name m =>
          simp only [Call.queue] at hqueue
          cases hfind : q.granted.find? (·.1 = ticket) with
          | none => exact .inl (by simp [proceed, pollPublish, hqueue, hclosed, hfind, ending?])
          | some entry =>
              have hticket : entry.1 = ticket := by simpa using List.find?_some hfind
              have hgranted : (ticket, entry.2) ∈ q.granted :=
                hticket ▸ List.mem_of_find?_eq_some hfind
              refine .inr ⟨_, _, ?_, .resume hgranted⟩
              simp [proceed, pollPublish, hqueue, hclosed, hfind, ending?, Call.queue]
      | next name =>
          simp only [Call.queue] at hqueue
          by_cases hfirst : q.consumers.head? = some ticket
          · cases hbuffer : q.buffer with
            | nil =>
                exact .inl (by
                  simp [proceed, pollNext, hqueue, hclosed, hfirst, QueueState.take, hbuffer,
                    ending?])
            | cons m rest =>
                refine .inr ⟨_, _, ?_, .take q.consumers.tail hbuffer⟩
                simp [proceed, pollNext, hqueue, hclosed, hfirst, QueueState.take, hbuffer, ending?,
                  Call.queue]
          · exact .inl (by simp [proceed, pollNext, hqueue, hclosed, hfirst, ending?])

theorem abandon_eq (hqueue : b.queues.contains name = true) :
    b.abandon name ticket = b.setQueue name ((b.queue name).abandon b.capacity ticket) := by
  rw [abandon, get?_queue hqueue]

/-- Declaring opens a queue that is not there yet, and does nothing else. -/
theorem declare_cases (b : Broker) (name : String) :
    b.declare name = .error .closed ∨ b.declare name = .ok b ∨
      b.declare name = .ok (b.setQueue name .empty) ∧ b.queues.contains name = false := by
  rw [declare]
  split
  · exact .inl rfl
  · split
    · exact .inr (.inl rfl)
    · next hnew => exact .inr (.inr ⟨rfl, (Bool.not_eq_true _).mp hnew⟩)

theorem queue_of_contains_eq_false (h : b.queues.contains name = false) :
    b.queue name = .empty := by
  rw [queue, Option.isNone_iff_eq_none.mp (Option.isSome_eq_false_iff.mp h)]
  rfl

end Broker

namespace Traffic

/-- What a step does. -/
inductive Moves (s : Traffic) : Traffic → Prop where
  | idle : Moves s s
  | opened {name : String} : s.broker.queues.contains name = false →
      Moves s { s with broker := s.broker.setQueue name .empty }
  | denied {call : Call} {ending : Ending} : Broker.Denied call ending →
      (s.broker.closed = true → ending = call.refusal) →
      Moves s ⟨s.broker, s.started + 1, s.waiting, s.ended ++ [(s.started, call, ending)]⟩
  | served {call : Call} {ending : Ending} {q : QueueState} : s.broker.closed = false →
      Broker.Enters s.broker.capacity s.started call (s.broker.queue call.queue) (some ending) q →
      Moves s ⟨s.broker.setQueue call.queue q, s.started + 1, s.waiting,
        s.ended ++ [(s.started, call, ending)]⟩
  | waits {call : Call} {q : QueueState} : s.broker.closed = false →
      s.broker.queues.contains call.queue = true →
      Broker.Enters s.broker.capacity s.started call (s.broker.queue call.queue) none q →
      Moves s ⟨s.broker.setQueue call.queue q, s.started + 1, s.waiting ++ [(s.started, call)],
        s.ended⟩
  | left {ticket : Ticket} {call : Call} {ending : Ending} {q : QueueState} :
      (ticket, call) ∈ s.waiting →
      Broker.Leaves s.broker.capacity ticket call (s.broker.queue call.queue) ending q →
      (s.broker.closed = true → ending = call.refusal ∨ ending = .abandoned) →
      Moves s ({ s with broker := s.broker.setQueue call.queue q }.finish ticket call ending)
  | closed : Moves s { s with broker := s.broker.close }

variable {s : Traffic} {ticket : Ticket}

theorem mem_of_find? {entry : Ticket × Call}
    (hfind : s.waiting.find? (·.1 = ticket) = some entry) : (ticket, entry.2) ∈ s.waiting := by
  have hticket : entry.1 = ticket := by simpa using List.find?_some hfind
  exact hticket ▸ List.mem_of_find?_eq_some hfind

theorem moves_declare (s : Traffic) (name : String) : s.Moves (s.step (.declare name)) := by
  rcases s.broker.declare_cases name with hrefused | hsame | ⟨hopened, hnew⟩
  · simp only [step, hrefused]
    exact .idle
  · simp only [step, hsame]
    exact .idle
  · simp only [step, hopened]
    exact .opened hnew

theorem moves_call (s : Traffic) (call : Call) : s.Moves (s.step (.call call)) := by
  rcases s.broker.enter_cases s.started call with
    ⟨ending, henter, hdenied⟩ | ⟨hopen, hqueue, _ | ending, q, henter, henters⟩
  · simp only [step, henter]
    refine .denied hdenied fun hclosed => ?_
    rw [Broker.enter_of_closed hclosed] at henter
    exact (Option.some.inj (congrArg Prod.fst henter)).symm
  · simp only [step, henter]
    exact .waits hopen hqueue henters
  · simp only [step, henter]
    exact .served hopen henters

theorem moves_poll (hdeclared : ∀ entry ∈ s.waiting, s.broker.queues.contains entry.2.queue = true)
    (ticket : Ticket) : s.Moves (s.step (.poll ticket)) := by
  cases hfind : s.waiting.find? (·.1 = ticket) with
  | none =>
      simp only [step, hfind]
      exact .idle
  | some entry =>
      have hcall := mem_of_find? hfind
      have hqueue := hdeclared _ hcall
      simp only [step, hfind]
      rcases s.broker.proceed_cases ticket hqueue with hwaits | ⟨ending, q, hends, hleaves⟩
      · simp only [hwaits]
        exact .idle
      · simp only [hends]
        refine .left hcall hleaves fun hclosed => .inl ?_
        rw [Broker.proceed_of_closed hclosed hqueue] at hends
        exact (Option.some.inj (congrArg Prod.fst hends)).symm

theorem moves_abandon
    (hdeclared : ∀ entry ∈ s.waiting, s.broker.queues.contains entry.2.queue = true)
    (ticket : Ticket) : s.Moves (s.step (.abandon ticket)) := by
  cases hfind : s.waiting.find? (·.1 = ticket) with
  | none =>
      simp only [step, hfind]
      exact .idle
  | some entry =>
      have hcall := mem_of_find? hfind
      simp only [step, hfind, Broker.abandon_eq (hdeclared _ hcall)]
      exact .left hcall .abandoned fun _ => .inr rfl

theorem moves_step (hdeclared : ∀ entry ∈ s.waiting, s.broker.queues.contains entry.2.queue = true)
    (action : Action) : s.Moves (s.step action) := by
  cases action with
  | declare name => exact s.moves_declare name
  | call call => exact s.moves_call call
  | poll ticket => exact moves_poll hdeclared ticket
  | abandon ticket => exact moves_abandon hdeclared ticket
  | close => exact .closed

end Traffic

end QueryGateway
