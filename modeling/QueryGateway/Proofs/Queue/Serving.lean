import QueryGateway.Queue.Broker

/-! # Queues in which nobody waits

A publisher that finds room and a consumer that finds a message are served at once. As long as the
others come back later, an open queue holds its messages and nothing else.
-/

namespace QueryGateway

/-- A queue with some messages for which nobody waits. -/
def QueueState.holding (ms : List Message) : QueueState := ⟨ms, [], [], []⟩

namespace Broker

/-- An open queue holds some messages, and nobody waits at it. -/
structure Holds (b : Broker) (name : String) (ms : List Message) : Prop where
  isOpen : b.closed = false
  state : b.queues.get? name = some (.holding ms)

variable {b b' : Broker} {name other : String} {ticket : Ticket} {m : Message}
  {ms ms' : List Message}

theorem holds_setQueue (h : b.closed = false) : (b.setQueue name (.holding ms)).Holds name ms :=
  ⟨h, by simp [setQueue]⟩

theorem Holds.setQueue_of_ne (h : b.Holds other ms') (hne : name ≠ other) (q : QueueState) :
    (b.setQueue name q).Holds other ms' :=
  ⟨h.isOpen, by simp [setQueue, hne, h.state]⟩

theorem Holds.messages_eq (h : b.Holds name ms) : b.messages name = ms := by
  rw [messages, h.state]
  rfl

theorem publish_of_lt (h : b.Holds name ms) (hroom : ms.length < b.capacity) :
    b.publish name ticket m = (.ready (.ok ()), b.setQueue name (.holding (ms ++ [m]))) := by
  have hpending : (QueueState.holding ms).pending < b.capacity := hroom
  simp only [publish, h.isOpen, Bool.false_eq_true, if_false, h.state, hpending, if_true]
  rfl

theorem publish_of_not_lt (h : b.Holds name ms) (hfull : ¬ms.length < b.capacity) :
    (b.publish name ticket m).1 = .waiting := by
  have hpending : ¬(QueueState.holding ms).pending < b.capacity := hfull
  simp only [publish, h.isOpen, Bool.false_eq_true, if_false, h.state, hpending]

/-- A publish that is over has put its message at the end. -/
theorem publish_eq_ready (h : b.Holds name ms) {answer : Except BrokerError Unit}
    (hpublish : b.publish name ticket m = (.ready answer, b')) :
    answer = .ok () ∧ b' = b.setQueue name (.holding (ms ++ [m])) := by
  by_cases hroom : ms.length < b.capacity
  · rw [publish_of_lt h hroom] at hpublish
    cases hpublish
    exact ⟨rfl, rfl⟩
  · have hwaiting : (b.publish name ticket m).1 = .waiting := publish_of_not_lt h hroom
    rw [hpublish] at hwaiting
    cases hwaiting

theorem next_cons (h : b.Holds name (m :: ms)) :
    b.next name ticket = (.ready (some m), b.setQueue name (.holding ms)) := by
  have htake : (QueueState.holding (m :: ms)).take b.capacity = some (m, .holding ms) := by
    simp [QueueState.take, QueueState.grant, QueueState.holding]
  simp only [next, h.isOpen, Bool.false_eq_true, if_false, h.state, htake]
  rfl

theorem next_nil (h : b.Holds name []) : (b.next name ticket).1 = .waiting := by
  simp only [next, h.isOpen, Bool.false_eq_true, if_false, h.state]
  rfl

/-- A consumer that was served has taken the first message out. -/
theorem next_eq_ready (h : b.Holds name ms) {found : Option Message}
    (hnext : b.next name ticket = (.ready found, b')) :
    ∃ m rest, ms = m :: rest ∧ found = some m ∧ b' = b.setQueue name (.holding rest) := by
  cases ms with
  | nil =>
      have hwaiting : (b.next name ticket).1 = .waiting := next_nil h
      rw [hnext] at hwaiting
      cases hwaiting
  | cons m rest =>
      rw [next_cons h] at hnext
      cases hnext
      exact ⟨m, rest, rfl, rfl, rfl⟩

/-- A new broker with two queues. -/
def withQueues (capacity : Nat) (first second : String) : Broker :=
  ((new capacity).setQueue first .empty).setQueue second .empty

theorem holds_withQueues {capacity : Nat} {first second : String} (hne : first ≠ second) :
    (withQueues capacity first second).Holds first [] ∧
      (withQueues capacity first second).Holds second [] := by
  have hfirst : ((new capacity).setQueue first .empty).Holds first [] := holds_setQueue rfl
  exact ⟨hfirst.setQueue_of_ne (Ne.symm hne) _, holds_setQueue rfl⟩

theorem capacity_withQueues (capacity : Nat) (first second : String) :
    1 ≤ (withQueues capacity first second).capacity :=
  Nat.le_max_right capacity 1

end Broker

end QueryGateway
