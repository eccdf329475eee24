import Mathlib.Order.Basic
import QueryGateway.Queue.Broker

/-! # The line at a queue

Publishers stand in line in the order in which they came. Those at the front have been given room,
which they use when they are woken; the others wait for room, and there is none while they do. A
message is put in at the end of the buffer and handed out at its front.
-/

namespace QueryGateway

/-- A queue of `k` places, into which `put` was put and from which `out` was handed out. -/
structure QueueState.Orderly (k : Nat) (put : List (Ticket × Message)) (out : List Message)
    (q : QueueState) : Prop where
  flow : out ++ q.buffer = put.map Prod.snd
  room : q.pending ≤ k
  /-- Nobody waits for room that is there. -/
  full : q.publishers ≠ [] → k ≤ q.pending
  order : (q.granted ++ q.publishers).Pairwise (·.1 < ·.1)
  /-- Nobody who waits for room was overtaken. -/
  ahead : ∀ entry ∈ put, ∀ waiter ∈ q.publishers, entry.1 < waiter.1

namespace QueueState

variable {k : Nat} {q : QueueState}

theorem granted_append_grant : (q.grant k).granted ++ (q.grant k).publishers =
    q.granted ++ q.publishers := by
  simp [grant]

theorem mem_line_abandon {t : Ticket} {entry : Ticket × Message} :
    entry ∈ (q.abandon k t).granted ++ (q.abandon k t).publishers ↔
      entry ∈ q.granted ++ q.publishers ∧ entry.1 ≠ t := by
  rw [abandon, granted_append_grant]
  simp only [List.mem_append, List.mem_filter, decide_eq_true_eq, or_and_right]

theorem pending_grant_le (h : q.pending ≤ k) : (q.grant k).pending ≤ k := by
  have hlength := List.length_take_le (k - q.pending) q.publishers
  simp only [pending, grant, List.length_append] at h hlength ⊢
  omega

theorem le_pending_grant (h : (q.grant k).publishers ≠ []) : k ≤ (q.grant k).pending := by
  have hlength : k - q.pending < q.publishers.length := by
    by_contra hle
    exact h (List.drop_eq_nil_of_le (Nat.le_of_not_lt hle))
  simp only [pending, grant, List.length_append, List.length_take] at hlength ⊢
  omega

theorem mem_publishers_of_grant {waiter : Ticket × Message}
    (h : waiter ∈ (q.grant k).publishers) : waiter ∈ q.publishers :=
  List.mem_of_mem_drop h

end QueueState

namespace QueueState.Orderly

variable {k : Nat} {put : List (Ticket × Message)} {out rest : List Message} {q : QueueState}
  {t t' : Ticket} {m : Message}

theorem empty (k : Nat) : Orderly k [] [] .empty where
  flow := rfl
  room := Nat.zero_le k
  full h := absurd rfl h
  order := .nil
  ahead := nofun

/-- Room that is there is given away. -/
theorem grant (hflow : out ++ q.buffer = put.map Prod.snd) (hroom : q.pending ≤ k)
    (horder : (q.granted ++ q.publishers).Pairwise (·.1 < ·.1))
    (hahead : ∀ entry ∈ put, ∀ waiter ∈ q.publishers, entry.1 < waiter.1) :
    Orderly k put out (q.grant k) where
  flow := hflow
  room := QueueState.pending_grant_le hroom
  full := QueueState.le_pending_grant
  order := by rwa [QueueState.granted_append_grant]
  ahead entry hentry waiter hwaiter :=
    hahead entry hentry waiter (QueueState.mem_publishers_of_grant hwaiter)

/-- Whoever finds room puts in a message; then nobody waits for room. -/
theorem accept (h : Orderly k put out q) (hroom : q.pending < k) :
    Orderly k (put ++ [(t, m)]) out { q with buffer := q.buffer ++ [m] } := by
  have hnobody : q.publishers = [] := by
    by_contra hne
    exact absurd (h.full hne) (Nat.not_le_of_lt hroom)
  refine ⟨?_, ?_, fun hne => absurd hnobody hne, h.order, ?_⟩
  · simp [← h.flow]
  · simp only [QueueState.pending, List.length_append, List.length_singleton] at hroom ⊢
    omega
  · intro entry _ waiter hwaiter
    rw [hnobody] at hwaiter
    cases hwaiter

/-- Whoever finds no room stands in line. -/
theorem lineUp (h : Orderly k put out q) (hfull : k ≤ q.pending)
    (hwaiting : ∀ waiter ∈ q.granted ++ q.publishers, waiter.1 < t)
    (hput : ∀ entry ∈ put, entry.1 < t) :
    Orderly k put out { q with publishers := q.publishers ++ [(t, m)] } := by
  refine ⟨h.flow, h.room, fun _ => hfull, ?_, ?_⟩
  · rw [← List.append_assoc]
    refine List.pairwise_append.mpr ⟨h.order, List.pairwise_singleton .., ?_⟩
    intro waiter hwaiter last hlast
    obtain rfl := List.mem_singleton.mp hlast
    exact hwaiting waiter hwaiter
  · intro entry hentry waiter hwaiter
    rcases List.mem_append.mp hwaiter with hearlier | hlast
    · exact h.ahead entry hentry waiter hearlier
    · obtain rfl := List.mem_singleton.mp hlast
      exact hput entry hentry

theorem length_filter_ticket {entries : List (Ticket × Message)}
    (horder : entries.Pairwise (·.1 < ·.1)) (hmem : (t, m) ∈ entries) :
    (entries.filter (·.1 ≠ t)).length + 1 = entries.length := by
  induction entries with
  | nil => cases hmem
  | cons entry entries ih =>
      obtain ⟨hfirst, hrest⟩ := List.pairwise_cons.mp horder
      rcases List.mem_cons.mp hmem with rfl | hmem
      · have hall : entries.filter (·.1 ≠ t) = entries := by
          apply List.filter_eq_self.mpr
          intro other hother
          exact decide_eq_true (Nat.ne_of_gt (hfirst other hother))
        rw [List.filter_cons_of_neg (by simp), hall, List.length_cons]
      · have hne : entry.1 ≠ t := Nat.ne_of_lt (hfirst _ hmem)
        rw [List.filter_cons_of_pos (by simpa using hne), List.length_cons, List.length_cons,
          ih hrest hmem]

/-- Whoever was given room puts in a message. -/
theorem resume (h : Orderly k put out q) (hgranted : (t, m) ∈ q.granted) :
    Orderly k (put ++ [(t, m)]) out
      { q with buffer := q.buffer ++ [m], granted := q.granted.filter (·.1 ≠ t) } := by
  obtain ⟨hgrants, -, hbefore⟩ := List.pairwise_append.mp h.order
  have hlength := length_filter_ticket hgrants hgranted
  have hpending : (q.buffer ++ [m]).length + (q.granted.filter (·.1 ≠ t)).length = q.pending := by
    rw [QueueState.pending, List.length_append, List.length_singleton]
    omega
  refine ⟨?_, ?_, ?_, ?_, ?_⟩
  · simp [← h.flow]
  · exact hpending.trans_le h.room
  · exact fun hne => (h.full hne).trans_eq hpending.symm
  · exact h.order.sublist ((List.filter_sublist).append_right _)
  · intro entry hentry waiter hwaiter
    rcases List.mem_append.mp hentry with hearlier | hlast
    · exact h.ahead entry hearlier waiter hwaiter
    · obtain rfl := List.mem_singleton.mp hlast
      exact hbefore _ hgranted waiter hwaiter

/-- A message that is handed out leaves room for the next publisher. -/
theorem take (h : Orderly k put out q) (hbuffer : q.buffer = m :: rest) (consumers : List Ticket) :
    Orderly k put (out ++ [m]) ({ q with buffer := rest, consumers }.grant k) := by
  refine grant ?_ ?_ h.order h.ahead
  · rw [← h.flow, hbuffer, List.append_assoc]
    rfl
  · have hroom := h.room
    simp only [QueueState.pending, hbuffer, List.length_cons] at hroom ⊢
    omega

/-- Whoever gives up leaves its place to the next publisher. -/
theorem abandon (h : Orderly k put out q) (t : Ticket) : Orderly k put out (q.abandon k t) := by
  refine grant h.flow ?_ ?_ ?_
  · have hlength := List.length_filter_le (fun entry => decide (entry.1 ≠ t)) q.granted
    have hroom := h.room
    simp only [QueueState.pending] at hroom ⊢
    omega
  · exact h.order.sublist (List.filter_sublist.append List.filter_sublist)
  · intro entry hentry waiter hwaiter
    exact h.ahead entry hentry waiter (List.mem_filter.mp hwaiter).1

theorem withConsumers (h : Orderly k put out q) (consumers : List Ticket) :
    Orderly k put out { q with consumers } :=
  ⟨h.flow, h.room, h.full, h.order, h.ahead⟩

end QueueState.Orderly

end QueryGateway
