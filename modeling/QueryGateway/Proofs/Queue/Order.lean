import Mathlib.Data.List.Infix
import QueryGateway.Proofs.Queue.Sound

/-! # The order of messages

A queue hands out its messages in the order in which they were put in, each once, and keeps the
rest. A publish call that waits for room is not overtaken. One that was given room and has not used
it may be, by a call that finds more room.
-/

namespace QueryGateway.Traffic

open Broker (Call Ending)

variable {k : Nat} {s s' : Traffic} {name : String}

/-- What becomes of the messages of a queue. -/
structure Fair (capacity : Nat) (s : Traffic) (name : String) : Prop where
  /-- What was handed out was put in before, in the same order, and the rest is still there. -/
  flow : s.handedOut name ++ (s.broker.queue name).buffer = (s.putIn name).map Prod.snd
  once : ((s.putIn name).map Prod.fst).Nodup
  bounded : (s.putIn name).length + (s.granted name).length ≤
    (s.handedOut name).length + max capacity 1
  waiting : ∀ t m, (t, .publish name m) ∈ s.waiting ↔ (t, m) ∈ s.granted name ++ s.lined name
  line : ((s.granted name ++ s.lined name).map Prod.fst).Pairwise (· < ·)
  /-- Whoever was given room called before everybody who still waits for it. -/
  ahead : ∀ entry ∈ s.putIn name ++ s.granted name, ∀ waiter ∈ s.lined name, entry.1 < waiter.1
  /-- A publish call that was abandoned or failed has left nothing behind. -/
  gone : ∀ t m ending, (t, .publish name m, ending) ∈ s.ended → ending ≠ .published (.ok ()) →
    t ∉ (s.putIn name ++ s.granted name ++ s.lined name).map Prod.fst

/-- Nobody who was given room in the queue has been overtaken. -/
def InTurn (s : Traffic) (name : String) : Prop :=
  ∀ entry ∈ s.putIn name, ∀ other ∈ s.granted name, entry.1 < other.1

/-- The broker refuses everything. -/
structure Shut (s : Traffic) : Prop where
  declare : ∀ name, s.broker.declare name = .error .closed
  consume : ∀ name, s.broker.consume name = .error .closed
  call : ∀ ticket call, s.broker.enter ticket call = (some call.refusal, s.broker)
  waiting : ∀ entry ∈ s.waiting, (s.broker.proceed entry.1 entry.2).1 = some entry.2.refusal

/-! ## At any time -/

theorem Sound.not_waiting_of_ended (h : Sound k s) {done : Ticket × Call × Ending}
    (hdone : done ∈ s.ended) (call : Call) : (done.1, call) ∉ s.waiting := fun hcall =>
  (List.nodup_append.mp h.nodup).2.2 done.1 (List.mem_map_of_mem hdone) done.1
    (List.mem_map_of_mem (f := (·.1)) hcall) rfl

theorem Sound.fair {capacity : Nat} (h : Sound (max capacity 1) s) (name : String) :
    s.Fair capacity name := by
  have horderly := h.orderly name
  refine ⟨horderly.flow, h.nodup_ended.sublist (s.putIn_sublist name), ?_,
    fun t m => (h.standing name t m).symm, ?_, ?_, ?_⟩
  · have hroom := horderly.room
    have hflow := congrArg List.length horderly.flow
    rw [QueueState.pending] at hroom
    rw [List.length_append, List.length_map] at hflow
    rw [granted]
    omega
  · exact List.pairwise_map.mpr horderly.order
  · intro entry hentry waiter hwaiter
    rcases List.mem_append.mp hentry with hput | hgranted
    · exact horderly.ahead entry hput waiter hwaiter
    · exact (List.pairwise_append.mp horderly.order).2.2 entry hgranted waiter hwaiter
  · intro t m ending hended hending hmem
    rw [List.append_assoc, List.map_append, List.mem_append] at hmem
    rcases hmem with hput | hline
    · obtain ⟨entry, hentry, rfl⟩ := List.mem_map.mp hput
      obtain ⟨done, hdone, hsome⟩ := List.mem_filterMap.mp hentry
      rw [put?_eq_some hsome] at hdone
      have hsame := List.inj_on_of_nodup_map h.nodup_ended hended hdone rfl
      exact hending (congrArg (·.2.2) hsame)
    · obtain ⟨entry, hentry, rfl⟩ := List.mem_map.mp hline
      exact h.not_waiting_of_ended hended _ ((h.standing name entry.1 entry.2).mp hentry)

theorem Sound.shut (h : Sound k s) (hclosed : s.broker.closed = true) : s.Shut where
  declare name := by rw [Broker.declare, if_pos hclosed]
  consume name := by rw [Broker.consume, if_pos hclosed]
  call ticket call := Broker.enter_of_closed hclosed
  waiting entry hentry := by rw [Broker.proceed_of_closed hclosed (h.declared entry hentry)]

theorem step_declare_of_contains (hqueue : s.broker.queues.contains name = true) :
    s.step (.declare name) = s := by
  rcases s.broker.declare_cases name with hrefused | hsame | ⟨-, hnew⟩
  · rw [step, hrefused]
  · rw [step, hsame]
  · cases hqueue.symm.trans hnew

/-! ## What ends -/

/-- How a step lets a call end. -/
structure Ends (s : Traffic) (done : Ticket × Call × Ending) : Prop where
  refused : s.broker.closed = true → done.2.2 = done.2.1.refusal ∨ done.2.2 = .abandoned
  /-- A message that is put in comes from a new call, or from one that was given room. -/
  puts : ∀ name entry, put? name done = some entry →
    entry.1 = s.started ∨ entry ∈ s.granted name

theorem Sound.granted_of_leaves (h : Sound k s) {ticket : Ticket} {call : Call} {ending : Ending}
    {q : QueueState} (hcall : (ticket, call) ∈ s.waiting)
    (hleaves : Broker.Leaves k ticket call (s.broker.queue call.queue) ending q)
    {entry : Ticket × Message} (hput : put? name (ticket, call, ending) = some entry) :
    entry ∈ s.granted name := by
  cases put?_eq_some hput
  generalize hbefore : s.broker.queue (Call.queue (.publish name entry.2)) = before at hleaves
  cases hleaves with
  | @resume _ _ m' _ hgranted =>
      subst hbefore
      cases h.eq_publish hcall (List.mem_append_left _ hgranted)
      exact hgranted

theorem ends_of_started {call : Call} {ending : Ending}
    (hrefused : s.broker.closed = true → ending = call.refusal) :
    s.Ends (s.started, call, ending) :=
  ⟨fun hclosed => .inl (hrefused hclosed),
    fun _ _ hput => .inl (congrArg Prod.fst (put?_eq_some hput)).symm⟩

theorem Sound.ended_of_moves (h : Sound k s) (hmoves : s.Moves s') :
    s'.ended = s.ended ∨ ∃ done, s'.ended = s.ended ++ [done] ∧ s.Ends done := by
  cases hmoves with
  | idle => exact .inl rfl
  | opened => exact .inl rfl
  | denied _ hrefused => exact .inr ⟨_, rfl, ends_of_started hrefused⟩
  | served hopen _ =>
      exact .inr ⟨_, rfl, ends_of_started fun hclosed => nomatch hopen.symm.trans hclosed⟩
  | waits => exact .inl rfl
  | left hcall hleaves hrefused =>
      refine .inr ⟨_, rfl, hrefused, fun name entry hput => .inr ?_⟩
      exact h.granted_of_leaves hcall (h.capacity ▸ hleaves) hput
  | closed => exact .inl rfl

/-! ## Once the broker is closed -/

theorem closed_of_moves (hmoves : s.Moves s') (hclosed : s.broker.closed = true) :
    s'.broker.closed = true := by
  cases hmoves with
  | idle => exact hclosed
  | opened => exact hclosed
  | denied => exact hclosed
  | served => exact hclosed
  | waits => exact hclosed
  | left => exact hclosed
  | closed => rfl

theorem Sound.closed_run (h : Sound k s) (hclosed : s.broker.closed = true)
    (actions : List Action) : (s.run actions).broker.closed = true := by
  induction actions generalizing s with
  | nil => exact hclosed
  | cons action actions ih => exact ih (h.step action) (closed_of_moves (h.moves action) hclosed)

theorem Sound.closed_of_close_mem (h : Sound k s) {actions : List Action}
    (hclose : .close ∈ actions) : (s.run actions).broker.closed = true := by
  induction actions generalizing s with
  | nil => cases hclose
  | cons action actions ih =>
      cases hclose with
      | head => exact (h.step .close).closed_run rfl actions
      | tail _ hclose => exact ih (h.step action) hclose

/-- Calls that have ended are not forgotten. After the broker was closed all others are refused or
given up. -/
theorem Sound.ended_run (h : Sound k s) (actions : List Action) :
    ∃ later, (s.run actions).ended = s.ended ++ later ∧ (s.broker.closed = true →
      ∀ done ∈ later, done.2.2 = done.2.1.refusal ∨ done.2.2 = .abandoned) := by
  induction actions generalizing s with
  | nil => exact ⟨[], (List.append_nil _).symm, nofun⟩
  | cons action actions ih =>
      obtain ⟨later, hlater, hrefused⟩ := ih (h.step action)
      change ((s.step action).run actions).ended = _ at hlater
      change ∃ later, ((s.step action).run actions).ended = _ ∧ _
      rcases h.ended_of_moves (h.moves action) with hsame | ⟨done, hended, hends⟩
      · exact ⟨later, by rw [hlater, hsame],
          fun hclosed => hrefused (closed_of_moves (h.moves action) hclosed)⟩
      · refine ⟨done :: later, by rw [hlater, hended, List.append_assoc]; rfl, ?_⟩
        intro hclosed
        exact List.forall_mem_cons.mpr
          ⟨hends.refused hclosed, hrefused (closed_of_moves (h.moves action) hclosed)⟩

/-! ## The order of the calls -/

theorem Sound.putIn_step (h : Sound k s) (action : Action) (name : String) :
    (s.step action).putIn name = s.putIn name ∨
      ∃ entry, (s.step action).putIn name = s.putIn name ++ [entry] ∧
        (entry.1 = s.started ∨ entry ∈ s.granted name) := by
  rcases h.ended_of_moves (h.moves action) with hsame | ⟨done, hended, hends⟩
  · exact .inl (by rw [putIn, hsame, putIn])
  · rw [putIn_of_ended hended]
    cases hput : put? name done with
    | none => exact .inl (List.append_nil _)
    | some entry => exact .inr ⟨entry, rfl, hends.puts name entry hput⟩

theorem Sound.sorted_putIn_step (h : Sound k s) (hturn : s.InTurn name)
    (hsorted : ((s.putIn name).map Prod.fst).Pairwise (· < ·)) (action : Action) :
    (((s.step action).putIn name).map Prod.fst).Pairwise (· < ·) := by
  rcases h.putIn_step action name with hsame | ⟨entry, hput, hentry⟩
  · rwa [hsame]
  · rw [hput, List.map_append]
    refine List.pairwise_append.mpr ⟨hsorted, List.pairwise_singleton .., ?_⟩
    intro t ht last hlast
    obtain ⟨earlier, hearlier, rfl⟩ := List.mem_map.mp ht
    obtain rfl := List.mem_singleton.mp hlast
    rcases hentry with hnew | hgranted
    · exact hnew ▸ h.lt_of_putIn hearlier
    · exact hturn earlier hearlier entry hgranted

theorem Sound.sorted_putIn (h : Sound k s) (actions : List Action)
    (hsorted : ((s.putIn name).map Prod.fst).Pairwise (· < ·))
    (hturn : ∀ earlier, earlier <+: actions → (s.run earlier).InTurn name) :
    (((s.run actions).putIn name).map Prod.fst).Pairwise (· < ·) := by
  induction actions generalizing s with
  | nil => exact hsorted
  | cons action actions ih =>
      refine ih (h.step action) (h.sorted_putIn_step (hturn [] List.nil_prefix) hsorted action) ?_
      intro earlier hearlier
      exact hturn (action :: earlier) (List.cons_prefix_cons.mpr ⟨rfl, hearlier⟩)

theorem Sound.inCallOrder_eq (h : Sound k s) (hturn : s.InTurn name)
    (hsorted : ((s.putIn name).map Prod.fst).Pairwise (· < ·)) :
    s.inCallOrder name = (s.putIn name ++ s.granted name).map Prod.snd := by
  have hcalls : (s.putIn name ++ s.granted name).Pairwise (·.1 ≤ ·.1) := by
    refine List.Pairwise.imp Nat.le_of_lt (List.pairwise_append.mpr
      ⟨List.pairwise_map.mp hsorted, ?_, hturn⟩)
    exact (List.pairwise_append.mp (h.orderly name).order).1
  rw [inCallOrder, hcalls.insertionSort_eq]

/-! ## What callers can rely on -/

/-- Whatever was called, polled, given up, declared and closed: the messages of every queue are in
order, in the order of the calls as long as nobody was overtaken; to declare a queue again does
nothing, and after it was closed the broker refuses every call. -/
theorem traffic_in_order (capacity : Nat) (actions : List Action) :
    let s := (start capacity).run actions
    (∀ name, s.Fair capacity name) ∧
    (∀ name, (∀ earlier, earlier <+: actions → ((start capacity).run earlier).InTurn name) →
      s.handedOut name <+: s.inCallOrder name) ∧
    (∀ name, s.broker.queues.contains name = true → s.step (.declare name) = s) ∧
    (.close ∈ actions → s.Shut) ∧
    ∀ more, ∃ later, (s.run more).ended = s.ended ++ later ∧ (.close ∈ actions →
      ∀ done ∈ later, done.2.2 = done.2.1.refusal ∨ done.2.2 = .abandoned) := by
  have hstart := Sound.start capacity
  have hsound := hstart.run actions
  refine ⟨hsound.fair, ?_, fun name => step_declare_of_contains,
    fun hclose => hsound.shut (hstart.closed_of_close_mem hclose), ?_⟩
  · intro name hturn
    have hsorted := hstart.sorted_putIn actions .nil hturn
    rw [hsound.inCallOrder_eq (hturn actions List.prefix_rfl) hsorted, List.map_append,
      ← (hsound.orderly name).flow, List.append_assoc]
    exact List.prefix_append _ _
  · intro more
    obtain ⟨later, hlater, hrefused⟩ := hsound.ended_run more
    exact ⟨later, hlater, fun hclose => hrefused (hstart.closed_of_close_mem hclose)⟩

/-- A message that is nothing but a number. -/
def numbered (n : UInt8) : Message := ⟨.empty, [n]⟩

/-- Two messages fill the queue, and a third call waits; then both are taken out. -/
def crowd : List Action :=
  [.declare "q", .call (.publish "q" (numbered 1)), .call (.publish "q" (numbered 2)),
    .call (.publish "q" (numbered 3)), .call (.next "q"), .call (.next "q")]

/-- The call that waited goes on before anybody else calls. -/
def patience : List Action :=
  crowd ++ [.poll 2, .call (.publish "q" (numbered 4)), .call (.next "q"), .close]

theorem traffic_in_order_of_patience :
    (∀ earlier, earlier <+: patience → ((start 2).run earlier).InTurn "q") ∧
    ((start 2).run patience).handedOut "q" <+: ((start 2).run patience).inCallOrder "q" ∧
    .close ∈ patience ∧ ((start 2).run patience).Shut := by
  have hturn : ∀ earlier, earlier <+: patience → ((start 2).run earlier).InTurn "q" := by
    have hall : ∀ earlier ∈ patience.inits, ((start 2).run earlier).InTurn "q" := by
      unfold InTurn
      decide
    exact fun earlier hearlier => hall earlier ((List.mem_inits _ _).mpr hearlier)
  have hclose : .close ∈ patience := List.mem_append_right _ (by simp)
  obtain ⟨-, horder, -, hshut, -⟩ := traffic_in_order 2 patience
  exact ⟨hturn, horder "q" hturn, hclose, hshut hclose⟩

/-- The call that was given room goes on after a later one has found room. -/
def impatience : List Action :=
  crowd ++ [.call (.publish "q" (numbered 4)), .poll 2, .call (.next "q"), .call (.next "q")]

theorem call_order_broken_of_impatience :
    ((start 2).run impatience).handedOut "q" = [1, 2, 4, 3].map numbered ∧
    ((start 2).run impatience).inCallOrder "q" = [1, 2, 3, 4].map numbered ∧
    ¬ ((start 2).run impatience).handedOut "q" <+: ((start 2).run impatience).inCallOrder "q" := by
  have hout : ((start 2).run impatience).handedOut "q" = [1, 2, 4, 3].map numbered := rfl
  have hcalls : ((start 2).run impatience).inCallOrder "q" = [1, 2, 3, 4].map numbered := rfl
  refine ⟨hout, hcalls, ?_⟩
  rw [hout, hcalls]
  intro hprefix
  have hbodies : [[1], [2], [4], [3]] <+: ([[1], [2], [3], [4]] : List Bytes) :=
    hprefix.map Message.body
  revert hbodies
  decide

end QueryGateway.Traffic
