import QueryGateway.Delivery.Announce
import QueryGateway.Proofs.Delivery.LastFrame

/-! # Tasks that share the registry

Three kinds of tasks work on the registry: one for every result connection, one for every message of
the results queue, and one that closes all connections in the end. What a task may ask for, and in
which order, does not depend on the others. A task that takes a handle out of the registry closes
its connection, unless a delivery on this connection has just failed.
-/

namespace QueryGateway

/-! ## Handles that are taken out -/

/-- An exchange took a handle out of the registry. -/
inductive Delivery.Takes (handle : Handle) : Exchange Delivery → Prop where
  | displaced (client : ClientId) (newer : Handle) :
      Takes handle ⟨.insert client newer, some handle⟩
  | removed (client : ClientId) : Takes handle ⟨.removeIfCurrent client handle, true⟩
  | drained {handles : List Handle} : handle ∈ handles → Takes handle ⟨.drain, handles⟩

namespace Delivery

variable {handle : Handle} {log log' : List (Exchange Delivery)}

/-- A handle was taken out of the registry. -/
def TakenOut (handle : Handle) (log : List (Exchange Delivery)) : Prop :=
  ∃ e ∈ log, Takes handle e

/-- The connection of a handle was closed. -/
def Closed (handle : Handle) (log : List (Exchange Delivery)) : Prop :=
  ⟨.close handle, ()⟩ ∈ log

/-- A delivery on the connection of a handle has found it lost. -/
def Failed (handle : Handle) (log : List (Exchange Delivery)) : Prop :=
  ∃ frame timeout, ∃ e : WireError, e.losesConnection = true ∧
    ⟨.deliver handle frame timeout, .error e⟩ ∈ log

/-- Whatever was taken out is dealt with. -/
def Settled (log : List (Exchange Delivery)) : Prop :=
  ∀ handle, TakenOut handle log → Closed handle log ∨ Failed handle log

/-- Connections are closed one after the other. -/
def closing (handles : List Handle) : List (Exchange Delivery) :=
  handles.map fun handle => ⟨.close handle, ()⟩

theorem mem_closing {handles : List Handle} (h : handle ∈ handles) :
    ⟨.close handle, ()⟩ ∈ closing handles :=
  List.mem_map_of_mem h

theorem not_takes_of_mem_closing {handles : List Handle} {e : Exchange Delivery}
    (h : e ∈ closing handles) : ¬Takes handle e := by
  obtain ⟨other, -, rfl⟩ := List.mem_map.mp h
  exact nofun

end Delivery

/-! ## What the tasks ask for -/

/-- The courses of the task of a new connection. -/
inductive Accepts (handle : Handle) : List (Exchange Delivery) → Prop where
  | ended : Accepts handle []
  | unannounced : Accepts handle [⟨.close handle, ()⟩]
  | registered (client : ClientId) (old : Option Handle) :
      Accepts handle (⟨.insert client handle, old⟩ ::
        (Delivery.closing old.toList ++ [⟨.stopping, false⟩]))
  | turnedAway (client : ClientId) (old : Option Handle) (current : Bool) :
      Accepts handle ((⟨.insert client handle, old⟩ ::
        (Delivery.closing old.toList ++ [⟨.stopping, true⟩])) ++
          [⟨.removeIfCurrent client handle, current⟩, ⟨.close handle, ()⟩])

theorem Delivery.run_register {client : ClientId} {handle : Handle} {old : Option Handle}
    {log : List (Exchange Delivery)} (hrun : (register client handle).Run log old) :
    log = ⟨.insert client handle, old⟩ :: closing old.toList := by
  obtain ⟨answer, rest, rfl, hrest⟩ := Program.Run.perform_iff.mp hrun
  match answer with
  | none =>
      obtain ⟨rfl, rfl⟩ := Program.Run.done_iff.mp hrest
      rfl
  | some displaced =>
      obtain ⟨u, last, rfl, hlast⟩ := Program.Run.perform_iff.mp hrest
      obtain ⟨rfl, rfl⟩ := Program.Run.done_iff.mp hlast
      rfl

theorem accepts_of_run {handle : Handle} {read : Option (Except WireError String)}
    {log : List (Exchange Delivery)} {result : Option ClientId}
    (hrun : (Delivery.accept handle read).Run log result) : Accepts handle log := by
  have hclose : ∀ {log : List (Exchange Delivery)} {result : Option ClientId},
      (Delivery.close handle >>= fun _ => .done none).Run log result →
        log = [⟨.close handle, ()⟩] := by
    intro log result hrun
    obtain ⟨u, rest, rfl, hrest⟩ := Program.Run.perform_iff.mp hrun
    obtain ⟨rfl, -⟩ := Program.Run.done_iff.mp hrest
    rfl
  match read with
  | none =>
      rw [hclose hrun]
      exact .unannounced
  | some (.error e) =>
      obtain ⟨rfl, -⟩ := Program.Run.done_iff.mp hrun
      exact .ended
  | some (.ok payload) =>
      rw [Delivery.accept] at hrun
      cases hparse : Announcement.parse? payload with
      | none =>
          rw [hparse] at hrun
          rw [hclose hrun]
          exact .unannounced
      | some announcement =>
          rw [hparse] at hrun
          obtain ⟨old, first, rest, rfl, hregister, hrest⟩ := Program.Run.bind_iff.mp hrun
          rw [Delivery.run_register hregister, List.cons_append]
          obtain ⟨stop, second, last, rfl, hstopping, hlast⟩ := Program.Run.bind_iff.mp hrest
          obtain rfl : second = [⟨.stopping, stop⟩] := Program.Run.ask_iff.mp hstopping
          cases stop with
          | false =>
              obtain ⟨rfl, -⟩ := Program.Run.done_iff.mp hlast
              exact .registered announcement.client old
          | true =>
              obtain ⟨current, third, final, rfl, hremove, hfinal⟩ :=
                Program.Run.bind_iff.mp hlast
              obtain rfl : third = [⟨.removeIfCurrent announcement.client handle, current⟩] :=
                Program.Run.ask_iff.mp hremove
              rw [hclose hfinal]
              simpa using Accepts.turnedAway announcement.client old current

/-- The courses of the task of a message. -/
inductive Handles : List (Exchange Delivery) → Prop where
  | withheld : Handles []
  | absent (client : ClientId) : Handles [⟨.lookup client, none⟩]
  | kept (client : ClientId) (handle : Handle) (frame : ResultFrame) (timeout : Nat)
      (reply : Except WireError AckOutcome) :
      Handles [⟨.lookup client, some handle⟩, ⟨.deliver handle frame timeout, reply⟩]
  | lost (client : ClientId) (handle : Handle) (frame : ResultFrame) (timeout : Nat) {e : WireError}
      (current : Bool) : e.losesConnection = true →
      Handles [⟨.lookup client, some handle⟩, ⟨.deliver handle frame timeout, .error e⟩,
        ⟨.removeIfCurrent client handle, current⟩]
  | outOfStep (client : ClientId) (handle : Handle) (frame : ResultFrame) (timeout : Nat)
      (current : Bool) :
      Handles (⟨.lookup client, some handle⟩ ::
        ⟨.deliver handle frame timeout, .ok .desynchronised⟩ ::
        ⟨.removeIfCurrent client handle, current⟩ ::
        Delivery.closing (if current then [handle] else []))

theorem Consumer.handles_of_deliver {c : Consumer} {client : ClientId} {frame : ResultFrame}
    {log : List (Exchange Delivery)} {outcome : DeliveryOutcome}
    (hrun : (c.deliver client frame).Run log outcome) : Handles log := by
  rw [deliver_eq] at hrun
  obtain ⟨found, first, rest, rfl, hlookup, hrest⟩ := Program.Run.bind_iff.mp hrun
  obtain rfl : first = [⟨.lookup client, found⟩] := Program.Run.ask_iff.mp hlookup
  cases found with
  | none =>
      obtain ⟨rfl, -⟩ := Program.Run.done_iff.mp hrest
      exact .absent client
  | some handle =>
      obtain ⟨reply, second, settling, rfl, hdeliver, hsettling⟩ := Program.Run.bind_iff.mp hrest
      obtain rfl : second = [⟨.deliver handle frame c.ackTimeout, reply⟩] :=
        Program.Run.ask_iff.mp hdeliver
      rcases reply with e | ⟨_ | text | _ | _⟩
      · by_cases hlost : e.losesConnection = true
        · simp only [settle, hlost, if_true] at hsettling
          obtain ⟨current, last, rfl, hlast⟩ := Program.Run.perform_iff.mp hsettling
          obtain ⟨rfl, -⟩ := Program.Run.done_iff.mp hlast
          exact .lost client handle frame c.ackTimeout current hlost
        · simp only [settle, hlost] at hsettling
          obtain ⟨rfl, -⟩ := Program.Run.done_iff.mp hsettling
          exact .kept ..
      · obtain ⟨rfl, -⟩ := Program.Run.done_iff.mp hsettling
        exact .kept ..
      · obtain ⟨rfl, -⟩ := Program.Run.done_iff.mp hsettling
        exact .kept ..
      · obtain ⟨rfl, -⟩ := Program.Run.done_iff.mp hsettling
        exact .kept ..
      · obtain ⟨current, last, rfl, hlast⟩ := Program.Run.perform_iff.mp hsettling
        cases current with
        | false =>
            obtain ⟨rfl, -⟩ := Program.Run.done_iff.mp hlast
            exact .outOfStep client handle frame c.ackTimeout false
        | true =>
            obtain ⟨u, final, rfl, hfinal⟩ := Program.Run.perform_iff.mp hlast
            obtain ⟨rfl, -⟩ := Program.Run.done_iff.mp hfinal
            exact .outOfStep client handle frame c.ackTimeout true

theorem Consumer.handles_of_process {c : Consumer} {counts : Countdown} {m : Message}
    {log : List (Exchange Delivery)} {result : DeliveryOutcome × Countdown}
    (hrun : (c.process counts m).Run log result) : Handles log := by
  rw [process] at hrun
  split at hrun
  · obtain ⟨rfl, -⟩ := Program.Run.done_iff.mp hrun
    exact .withheld
  · obtain ⟨outcome, first, rest, rfl, hdeliver, hrest⟩ := Program.Run.bind_iff.mp hrun
    obtain ⟨rfl, -⟩ := Program.Run.done_iff.mp hrest
    rw [List.append_nil]
    exact handles_of_deliver hdeliver

/-- The courses of the task that closes all connections. -/
inductive Closes : List (Exchange Delivery) → Prop where
  | drained (handles : List Handle) : Closes (⟨.drain, handles⟩ :: Delivery.closing handles)

theorem Delivery.run_closeEach {handles : List Handle} {log : List (Exchange Delivery)} {u : Unit}
    (hrun : (closeEach handles).Run log u) : log = closing handles := by
  induction handles generalizing log with
  | nil => exact (Program.Run.done_iff.mp hrun).1
  | cons handle handles ih =>
      obtain ⟨v, rest, rfl, hrest⟩ := Program.Run.perform_iff.mp hrun
      rw [ih hrest]
      rfl

theorem Delivery.closes_of_run {log : List (Exchange Delivery)} {count : Nat}
    (hrun : closeAll.Run log count) : Closes log := by
  obtain ⟨handles, first, rest, rfl, hdrain, hrest⟩ := Program.Run.bind_iff.mp hrun
  obtain rfl : first = [⟨.drain, handles⟩] := Program.Run.ask_iff.mp hdrain
  obtain ⟨u, second, last, rfl, hclose, hlast⟩ := Program.Run.bind_iff.mp hrest
  obtain ⟨rfl, -⟩ := Program.Run.done_iff.mp hlast
  rw [run_closeEach hclose, List.append_nil]
  exact .drained handles

/-! ## Whoever takes a handle out closes it -/

namespace Delivery

variable {handle : Handle} {log : List (Exchange Delivery)}

theorem settled_of_accepts (h : Accepts handle log) : Settled log := by
  rintro taken ⟨e, he, htakes⟩
  cases h with
  | ended => cases he
  | unannounced =>
      obtain rfl := List.mem_singleton.mp he
      cases htakes
  | registered client old =>
      simp only [List.mem_cons, List.mem_append, List.not_mem_nil, or_false] at he
      rcases he with rfl | he | rfl
      · cases htakes
        exact .inl (by simp [Closed, closing])
      · exact absurd htakes (not_takes_of_mem_closing he)
      · cases htakes
  | turnedAway client old current =>
      simp only [List.mem_cons, List.mem_append, List.not_mem_nil, or_false] at he
      rcases he with (rfl | he | rfl) | rfl | rfl
      · cases htakes
        exact .inl (by simp [Closed, closing])
      · exact absurd htakes (not_takes_of_mem_closing he)
      · cases htakes
      · cases htakes
        exact .inl (by simp [Closed])
      · cases htakes

theorem settled_of_handles (h : Handles log) : Settled log := by
  rintro taken ⟨e, he, htakes⟩
  cases h with
  | withheld => cases he
  | absent client =>
      obtain rfl := List.mem_singleton.mp he
      cases htakes
  | kept client handle frame timeout reply =>
      simp only [List.mem_cons, List.not_mem_nil, or_false] at he
      rcases he with rfl | rfl
      · cases htakes
      · cases htakes
  | @lost client handle frame timeout error current hlost =>
      simp only [List.mem_cons, List.not_mem_nil, or_false] at he
      rcases he with rfl | rfl | rfl
      · cases htakes
      · cases htakes
      · cases htakes
        exact .inr ⟨frame, timeout, error, hlost, by simp⟩
  | outOfStep client handle frame timeout current =>
      simp only [List.mem_cons] at he
      rcases he with rfl | rfl | rfl | he
      · cases htakes
      · cases htakes
      · cases htakes
        exact .inl (by simp [Closed, closing])
      · exact absurd htakes (not_takes_of_mem_closing he)

theorem settled_of_closes (h : Closes log) : Settled log := by
  rintro taken ⟨e, he, htakes⟩
  cases h with
  | drained handles =>
      rcases List.mem_cons.mp he with rfl | he
      · cases htakes with
        | drained hmem => exact .inl (List.mem_cons_of_mem _ (mem_closing hmem))
      · exact absurd htakes (not_takes_of_mem_closing he)

/-! ## Who registers and removes -/

/-- The client and the handle that a request registers. -/
def Request.inserts? : Delivery.Request → Option (ClientId × Handle)
  | .insert client handle => some (client, handle)
  | .lookup _ | .removeIfCurrent _ _ | .drain | .deliver _ _ _ | .close _ | .stopping => none

/-- The client and the handle that a request is to remove. -/
def Request.removes? : Delivery.Request → Option (ClientId × Handle)
  | .removeIfCurrent client handle => some (client, handle)
  | .lookup _ | .insert _ _ | .drain | .deliver _ _ _ | .close _ | .stopping => none

/-- What some of the requests were about, in order. -/
def asked (f : Delivery.Request → Option (ClientId × Handle)) (log : List (Exchange Delivery)) :
    List (ClientId × Handle) :=
  log.filterMap fun e => f e.request

/-- What was registered. -/
abbrev insertions : List (Exchange Delivery) → List (ClientId × Handle) :=
  asked Request.inserts?

/-- What was asked to be removed. -/
abbrev removals : List (Exchange Delivery) → List (ClientId × Handle) :=
  asked Request.removes?

section Asked

variable {f : Delivery.Request → Option (ClientId × Handle)} {entry : ClientId × Handle}

@[simp] theorem asked_nil : asked f [] = [] := rfl

@[simp] theorem asked_cons (e : Exchange Delivery) (log : List (Exchange Delivery)) :
    asked f (e :: log) = (f e.request).toList ++ asked f log := by
  rw [asked, List.filterMap_cons]
  cases f e.request with
  | none => rfl
  | some entry => rfl

@[simp] theorem asked_append (first second : List (Exchange Delivery)) :
    asked f (first ++ second) = asked f first ++ asked f second :=
  List.filterMap_append

theorem mem_asked : entry ∈ asked f log ↔ ∃ e ∈ log, f e.request = some entry :=
  List.mem_filterMap

theorem mem_asked_of_prefix {part : List (Exchange Delivery)} (h : part <+: log)
    (hentry : entry ∈ asked f part) : entry ∈ asked f log := by
  obtain ⟨e, he, hf⟩ := mem_asked.mp hentry
  exact mem_asked.mpr ⟨e, h.subset he, hf⟩

/-- Whoever has come to ask for something has been through all that goes before. -/
theorem subset_of_mem_asked (first : List (Exchange Delivery))
    {part rest : List (Exchange Delivery)} (h : part <+: first ++ rest)
    (hfirst : asked f first = []) (hentry : entry ∈ asked f part) : first ⊆ part := by
  rcases List.prefix_or_prefix_of_prefix h (List.prefix_append first rest) with hpart | hpart
  · have hnone := mem_asked_of_prefix hpart hentry
    rw [hfirst] at hnone
    cases hnone
  · exact hpart.subset

@[simp] theorem insertions_closing (handles : List Handle) : insertions (closing handles) = [] := by
  induction handles with
  | nil => rfl
  | cons handle handles ih => exact ih

@[simp] theorem removals_closing (handles : List Handle) : removals (closing handles) = [] := by
  induction handles with
  | nil => rfl
  | cons handle handles ih => exact ih

end Asked

variable {owner : Handle} {part : List (Exchange Delivery)} {entry : ClientId × Handle}

/-- The task of a new connection registers it before anything else. -/
theorem insertions_of_accepts (h : Accepts owner log) :
    insertions log.tail = [] ∧ ∀ entry ∈ insertions log, entry.2 = owner := by
  cases h with
  | ended => simp
  | unannounced => simp [Request.inserts?]
  | registered client old => simp [Request.inserts?]
  | turnedAway client old current => simp [Request.inserts?]

/-- A connection that was registered was in time, or it is taken out again. -/
theorem checked_of_accepts (h : Accepts owner log) (hinsert : entry ∈ insertions log) :
    ⟨.stopping, false⟩ ∈ log ∨ entry ∈ removals log := by
  cases h with
  | ended => cases hinsert
  | unannounced => cases hinsert
  | registered client old => exact .inl (by simp)
  | turnedAway client old current =>
      obtain rfl : entry = (client, owner) := by simpa [Request.inserts?] using hinsert
      exact .inr (by simp [Request.removes?])

theorem insertions_of_handles (h : Handles log) : insertions log = [] := by
  cases h with
  | withheld => rfl
  | absent => rfl
  | kept => rfl
  | lost => rfl
  | outOfStep => simp [Request.inserts?]

theorem insertions_of_closes (h : Closes log) : insertions log = [] := by
  cases h with
  | drained => simp [Request.inserts?]

/-- The task of a new connection removes no other one, and it has seen before that the gateway
stops. -/
theorem removals_of_accepts (h : Accepts owner log) (hpart : part <+: log)
    (hremove : entry ∈ removals part) : entry.2 = owner ∧ ⟨.stopping, true⟩ ∈ part := by
  have hlog := mem_asked_of_prefix hpart hremove
  cases h with
  | ended => cases hlog
  | unannounced => cases hlog
  | registered client old => simp [Request.removes?] at hlog
  | turnedAway client old current =>
      obtain rfl : entry = (client, owner) := by simpa [Request.removes?] using hlog
      have hfirst := subset_of_mem_asked _ hpart (by simp [Request.removes?]) hremove
      exact ⟨rfl, hfirst (by simp)⟩

/-- A reply after which the connection of a client is given up. -/
def GivesUp (reply : Except WireError AckOutcome) : Prop :=
  reply = .ok .desynchronised ∨ ∃ e : WireError, e.losesConnection = true ∧ reply = .error e

/-- The task of a message removes a connection on which a delivery has gone wrong before. -/
theorem removals_of_handles (h : Handles log) (hpart : part <+: log)
    (hremove : entry ∈ removals part) :
    ∃ frame timeout reply, GivesUp reply ∧ ⟨.deliver entry.2 frame timeout, reply⟩ ∈ part := by
  have hlog := mem_asked_of_prefix hpart hremove
  cases h with
  | withheld => cases hlog
  | absent => cases hlog
  | kept => cases hlog
  | @lost client handle frame timeout e current hlost =>
      obtain rfl : entry = (client, handle) := by simpa [Request.removes?] using hlog
      have hfirst := subset_of_mem_asked [_, _] hpart rfl hremove
      exact ⟨frame, timeout, .error e, .inr ⟨e, hlost, rfl⟩, hfirst (by simp)⟩
  | outOfStep client handle frame timeout current =>
      obtain rfl : entry = (client, handle) := by simpa [Request.removes?] using hlog
      have hfirst := subset_of_mem_asked [_, _] hpart rfl hremove
      exact ⟨frame, timeout, .ok .desynchronised, .inl rfl, hfirst (by simp)⟩

theorem removals_of_closes (h : Closes log) : removals log = [] := by
  cases h with
  | drained => simp [Request.removes?]

theorem drain_of_closes (h : Closes log) : ∃ handles, ⟨.drain, handles⟩ ∈ log := by
  cases h with
  | drained handles => exact ⟨handles, List.mem_cons_self⟩

end Delivery

end QueryGateway
