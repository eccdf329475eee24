import Mathlib.Data.List.Induction
import QueryGateway.Proofs.Delivery.Course
import QueryGateway.Simulation.Steps

/-! # Turns of the delivery side

In one turn the delivery side handles one message. It asks the registry, and it talks on the
connections of its clients; who is registered and what the clients reply is up to the world.
-/

namespace QueryGateway

namespace Outlet

/-- A payload written on a connection, and whether the connection took it. -/
structure Write where
  handle : Handle
  payload : String
  accepted : Bool
  deriving DecidableEq

/-- What an exchange wrote. -/
def write? : Exchange Outlet → Option Write
  | ⟨.wire handle (.write payload), answer⟩ =>
    some ⟨handle, payload, (answer : Except WireError Unit).isOk⟩
  | ⟨.wire _ .read, _⟩ => none
  | ⟨.wire _ (.readWithin _), _⟩ => none
  | ⟨.wire _ .shutdown, _⟩ => none
  | ⟨.registry _, _⟩ => none

/-- The writes among the exchanges of a run, in order. -/
def writes (log : List (Exchange Outlet)) : List Write :=
  log.filterMap write?

@[simp] theorem writes_append (first second : List (Exchange Outlet)) :
    writes (first ++ second) = writes first ++ writes second :=
  List.filterMap_append

end Outlet

/-! ## One frame on a link -/

namespace Link

/-- What an exchange on a connection wrote, and whether the connection took it. -/
def write? : Exchange Wire → Option (String × Bool)
  | ⟨.write payload, answer⟩ => some (payload, (answer : Except WireError Unit).isOk)
  | ⟨.read, _⟩ => none
  | ⟨.readWithin _, _⟩ => none
  | ⟨.shutdown, _⟩ => none

theorem writes_onWire (handle : Handle) (log : List (Exchange Wire)) :
    Outlet.writes (log.map (Outlet.onWire handle)) =
      (log.filterMap write?).map fun (payload, accepted) => ⟨handle, payload, accepted⟩ := by
  induction log with
  | nil => rfl
  | cons exchange rest ih =>
      obtain ⟨request, answer⟩ := exchange
      cases request with
      | read => exact ih
      | readWithin limit => exact ih
      | write payload => exact congrArg (List.cons _) ih
      | shutdown => exact ih

variable {frame : ResultFrame} {timeout : Nat} {log : List (Exchange Wire)}
  {outcome : Except WireError AckOutcome} {left : Nat}

/-- A frame that nothing is owed for is written once. -/
theorem run_exchange (h : (exchange frame timeout).Run log (outcome, left)) :
    ∃ accepted, log.filterMap write? = [(frame.text, accepted)] ∧
      outcome ≠ .ok .desynchronised ∧ (accepted = false → ∃ e, outcome = .error e) := by
  obtain ⟨written, first, rest, rfl, hfirst, hrest⟩ := Program.Run.bind_iff.mp h
  have hwrite : first = [⟨.write frame.text, written⟩] := Program.Run.ask_iff.mp hfirst
  rw [List.filterMap_append, hwrite]
  match written with
  | .error e =>
      obtain ⟨rfl, hdone⟩ := Program.Run.done_iff.mp hrest
      cases hdone
      exact ⟨false, rfl, by simp, fun _ => ⟨e, rfl⟩⟩
  | .ok () =>
      obtain ⟨reply, second, third, rfl, hsecond, hthird⟩ := Program.Run.bind_iff.mp hrest
      have hread : second = [⟨.readWithin timeout, reply⟩] := Program.Run.ask_iff.mp hsecond
      rw [List.filterMap_append, hread]
      match reply with
      | none =>
          obtain ⟨rfl, hdone⟩ := Program.Run.done_iff.mp hthird
          cases hdone
          exact ⟨true, rfl, by simp, by simp⟩
      | some (.error e) =>
          obtain ⟨rfl, hdone⟩ := Program.Run.done_iff.mp hthird
          cases hdone
          exact ⟨true, rfl, by simp, by simp⟩
      | some (.ok text) =>
          obtain ⟨rfl, hdone⟩ := Program.Run.done_iff.mp hthird
          cases hdone
          refine ⟨true, rfl, ?_, by simp⟩
          rw [judge]
          split <;> simp

/-- Nothing is written before every reply that is owed has come; then the frame is written once. -/
theorem run_deliver {owed : Nat} (h : (deliver frame timeout owed).Run log (outcome, left)) :
    (0 < owed ∧ log.filterMap write? = [] ∧
      (outcome = .ok .desynchronised ∨ ∃ e, outcome = .error e)) ∨
    ∃ accepted, log.filterMap write? = [(frame.text, accepted)] ∧
      outcome ≠ .ok .desynchronised ∧ (accepted = false → ∃ e, outcome = .error e) := by
  induction owed generalizing log with
  | zero => exact Or.inr (run_exchange h)
  | succ owed ih =>
      obtain ⟨reply, first, rest, rfl, hfirst, hrest⟩ := Program.Run.bind_iff.mp h
      have hread : first = [⟨.readWithin timeout, reply⟩] := Program.Run.ask_iff.mp hfirst
      rw [List.filterMap_append, hread]
      match reply with
      | none =>
          obtain ⟨rfl, hdone⟩ := Program.Run.done_iff.mp hrest
          cases hdone
          exact Or.inl ⟨by omega, rfl, Or.inl rfl⟩
      | some (.error e) =>
          obtain ⟨rfl, hdone⟩ := Program.Run.done_iff.mp hrest
          cases hdone
          exact Or.inl ⟨by omega, rfl, Or.inr ⟨e, rfl⟩⟩
      | some (.ok text) =>
          rcases ih hrest with ⟨-, hwrites, houtcome⟩ | hwritten
          · exact Or.inl ⟨by omega, hwrites, houtcome⟩
          · exact Or.inr hwritten

end Link

/-! ## One frame to a client -/

/-- How a frame fares with a client whose connection was found under `found`. -/
inductive Passage (frame : ResultFrame) (owed : Debts) :
    (found : Option Handle) → DeliveryOutcome → List Outlet.Write → Prop where
  | absent : Passage frame owed none .noClient []
  /-- A reply to an earlier frame did not come. -/
  | outOfStep {handle : Handle} {outcome : DeliveryOutcome} :
      0 < owed handle → outcome.forwarded = false → Passage frame owed (some handle) outcome []
  | written {handle : Handle} {outcome : DeliveryOutcome} (accepted : Bool) :
      (outcome.forwarded = true → accepted = true) →
        Passage frame owed (some handle) outcome [⟨handle, frame.text, accepted⟩]

namespace Consumer

variable {c : Consumer} {client : ClientId} {handle : Handle} {frame : ResultFrame}
  {owed owed' : Debts} {log : List (Exchange Outlet)} {outcome : DeliveryOutcome}

/-- After the talk on the link nothing more is written. -/
theorem Ends.writes {reply : Except WireError AckOutcome} (h : Ends client handle reply log outcome) :
    Outlet.writes log = [] := by
  cases h with
  | acked => rfl
  | mismatch reply => rfl
  | timedOut => rfl
  | replaced => rfl
  | closed => rfl
  | lost current _ => rfl
  | dropped _ => rfl

/-- A frame is called forwarded only if the link got as far as the reply to it. -/
theorem Ends.ok_of_forwarded {reply : Except WireError AckOutcome}
    (h : Ends client handle reply log outcome) (hforwarded : outcome.forwarded = true) :
    ∃ ack, reply = .ok ack ∧ ack ≠ .desynchronised := by
  cases h with
  | acked => exact ⟨_, rfl, by simp⟩
  | mismatch reply => exact ⟨_, rfl, by simp⟩
  | timedOut => exact ⟨_, rfl, by simp⟩
  | replaced => cases hforwarded
  | closed => cases hforwarded
  | lost current _ => cases hforwarded
  | dropped _ => cases hforwarded

theorem run_deliver (h : (Outlet.program (c.deliver client frame) owed).Run log (outcome, owed')) :
    ∃ found rest, log = ⟨.registry (.lookup client), found⟩ :: rest ∧
      Passage frame owed found outcome (Outlet.writes log) := by
  cases run_deliver_iff.mp h with
  | absent => exact ⟨none, [], rfl, .absent⟩
  | @found handle inner tail reply left _ hinner hends =>
      refine ⟨some handle, _, rfl, ?_⟩
      change Passage frame owed (some handle) outcome
        (Outlet.writes (inner.map (Outlet.onWire handle) ++ tail))
      rw [Outlet.writes_append, hends.writes, List.append_nil, Link.writes_onWire]
      rcases Link.run_deliver hinner with ⟨howed, hwrites, hreply⟩ |
        ⟨accepted, hwrites, hreply, hrefused⟩
      · rw [hwrites]
        apply Passage.outOfStep howed
        by_contra hne
        obtain ⟨ack, rfl, hack⟩ := hends.ok_of_forwarded (by simpa using hne)
        rcases hreply with heq | ⟨e, heq⟩
        · cases heq
          exact hack rfl
        · cases heq
      · rw [hwrites]
        apply Passage.written accepted
        intro hyes
        obtain ⟨ack, rfl, -⟩ := hends.ok_of_forwarded hyes
        by_contra hno
        obtain ⟨e, heq⟩ := hrefused (by simpa using hno)
        cases heq

end Consumer

/-! ## Turns -/

/-- What the delivery side has to go on with between two messages. -/
structure Dispatch where
  counts : Countdown
  owed : Debts
  /-- Everything that was asked and answered so far. -/
  past : List (Exchange Outlet)

/-- The handling of one message. -/
structure Turn where
  message : Message
  /-- What was asked and answered meanwhile. -/
  log : List (Exchange Outlet)
  outcome : DeliveryOutcome

/-- What was written in a turn. -/
def Turn.writes (t : Turn) : List Outlet.Write :=
  Outlet.writes t.log

/-- The connection that a client is registered with after a past. -/
def World.registered (w : World Outlet) (past : List (Exchange Outlet)) (client : ClientId) :
    Option Handle :=
  w past (.registry (.lookup client))

/-- A world with one client, which acknowledges every frame. -/
def World.attentive (client : ClientId) (handle : Handle) : World Outlet
  | _, .registry (.lookup client') => if client' = client then some handle else none
  | _, .registry (.insert _ _) => none
  | _, .registry (.removeIfCurrent _ _) => false
  | _, .registry .drain => [handle]
  | _, .registry (.deliver _ _ _) => .ok .acked
  | _, .registry (.close _) => ()
  | _, .registry .stopping => false
  | _, .wire _ .read => .ok resultAck
  | _, .wire _ (.readWithin _) => some (.ok resultAck)
  | _, .wire _ (.write _) => .ok ()
  | _, .wire _ .shutdown => ()

namespace Consumer

variable {c : Consumer} {w : World Outlet} {s : Dispatch} {m : Message} {counts : Countdown}

/-- Handles one message. -/
def turn (c : Consumer) (w : World Outlet) (s : Dispatch) (m : Message) : Turn × Dispatch :=
  let (((outcome, counts), owed), log) :=
    w.play s.past (Outlet.program (c.process s.counts m) s.owed)
  (⟨m, log, outcome⟩, ⟨counts, owed, s.past ++ log⟩)

theorem past_turn : (c.turn w s m).2.past = s.past ++ (c.turn w s m).1.log := rfl

/-- A message that is not passed on asks for nothing. -/
theorem turn_of_error {outcome : DeliveryOutcome}
    (h : c.frameOf s.counts m = (.error outcome, counts)) :
    c.turn w s m = (⟨m, [], outcome⟩, ⟨counts, s.owed, s.past⟩) := by
  simp [turn, process, h, World.play]

/-- A frame goes to the connection that its client is registered with when the turn starts. -/
theorem turn_of_frame {client : ClientId} {frame : ResultFrame}
    (h : c.frameOf s.counts m = (.ok (client, frame), counts)) :
    (c.turn w s m).2.counts = counts ∧
      Passage frame s.owed (w.registered s.past client) (c.turn w s m).1.outcome
        (c.turn w s m).1.writes := by
  have hprocess : Outlet.program (c.process s.counts m) s.owed = _ := program_process h
  have hrun := w.run_play s.past (Outlet.program (c.process s.counts m) s.owed)
  rw [hprocess] at hrun
  obtain ⟨⟨outcome, owed⟩, log, rest, hlog, hdeliver, hdone⟩ := Program.Run.bind_iff.mp hrun
  obtain ⟨rfl, hresult⟩ := Program.Run.done_iff.mp hdone
  obtain ⟨found, more, rfl, hpassage⟩ := run_deliver hdeliver
  have hfound : found = w.registered s.past client := World.head_play hlog
  rw [List.append_nil] at hlog
  simp only [turn, Turn.writes, hprocess, hresult, hlog]
  rw [← hfound]
  exact ⟨trivial, hpassage⟩

theorem counts_turn : (c.turn w s m).2.counts = (c.frameOf s.counts m).2 := by
  cases hframe : c.frameOf s.counts m with
  | mk result counts =>
      rcases result with outcome | ⟨client, frame⟩
      · rw [turn_of_error hframe]
      · exact (turn_of_frame hframe).1

/-- Handles messages one after the other. -/
def turns (c : Consumer) (w : World Outlet) (ms : List Message) (s : Dispatch) :
    List Turn × Dispatch :=
  Simulation.runSteps (c.turn w) ms s

variable {ms : List Message}

theorem turns_append_singleton :
    c.turns w (ms ++ [m]) s =
      ((c.turns w ms s).1 ++ [(c.turn w (c.turns w ms s).2 m).1],
        (c.turn w (c.turns w ms s).2 m).2) := by
  rw [turns, Simulation.runSteps_append]
  rfl

theorem messages_turns : (c.turns w ms s).1.map Turn.message = ms := by
  induction ms using List.reverseRecOn with
  | nil => rfl
  | append_singleton ms m ih =>
      rw [turns_append_singleton, List.map_append, ih]
      rfl

theorem message_mem_of_mem_turns {t : Turn} (h : t ∈ (c.turns w ms s).1) : t.message ∈ ms := by
  have hmessage := List.mem_map_of_mem (f := Turn.message) h
  rwa [messages_turns] at hmessage

/-- Nothing is asked between two turns. -/
theorem past_turns : (c.turns w ms s).2.past = s.past ++ (c.turns w ms s).1.flatMap Turn.log := by
  induction ms using List.reverseRecOn with
  | nil => exact (List.append_nil s.past).symm
  | append_singleton ms m ih =>
      rw [turns_append_singleton, List.flatMap_append, ← List.append_assoc, ← ih, past_turn]
      simp

/-- A turn of a run is the turn on its message after the turns before it. -/
theorem turn_of_mem_turns {before after : List Turn} {t : Turn}
    (h : (c.turns w ms s).1 = before ++ t :: after) :
    t = (c.turn w (c.turns w (before.map Turn.message) s).2 t.message).1 := by
  have hms : ms = before.map Turn.message ++ t.message :: after.map Turn.message := by
    have hmessages := congrArg (List.map Turn.message) h
    rwa [messages_turns, List.map_append, List.map_cons] at hmessages
  rw [hms, turns, Simulation.runSteps_append] at h
  have hlength : (c.turns w (before.map Turn.message) s).1.length = before.length := by
    rw [← List.length_map Turn.message, messages_turns, List.length_map]
  have hrest := (List.append_inj h hlength).2
  exact (List.cons.inj hrest).1.symm

end Consumer

theorem Passage.mem_writes {frame : ResultFrame} {owed : Debts} {found : Option Handle}
    {outcome : DeliveryOutcome} {writes : List Outlet.Write}
    (h : Passage frame owed found outcome writes) {write : Outlet.Write} (hwrite : write ∈ writes) :
    found = some write.handle ∧ write.payload = frame.text := by
  cases h with
  | absent => cases hwrite
  | outOfStep howed houtcome => cases hwrite
  | written accepted hforwarded =>
      obtain rfl := List.mem_singleton.mp hwrite
      exact ⟨rfl, rfl⟩

end QueryGateway
