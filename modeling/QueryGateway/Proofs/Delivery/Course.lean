import Mathlib.Logic.Function.Basic
import QueryGateway.Delivery.Consumer
import QueryGateway.Proofs.Program.Runs

/-! # The course of a delivery

A delivery looks its client up, talks on the connection that was found, and then either keeps the
client or takes it out. So a run of the handling of a message is the run of a link between a lookup
and what is done about its result, and every such course is possible.
-/

namespace QueryGateway

/-! ## Registry and connections -/

/-- What the delivery side asks for, with the talk on each connection spelled out. -/
inductive Outlet.Request where
  | registry (request : Delivery.Request)
  | wire (handle : Handle) (request : Wire.Request)

/-- The interface of the delivery side to the registry and to the connections. -/
def Outlet : Interface where
  Request := Outlet.Request
  Answer
    | .registry request => Delivery.Answer request
    | .wire _ request => Wire.Answer request

/-- How many replies each client owes. -/
abbrev Debts := Handle → Nat

namespace Outlet

/-- Makes a request to the registry. -/
def registry (request : Delivery.Request) : Program Outlet (Delivery.Answer request) :=
  .ask (I := Outlet) (.registry request)

/-- Makes a request on a connection. -/
def wire (handle : Handle) (request : Wire.Request) : Program Outlet (Wire.Answer request) :=
  .ask (I := Outlet) (.wire handle request)

/-- Delivers a frame on the link of a handle and notes the replies that are owed then. -/
def deliver (handle : Handle) (frame : ResultFrame) (timeout : Nat) :
    StateT Debts (Program Outlet) (Except WireError AckOutcome) := fun owed => do
  let (outcome, left) ← (Link.deliver frame timeout (owed handle)).interpret (wire handle)
  return (outcome, Function.update owed handle left)

/-- Carries out a request of the delivery side. -/
def answer : (request : Interface.Request Delivery) →
    StateT Debts (Program Outlet) (Interface.Answer Delivery request)
  | .deliver handle frame timeout => deliver handle frame timeout
  | .close handle => StateT.lift (wire handle .shutdown)
  | .lookup client => StateT.lift (registry (.lookup client))
  | .insert client handle => StateT.lift (registry (.insert client handle))
  | .removeIfCurrent client handle => StateT.lift (registry (.removeIfCurrent client handle))
  | .drain => StateT.lift (registry .drain)
  | .stopping => StateT.lift (registry .stopping)

/-- A program of the delivery side over the registry and the connections. -/
def program (p : Program Delivery α) (owed : Debts) : Program Outlet (α × Debts) :=
  p.interpret answer owed

@[simp] theorem program_done (a : α) (owed : Debts) :
    program (.done a) owed = .done (a, owed) := rfl

theorem program_bind (p : Program Delivery α) (f : α → Program Delivery β) (owed : Debts) :
    program (p >>= f) owed = program p owed >>= fun (a, owed) => program (f a) owed :=
  congrFun (Program.interpret_bind answer p f) owed

theorem program_deliver (handle : Handle) (frame : ResultFrame) (timeout : Nat) (owed : Debts) :
    program (Delivery.deliver handle frame timeout) owed = deliver handle frame timeout owed :=
  congrFun (bind_pure (deliver handle frame timeout)) owed

/-- An exchange on the connection of a handle. -/
def onWire (handle : Handle) (exchange : Exchange Wire) : Exchange Outlet :=
  ⟨.wire handle exchange.request, exchange.answer⟩

/-- What a program does on one connection it does on the connection of a handle. -/
theorem run_wire {handle : Handle} {p : Program Wire α} {log : List (Exchange Outlet)} {a : α}
    (h : (p.interpret (wire handle)).Run log a) :
    ∃ inner, p.Run inner a ∧ log = inner.map (onWire handle) := by
  induction p generalizing log with
  | done b =>
      obtain ⟨rfl, rfl⟩ := Program.Run.done_iff.mp h
      exact ⟨[], .done _, rfl⟩
  | perform request next ih =>
      obtain ⟨answer, first, rest, rfl, hfirst, hrest⟩ := Program.Run.bind_iff.mp h
      have hask : first = [⟨.wire handle request, answer⟩] := Program.Run.ask_iff.mp hfirst
      obtain ⟨inner, hinner, rfl⟩ := ih answer hrest
      exact ⟨⟨request, answer⟩ :: inner, .perform answer hinner, by rw [hask]; rfl⟩

/-- What a program may do on a connection it may do on the connection of a handle. -/
theorem run_onWire {handle : Handle} {p : Program Wire α} {inner : List (Exchange Wire)} {a : α}
    (h : p.Run inner a) : (p.interpret (wire handle)).Run (inner.map (onWire handle)) a := by
  induction h with
  | done a => exact .done a
  | perform answer _ ih =>
      exact Program.Run.bind_iff.mpr ⟨answer, [_], _, rfl, Program.Run.ask_iff.mpr rfl, ih⟩

theorem run_lookup {client : ClientId} {owed owed' : Debts} {log : List (Exchange Outlet)}
    {found : Option Handle}
    (h : (program (Delivery.lookup client) owed).Run log (found, owed')) :
    log = [⟨.registry (.lookup client), found⟩] ∧ owed = owed' := by
  obtain ⟨answer, rest, rfl, hrest⟩ := Program.Run.perform_iff.mp h
  obtain ⟨rfl, hdone⟩ := Program.Run.done_iff.mp hrest
  cases hdone
  exact ⟨rfl, rfl⟩

end Outlet

namespace Consumer

variable {c : Consumer} {client : ClientId} {handle : Handle} {frame : ResultFrame}
  {owed owed' : Debts} {log : List (Exchange Outlet)} {outcome : DeliveryOutcome}
  {counts counts' : Countdown} {m : Message}

/-- What is done about the reply to a frame, or about its absence. -/
def settle (client : ClientId) (handle : Handle) :
    Except WireError AckOutcome → Program Delivery DeliveryOutcome
  | .ok .acked => return .delivered
  | .ok (.mismatch reply) => return .ackMismatch reply
  | .ok .timedOut => return .ackTimedOut
  | .ok .desynchronised => do
    if ← Delivery.removeIfCurrent client handle then
      Delivery.close handle
    return .desynchronised
  | .error e =>
    if e.losesConnection then do
      let _ ← Delivery.removeIfCurrent client handle
      return .disconnected
    else return .undeliverable e

theorem deliver_eq (c : Consumer) (client : ClientId) (frame : ResultFrame) :
    c.deliver client frame = Delivery.lookup client >>= fun
      | none => .done .noClient
      | some handle => Delivery.deliver handle frame c.ackTimeout >>= settle client handle := by
  rw [deliver]
  apply congrArg
  funext found
  cases found with
  | none => rfl
  | some handle =>
      apply congrArg
      funext reply
      rcases reply with e | ⟨_ | _ | _ | _⟩
      all_goals rfl

/-- What is asked after the talk on a link, by how that ended. -/
inductive Ends (client : ClientId) (handle : Handle) :
    Except WireError AckOutcome → List (Exchange Outlet) → DeliveryOutcome → Prop where
  | acked : Ends client handle (.ok .acked) [] .delivered
  | mismatch (reply : String) : Ends client handle (.ok (.mismatch reply)) [] (.ackMismatch reply)
  | timedOut : Ends client handle (.ok .timedOut) [] .ackTimedOut
  /-- A connection that owes a reply was replaced meanwhile. -/
  | replaced : Ends client handle (.ok .desynchronised)
      [⟨.registry (.removeIfCurrent client handle), false⟩] .desynchronised
  | closed : Ends client handle (.ok .desynchronised)
      [⟨.registry (.removeIfCurrent client handle), true⟩, ⟨.wire handle .shutdown, ()⟩]
      .desynchronised
  | lost {e : WireError} (current : Bool) : e.losesConnection = true →
      Ends client handle (.error e) [⟨.registry (.removeIfCurrent client handle), current⟩]
        .disconnected
  | dropped {e : WireError} : e.losesConnection = false →
      Ends client handle (.error e) [] (.undeliverable e)

theorem run_settle_iff {reply : Except WireError AckOutcome} :
    (Outlet.program (settle client handle reply) owed).Run log (outcome, owed') ↔
      Ends client handle reply log outcome ∧ owed' = owed := by
  constructor
  · intro hrun
    rcases reply with e | ⟨_ | reply | _ | _⟩
    · by_cases hlost : e.losesConnection = true
      · simp only [settle, hlost, if_true] at hrun
        obtain ⟨current, rest, rfl, hrest⟩ := Program.Run.perform_iff.mp hrun
        obtain ⟨rfl, hdone⟩ := Program.Run.done_iff.mp hrest
        cases hdone
        exact ⟨.lost current hlost, rfl⟩
      · simp only [settle, hlost] at hrun
        obtain ⟨rfl, hdone⟩ := Program.Run.done_iff.mp hrun
        cases hdone
        exact ⟨.dropped (by simpa using hlost), rfl⟩
    · obtain ⟨rfl, hdone⟩ := Program.Run.done_iff.mp hrun
      cases hdone
      exact ⟨.acked, rfl⟩
    · obtain ⟨rfl, hdone⟩ := Program.Run.done_iff.mp hrun
      cases hdone
      exact ⟨.mismatch reply, rfl⟩
    · obtain ⟨rfl, hdone⟩ := Program.Run.done_iff.mp hrun
      cases hdone
      exact ⟨.timedOut, rfl⟩
    · obtain ⟨current, rest, rfl, hrest⟩ := Program.Run.perform_iff.mp hrun
      cases current with
      | false =>
          obtain ⟨rfl, hdone⟩ := Program.Run.done_iff.mp hrest
          cases hdone
          exact ⟨.replaced, rfl⟩
      | true =>
          obtain ⟨answer, last, rfl, hlast⟩ := Program.Run.perform_iff.mp hrest
          obtain ⟨rfl, hdone⟩ := Program.Run.done_iff.mp hlast
          cases hdone
          exact ⟨.closed, rfl⟩
  · rintro ⟨hends, rfl⟩
    cases hends with
    | acked => exact .done _
    | mismatch reply => exact .done _
    | timedOut => exact .done _
    | replaced => exact Program.Run.perform_iff.mpr ⟨false, [], rfl, .done _⟩
    | closed =>
        refine Program.Run.perform_iff.mpr ⟨true, [_], rfl, ?_⟩
        exact Program.Run.perform_iff.mpr ⟨(), [], rfl, .done _⟩
    | lost current hlost =>
        simp only [settle, hlost, if_true]
        exact Program.Run.perform_iff.mpr ⟨current, [], rfl, .done _⟩
    | dropped hkept =>
        simp only [settle, hkept]
        exact .done _

/-- The deliveries of a frame to a client, by what is asked. -/
inductive Course (c : Consumer) (client : ClientId) (frame : ResultFrame) (owed : Debts) :
    List (Exchange Outlet) → DeliveryOutcome → Debts → Prop where
  | absent : Course c client frame owed [⟨.registry (.lookup client), none⟩] .noClient owed
  | found {handle : Handle} {inner : List (Exchange Wire)} {tail : List (Exchange Outlet)}
      {reply : Except WireError AckOutcome} {left : Nat} {outcome : DeliveryOutcome} :
      (Link.deliver frame c.ackTimeout (owed handle)).Run inner (reply, left) →
      Ends client handle reply tail outcome →
      Course c client frame owed
        (⟨.registry (.lookup client), some handle⟩ :: (inner.map (Outlet.onWire handle) ++ tail))
        outcome (Function.update owed handle left)

theorem run_deliver_iff :
    (Outlet.program (c.deliver client frame) owed).Run log (outcome, owed') ↔
      c.Course client frame owed log outcome owed' := by
  rw [deliver_eq, Outlet.program_bind]
  constructor
  · intro hrun
    obtain ⟨⟨found, _⟩, first, rest, rfl, hlookup, hrest⟩ := Program.Run.bind_iff.mp hrun
    obtain ⟨rfl, rfl⟩ := Outlet.run_lookup hlookup
    match found with
    | none =>
        obtain ⟨rfl, hdone⟩ := Program.Run.done_iff.mp hrest
        cases hdone
        exact .absent
    | some handle =>
        simp only [Outlet.program_bind, Outlet.program_deliver] at hrest
        obtain ⟨⟨reply, _⟩, second, tail, rfl, hdeliver, htail⟩ := Program.Run.bind_iff.mp hrest
        obtain ⟨⟨reply', left⟩, inside, last, rfl, hinside, hlast⟩ :=
          Program.Run.bind_iff.mp hdeliver
        obtain ⟨rfl, hdone⟩ := Program.Run.done_iff.mp hlast
        cases hdone
        obtain ⟨inner, hinner, rfl⟩ := Outlet.run_wire hinside
        obtain ⟨hends, rfl⟩ := run_settle_iff.mp htail
        rw [List.append_nil]
        exact .found hinner hends
  · intro hcourse
    have hlookup : ∀ found, (Outlet.program (Delivery.lookup client) owed).Run
        [⟨.registry (.lookup client), found⟩] (found, owed) := fun found =>
      Program.Run.perform_iff.mpr ⟨found, [], rfl, .done _⟩
    cases hcourse with
    | absent => exact Program.Run.bind_iff.mpr ⟨_, [_], [], rfl, hlookup none, .done _⟩
    | @found handle inner tail reply left _ hinner hends =>
        refine Program.Run.bind_iff.mpr ⟨_, [_], _, rfl, hlookup (some handle), ?_⟩
        have hdeliver : (Outlet.program (Delivery.deliver handle frame c.ackTimeout) owed).Run
            (inner.map (Outlet.onWire handle) ++ []) (reply, Function.update owed handle left) := by
          rw [Outlet.program_deliver]
          exact Program.Run.bind_iff.mpr
            ⟨(reply, left), _, [], rfl, Outlet.run_onWire hinner, .done _⟩
        rw [List.append_nil] at hdeliver
        simp only [Outlet.program_bind]
        exact Program.Run.bind_iff.mpr
          ⟨_, _, tail, rfl, hdeliver, run_settle_iff.mpr ⟨hends, rfl⟩⟩

/-- A message that is passed on is delivered, and then the counts are the new ones. -/
theorem program_process (h : c.frameOf counts m = (.ok (client, frame), counts')) :
    Outlet.program (c.process counts m) owed =
      Outlet.program (c.deliver client frame) owed >>= fun (outcome, owed) =>
        .done ((outcome, counts'), owed) := by
  rw [process, h]
  exact Outlet.program_bind ..

/-- A message is dropped without a request, or its frame is delivered. -/
theorem run_process_iff :
    (Outlet.program (c.process counts m) owed).Run log ((outcome, counts'), owed') ↔
      (c.frameOf counts m = (.error outcome, counts') ∧ log = [] ∧ owed' = owed) ∨
        ∃ client frame, c.frameOf counts m = (.ok (client, frame), counts') ∧
          c.Course client frame owed log outcome owed' := by
  rcases hframe : c.frameOf counts m with ⟨dropped | ⟨client, frame⟩, counts₁⟩
  · have hprocess : Outlet.program (c.process counts m) owed =
        .done ((dropped, counts₁), owed) := by
      rw [process, hframe]
      rfl
    rw [hprocess, Program.Run.done_iff]
    constructor
    · rintro ⟨rfl, hdone⟩
      cases hdone
      exact .inl ⟨rfl, rfl, rfl⟩
    · rintro (⟨hsame, rfl, rfl⟩ | ⟨client, frame, hother, -⟩)
      · cases hsame
        exact ⟨rfl, rfl⟩
      · cases hother
  · rw [program_process hframe, Program.Run.bind_iff]
    constructor
    · rintro ⟨⟨outcome₁, owed₁⟩, first, rest, rfl, hdeliver, hdone⟩
      obtain ⟨rfl, hresult⟩ := Program.Run.done_iff.mp hdone
      cases hresult
      rw [List.append_nil]
      exact .inr ⟨client, frame, rfl, run_deliver_iff.mp hdeliver⟩
    · rintro (⟨hother, -⟩ | ⟨client, frame, hsame, hcourse⟩)
      · cases hother
      · cases hsame
        exact ⟨(outcome, owed'), log, [], (List.append_nil log).symm,
          run_deliver_iff.mpr hcourse, .done _⟩

/-- A frame may be delivered on any connection that is found, in any way that its link may go. -/
theorem run_process_of_found (handle : Handle) {inner : List (Exchange Wire)}
    {tail : List (Exchange Outlet)} {reply : Except WireError AckOutcome} {left : Nat}
    (hframe : c.frameOf counts m = (.ok (client, frame), counts'))
    (hinner : (Link.deliver frame c.ackTimeout (owed handle)).Run inner (reply, left))
    (hends : Ends client handle reply tail outcome) :
    (Outlet.program (c.process counts m) owed).Run
      (⟨.registry (.lookup client), some handle⟩ :: (inner.map (Outlet.onWire handle) ++ tail))
      ((outcome, counts'), Function.update owed handle left) :=
  run_process_iff.mpr (.inr ⟨client, frame, hframe, .found hinner hends⟩)

end Consumer

end QueryGateway
