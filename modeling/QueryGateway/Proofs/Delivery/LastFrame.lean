import QueryGateway.Proofs.Delivery.Course
import QueryGateway.Proofs.Delivery.FanIn
import QueryGateway.Proofs.Delivery.Pairing
import QueryGateway.Proofs.Delivery.Switchboard

/-! # The frame that ends a query

The count of a query is forgotten when its last message arrives, so the frame that tells the client
is sent once or never. A client that is still registered afterwards has got it, with one exception:
it owed a reply, and what came in place of this reply is no text.
-/

namespace QueryGateway

open Wire

/-! ## Deliveries that fail -/

namespace Link

/-- One of the owed replies came as bytes that are no text. -/
def OwedGarbled (owed : Nat) (log : List (Exchange Wire)) : Prop :=
  ∃ before after limit,
    log = before ++ ⟨.readWithin limit, some (.error .invalidUtf8)⟩ :: after ∧
      (got before).length < owed

variable {frame : ResultFrame} {timeout owed left : Nat} {log : List (Exchange Wire)}
  {outcome : Except WireError AckOutcome}

theorem Drops.sent_of_owedGarbled {e : WireError} (h : Drops frame timeout owed log e left)
    (hgarbled : OwedGarbled owed log) : sent log = [] := by
  obtain ⟨before, after, limit, hlog, hlength⟩ := hgarbled
  induction h generalizing before with
  | refused e => cases hlength
  | unread e => cases hlength
  | owing owed e => rfl
  | late reply _ ih =>
      cases before with
      | nil => cases (List.cons.inj hlog).1
      | cons x before =>
          obtain ⟨rfl, hrest⟩ := List.cons.inj hlog
          exact ih before hrest (Nat.lt_of_succ_lt_succ hlength)

/-- A garbled reply ends the delivery before its frame is written. -/
theorem deliver_of_owedGarbled (hrun : (deliver frame timeout owed).Run log (outcome, left))
    (hgarbled : OwedGarbled owed log) : outcome = .error .invalidUtf8 ∧ sent log = [] := by
  have ⟨before, after, limit, hlog, _⟩ := hgarbled
  have hmem : (⟨.readWithin limit, some (.error .invalidUtf8)⟩ : Exchange Wire) ∈ log := by
    rw [hlog]
    exact List.mem_append_right _ List.mem_cons_self
  rcases delivers_or_drops_of_run hrun with ⟨_, -, hdelivers⟩ | ⟨e, rfl, hdrops⟩
  · exact absurd ⟨_, rfl⟩ (hdelivers.not_fails _ hmem)
  · have heq := hdrops.eq_of_fails _ hmem ⟨_, rfl⟩
    cases heq
    exact ⟨rfl, hdrops.sent_of_owedGarbled hgarbled⟩

/-- A delivery writes its frame, or the frame is refused, or a reply that is owed does not come, or
reading it fails. -/
theorem deliver_cases (hrun : (deliver frame timeout owed).Run log (outcome, left)) :
    frame.text ∈ sent log ∨
    (∃ e, outcome = .error e ∧ ⟨.write frame.text, .error e⟩ ∈ log) ∨
    outcome = .ok .desynchronised ∨
    (∃ e before, outcome = .error e ∧
      log = before ++ [⟨.readWithin timeout, some (.error e)⟩] ∧ (got before).length < owed) := by
  rcases delivers_or_drops_of_run hrun with ⟨ack, rfl, hdelivers⟩ | ⟨e, rfl, hdrops⟩
  · have haccounts := hdelivers.accounts
    cases ack with
    | acked => exact .inl (by simp [haccounts.1])
    | mismatch reply => exact .inl (by simp [haccounts.1])
    | timedOut => exact .inl (by simp [haccounts.1])
    | desynchronised => exact .inr (.inr (.inl rfl))
  · clear hrun
    induction hdrops with
    | refused e => exact .inr (.inl ⟨e, rfl, List.mem_cons_self⟩)
    | unread e => exact .inl List.mem_cons_self
    | owing owed e => exact .inr (.inr (.inr ⟨e, [], rfl, rfl, Nat.succ_pos owed⟩))
    | late reply _ ih =>
        rcases ih with hwritten | ⟨e, he, hmem⟩ | hstopped | ⟨e, before, he, rfl, hlength⟩
        · exact .inl hwritten
        · exact .inr (.inl ⟨e, he, List.mem_cons_of_mem _ hmem⟩)
        · cases hstopped
        · exact .inr (.inr (.inr ⟨e, _ :: before, he, rfl, Nat.succ_lt_succ hlength⟩))

end Link

/-! ## What the delivery side does about it -/

namespace Outlet

/-- What an exchange was on the connection of a handle. -/
def onWire? (handle : Handle) : Exchange Outlet → Option (Exchange Wire)
  | ⟨.wire handle' request, answer⟩ => if handle' = handle then some ⟨request, answer⟩ else none
  | ⟨.registry _, _⟩ => none

/-- What was asked of the connection of a handle. -/
def traffic (handle : Handle) (log : List (Exchange Outlet)) : List (Exchange Wire) :=
  log.filterMap (onWire? handle)

variable {handle : Handle} {log : List (Exchange Outlet)}

@[simp] theorem traffic_append (first second : List (Exchange Outlet)) :
    traffic handle (first ++ second) = traffic handle first ++ traffic handle second :=
  List.filterMap_append

@[simp] theorem traffic_onWire (inner : List (Exchange Wire)) :
    traffic handle (inner.map (onWire handle)) = inner := by
  induction inner with
  | nil => rfl
  | cons e rest ih =>
      rw [List.map_cons, traffic, List.filterMap_cons_some (b := e) (by simp [onWire?, onWire])]
      exact congrArg _ ih

end Outlet

namespace Consumer

variable {c : Consumer} {client : ClientId} {handle : Handle} {frame : ResultFrame}
  {owed owed' : Debts} {log : List (Exchange Outlet)} {outcome : DeliveryOutcome}

/-- A connection that is lost, or that owes a reply, is taken out; any other one is kept. -/
inductive Settles (client : ClientId) (handle : Handle) (reply : Except WireError AckOutcome)
    (log : List (Exchange Outlet)) : Prop where
  | kept : reply ≠ .ok .desynchronised → (∀ e, reply = .error e → e.losesConnection = false) →
      log = [] → Settles client handle reply log
  | removed (current : Bool) :
      ⟨.registry (.removeIfCurrent client handle), current⟩ ∈ log → Settles client handle reply log

theorem Ends.settles {reply : Except WireError AckOutcome} (h : Ends client handle reply log outcome) :
    Settles client handle reply log := by
  cases h with
  | acked => exact .kept (by simp) (by simp) rfl
  | mismatch reply => exact .kept (by simp) (by simp) rfl
  | timedOut => exact .kept (by simp) (by simp) rfl
  | replaced => exact .removed false List.mem_cons_self
  | closed => exact .removed true List.mem_cons_self
  | lost current _ => exact .removed current List.mem_cons_self
  | dropped hkept => exact .kept (by simp) (fun e he => by cases he; exact hkept) rfl

/-- The course of a delivery to a client whose connection was found. -/
theorem run_deliver_of_found
    (hrun : (Outlet.program (c.deliver client frame) owed).Run log (outcome, owed'))
    (hfound : log.head? = some ⟨.registry (.lookup client), some handle⟩) :
    ∃ inner tail reply left,
      log = ⟨.registry (.lookup client), some handle⟩ ::
        (inner.map (Outlet.onWire handle) ++ tail) ∧
      (Link.deliver frame c.ackTimeout (owed handle)).Run inner (reply, left) ∧
      Settles client handle reply tail := by
  cases run_deliver_iff.mp hrun with
  | absent => cases Option.some.inj hfound
  | found hinner hends =>
      cases Option.some.inj hfound
      exact ⟨_, _, _, _, rfl, hinner, hends.settles⟩

end Consumer

variable {c : Consumer} {counts : Countdown} {m : Message} {client : ClientId} {query : QueryId}
  {handle : Handle} {owed owed' : Debts} {log : List (Exchange Outlet)} {s t : Switchboard}
  {outcome : DeliveryOutcome} {counts' : Countdown}

theorem Countdown.remaining?_of_complete {expected : Nat}
    (h : (counts.observe client query expected).1 = .complete) :
    (counts.observe client query expected).2.remaining? client query = none := by
  rw [observe] at h ⊢
  split at h
  · next hlast =>
      rw [if_pos hlast]
      simp [remaining?]
  · cases h

/-- On a connection that is kept a frame that fits is written, unless a reply that was owed is no
text. -/
theorem written_iff_of_kept {inner : List (Exchange Wire)} {frame : ResultFrame}
    {reply : Except WireError AckOutcome} {timeout before left : Nat}
    (hrun : (Link.deliver frame timeout before).Run inner (reply, left))
    (hpasses : s.Passes
      (⟨.registry (.lookup client), some handle⟩ :: inner.map (Outlet.onWire handle)) t)
    (hfits : Fits frame.text) (hstep : reply ≠ .ok .desynchronised)
    (hkept : ∀ e, reply = .error e → e.losesConnection = false) :
    frame.text ∈ sent inner ↔ ¬Link.OwedGarbled before inner := by
  have hsilent : Link.OwedGarbled before inner → frame.text ∉ sent inner := by
    intro hgarbled
    rw [(Link.deliver_of_owedGarbled hrun hgarbled).2]
    exact List.not_mem_nil
  have hwire : ∀ request answer, (⟨request, answer⟩ : Exchange Wire) ∈ inner →
      (⟨.wire handle request, answer⟩ : Exchange Outlet) ∈
        (⟨.registry (.lookup client), some handle⟩ : Exchange Outlet) ::
          inner.map (Outlet.onWire handle) := fun request answer hmem =>
    List.mem_cons_of_mem _ (List.mem_map_of_mem (f := Outlet.onWire handle) hmem)
  rcases Link.deliver_cases hrun with hwritten | ⟨e, rfl, hmem⟩ | hstopped |
    ⟨e, earlier, rfl, hlog, hlength⟩
  · exact ⟨fun _ hgarbled => hsilent hgarbled hwritten, fun _ => hwritten⟩
  · -- A frame that fits is only refused by a lost connection, and that one is not kept.
    have hlost := Switchboard.losesConnection_of_write hfits hpasses (hwire _ _ hmem)
    rw [hkept e rfl] at hlost
    cases hlost
  · exact absurd hstopped hstep
  · -- The read failed on a connection that is not lost: its payload is no text.
    have hread : ⟨.readWithin timeout, some (.error e)⟩ ∈ inner := by
      rw [hlog]
      exact List.mem_append_right _ List.mem_cons_self
    obtain rfl := Switchboard.invalidUtf8_of_read hpasses (hwire _ _ hread) (hkept e rfl)
    have hgarbled : Link.OwedGarbled before inner := ⟨earlier, [], timeout, hlog, hlength⟩
    exact ⟨fun hwritten => absurd hwritten (hsilent hgarbled), fun hnot => absurd hgarbled hnot⟩

/-- When the last message of a query is handled, its count is forgotten; and if its client is still
registered with the connection that was found, then the end of the query was written there, unless a
reply that was owed is no text. -/
theorem endMarker_written_iff
    (hmeta : m.resultMeta = .ok ⟨client, query, .endOfStream⟩)
    (hlast : (counts.observe client query (c.multiplicity.resultCount query)).1 = .complete)
    (hfits : Fits (ResultFrame.text ⟨query, .endOfStream⟩))
    (hrun : (Outlet.program (c.process counts m) owed).Run log ((outcome, counts'), owed'))
    (hpasses : s.Passes log t)
    (hfound : log.head? = some ⟨.registry (.lookup client), some handle⟩) :
    counts'.remaining? client query = none ∧
    (ResultFrame.text ⟨query, .endOfStream⟩ ∈ sent (Outlet.traffic handle log) ∨
        t.registry.get? client ≠ some handle ↔
      ¬(Link.OwedGarbled (owed handle) (Outlet.traffic handle log) ∧
        t.registry.get? client = some handle)) := by
  have hforgotten := Countdown.remaining?_of_complete hlast
  have hframe : c.frameOf counts m = (.ok (client, ⟨query, .endOfStream⟩),
      (counts.observe client query (c.multiplicity.resultCount query)).2) := by
    rw [Consumer.frameOf_end hmeta]
    simp only [hlast]
  rw [Consumer.process, hframe] at hrun
  simp only [Outlet.program_bind] at hrun
  obtain ⟨⟨outcome₁, owed₁⟩, log₁, rest, rfl, hdeliver, hdone⟩ := Program.Run.bind_iff.mp hrun
  obtain ⟨rfl, hresult⟩ := Program.Run.done_iff.mp hdone
  cases hresult
  rw [List.append_nil] at hpasses hfound ⊢
  refine ⟨hforgotten, ?_⟩
  obtain ⟨inner, tail, reply, left, rfl, hinner, hsettles⟩ :=
    Consumer.run_deliver_of_found hdeliver hfound
  cases hsettles with
  | removed current hmem =>
      have hgone := Switchboard.gone_of_lookup hpasses (List.mem_append_right _ hmem)
      exact ⟨fun _ hboth => hgone.2 hboth.2, fun _ => .inr hgone.2⟩
  | kept hstep hkept hnil =>
      subst hnil
      rw [List.append_nil] at hpasses ⊢
      have htraffic : Outlet.traffic handle (⟨.registry (.lookup client), some handle⟩ ::
          inner.map (Outlet.onWire handle)) = inner := Outlet.traffic_onWire inner
      rw [htraffic, written_iff_of_kept hinner hpasses hfits hstep hkept, not_and_or]

/-- A world with one client, whose reads all come out so. -/
def World.withReads (client : ClientId) (handle : Handle) (read : Option (Except WireError String)) :
    World Outlet
  | _, .registry (.lookup client') => if client' = client then some handle else none
  | _, .registry (.insert _ _) => none
  | _, .registry (.removeIfCurrent _ _) => false
  | _, .registry .drain => [handle]
  | _, .registry (.deliver _ _ _) => .ok .acked
  | _, .registry (.close _) => ()
  | _, .registry .stopping => false
  | _, .wire _ .read => read.getD (.error .closed)
  | _, .wire _ (.readWithin _) => read
  | _, .wire _ (.write _) => .ok ()
  | _, .wire _ .shutdown => ()

namespace Switchboard

/-- Nobody is registered. -/
def empty : Switchboard where
  registry := .empty
  channels := fun _ => .opened
  known := []
  registered := by
    intro client handle h
    cases h

theorem unique_empty : empty.Unique := by
  intro client client' handle h
  cases h

theorem Answers.passes {s t : Switchboard} {exchange : Exchange Outlet}
    (h : s.Answers exchange t) : s.Passes [exchange] t :=
  .answer h (.refl t)

/-- A frame is written on the connection of a handle, and nothing is read. -/
theorem passes_unanswered (s : Switchboard) (client : ClientId) (handle : Handle) {payload : String}
    (hget : s.registry.get? client = some handle) (hopen : (s.channels handle).IsOpen)
    (hpending : firstFrame? (s.channels handle).pending = none) (hfits : Fits payload)
    (limit : Nat) : ∃ c, c.IsOpen ∧ c.pending = (s.channels handle).pending ∧
      s.Passes [⟨.registry (.lookup client), some handle⟩, ⟨.wire handle (.write payload), .ok ()⟩,
        ⟨.wire handle (.readWithin limit), none⟩] (s.update handle c) := by
  obtain ⟨c₁, hwrite, hopen₁, hpending₁⟩ := hopen.write hfits
  obtain ⟨c₂, hlook, hopen₂, hpending₂⟩ := hopen₁.look_none (hpending₁ ▸ hpending)
  refine ⟨c₂, hopen₂, hpending₂.trans hpending₁, ?_⟩
  have hlookup := Answers.lookup s client
  rw [hget] at hlookup
  have hsilent := hwrite.passes.append (Channel.Moves.giveUp limit hlook).passes
  exact .answer hlookup (s.passes_of_channel handle hsilent)

end Switchboard

/-- A client that owes nothing gets the end of its query, even if it does not answer. -/
theorem endMarker_written_of_silent_client :
    ∃ log s t,
      (Outlet.program (Consumer.process ⟨⟨.empty, .empty⟩, 100⟩ .empty (.resultEnd ⟨"q"⟩ ⟨"client"⟩))
        (fun _ => 0)).Run log ((.ackTimedOut, .empty), Function.update (fun _ => 0) ⟨0⟩ 1) ∧
      Switchboard.Passes s log t ∧ log.head? = some ⟨.registry (.lookup ⟨"client"⟩), some ⟨0⟩⟩ ∧
      "q\nEOF" ∈ sent (Outlet.traffic ⟨0⟩ log) := by
  let s := Switchboard.empty.join ⟨"client"⟩ ⟨0⟩
  have hfits : Fits (ResultFrame.text ⟨⟨"q"⟩, .endOfStream⟩) := by decide
  obtain ⟨c, -, -, hpasses⟩ := s.passes_unanswered ⟨"client"⟩ ⟨0⟩ rfl Channel.isOpen_opened rfl
    hfits 100
  have hrun := (World.withReads ⟨"client"⟩ ⟨0⟩ none).run_play [] (Outlet.program
    (Consumer.process ⟨⟨.empty, .empty⟩, 100⟩ .empty (.resultEnd ⟨"q"⟩ ⟨"client"⟩)) fun _ => 0)
  refine ⟨_, s, _, hrun, hpasses, rfl, ?_⟩
  have hwritten := (endMarker_written_iff rfl rfl hfits hrun hpasses rfl).2.mpr
    (fun ⟨⟨_, _, _, _, hlength⟩, _⟩ => absurd hlength (Nat.not_lt_zero _))
  exact hwritten.resolve_right fun hgone => hgone rfl

/-- A client answers rows too late and with a byte that is no text. The end of its query is not
written, and it stays registered. -/
theorem endMarker_lost_of_garbled_reply :
    ∃ log₁ log₂ s t owed owed',
      (Outlet.program (Consumer.process ⟨⟨.empty, .empty⟩, 100⟩ .empty
        (.result ⟨"q"⟩ ⟨"client"⟩ [])) (fun _ => 0)).Run log₁ ((.ackTimedOut, .empty), owed) ∧
      Switchboard.empty.Passes log₁ s ∧
      (Outlet.program (Consumer.process ⟨⟨.empty, .empty⟩, 100⟩ .empty
        (.resultEnd ⟨"q"⟩ ⟨"client"⟩)) owed).Run log₂
          ((.undeliverable .invalidUtf8, .empty), owed') ∧
      s.Passes log₂ t ∧ log₂.head? = some ⟨.registry (.lookup ⟨"client"⟩), some ⟨0⟩⟩ ∧
      Fits "q\nEOF" ∧ "q\nEOF" ∉ sent (Outlet.traffic ⟨0⟩ log₂) ∧
      t.registry.get? ⟨"client"⟩ = some ⟨0⟩ := by
  let s₀ := Switchboard.empty.join ⟨"client"⟩ ⟨0⟩
  have hrows : Fits (ResultFrame.text ⟨⟨"q"⟩, .rows ""⟩) := by decide
  obtain ⟨c₁, hopen₁, hpending₁, hpasses₁⟩ := s₀.passes_unanswered ⟨"client"⟩ ⟨0⟩ rfl
    Channel.isOpen_opened rfl hrows 100
  have hrun₁ := (World.withReads ⟨"client"⟩ ⟨0⟩ none).run_play [] (Outlet.program
    (Consumer.process ⟨⟨.empty, .empty⟩, 100⟩ .empty (.result ⟨"q"⟩ ⟨"client"⟩ [])) fun _ => 0)
  let owed : Debts := Function.update (fun _ => 0) ⟨0⟩ 1
  have hrun₂ := (World.withReads ⟨"client"⟩ ⟨0⟩ (some (.error .invalidUtf8))).run_play []
    (Outlet.program
      (Consumer.process ⟨⟨.empty, .empty⟩, 100⟩ .empty (.resultEnd ⟨"q"⟩ ⟨"client"⟩)) owed)
  have hgarbled : firstFrame? (c₁.receive (frameBytes [0xff])).pending = some ([0xff], []) := by
    rw [Channel.pending_receive, hpending₁]
    exact firstFrame?_frameBytes (by decide) []
  obtain ⟨c₂, hlook⟩ := (hopen₁.receive (frameBytes [0xff])).look_garbled hgarbled rfl
  let s₁ := s₀.update ⟨0⟩ c₁
  let s₂ := s₁.update ⟨0⟩ (c₁.receive (frameBytes [0xff]))
  have hpasses₂ : s₂.Passes [⟨.registry (.lookup ⟨"client"⟩), some ⟨0⟩⟩,
      ⟨.wire ⟨0⟩ (.readWithin 100), some (.error .invalidUtf8)⟩] (s₂.update ⟨0⟩ c₂) := by
    have hchannel : s₂.channels ⟨0⟩ = c₁.receive (frameBytes [0xff]) := by
      simp [s₂, Switchboard.update]
    have hread := Channel.Moves.readWithin 100 hlook
    rw [← hchannel] at hread
    exact .answer (Switchboard.Answers.lookup s₂ ⟨"client"⟩) (Switchboard.Answers.wire hread).passes
  have harrive : s₁.Drifts s₂ := by
    have hchannel : c₁ = s₁.channels ⟨0⟩ := by simp [s₁, Switchboard.update]
    have hmoves := Channel.Moves.arrive c₁ (frameBytes [0xff])
    have hmoves' : (s₁.channels ⟨0⟩).Moves (frameBytes [0xff]) []
        (c₁.receive (frameBytes [0xff])) := hchannel ▸ hmoves
    exact .wire hmoves'
  refine ⟨_, _, s₁, s₂.update ⟨0⟩ c₂, owed, _, hrun₁,
    .drift (.join ⟨"client"⟩ List.not_mem_nil) hpasses₁, hrun₂, .drift harrive hpasses₂, rfl,
    by decide, List.not_mem_nil, rfl⟩

end QueryGateway
