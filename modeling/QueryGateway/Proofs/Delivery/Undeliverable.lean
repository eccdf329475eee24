import Mathlib.Logic.Function.Iterate
import QueryGateway.Proofs.Delivery.Isolation
import QueryGateway.Proofs.Wire.Garbled

/-! # Frames that cannot be delivered

A frame that is too long, or a reply that is no text, costs a client one frame, and the client stays
registered. A frame that is too long is refused before a byte of it is written, and the connection
is as good as it was before. A reply that is no text leaves a connection whose next read reports the
end, so that the delivery of the next frame fails, whatever the client does, and takes it out.
-/

namespace QueryGateway

open Wire

/-- Nothing was written; all that the connection was given did not fit into a frame. -/
def Wire.Unwritten (log : List (Exchange Wire)) : Prop :=
  ∀ payload answer, ⟨.write payload, answer⟩ ∈ log →
    ∃ length limit, (answer : Except WireError Unit) = .error (.frameTooLarge length limit)

/-! ## Deliveries that fail -/

namespace Link

variable {frame : ResultFrame} {timeout owed owed' : Nat} {log : List (Exchange Wire)}
  {outcome : Except WireError AckOutcome} {e : WireError}

/-- The frame was written, and what came in place of its reply is no text. -/
def AnswerGarbled (frame : ResultFrame) (log : List (Exchange Wire)) : Prop :=
  ∃ limit, [⟨.write frame.text, .ok ()⟩, ⟨.readWithin limit, some (.error .invalidUtf8)⟩] <:+ log

namespace Drops

/-- If a frame is refused for its length only, and reading fails on what is no text only, then a
frame that is dropped was not written, unless the reply to it is no text. -/
theorem unwritten_iff (h : Drops frame timeout owed log e owed')
    (hread : ⟨.readWithin timeout, some (.error e)⟩ ∈ log → e = .invalidUtf8)
    (hwrite : ⟨.write frame.text, .error e⟩ ∈ log →
      e = .frameTooLarge frame.text.utf8ByteSize maxFrameLength) :
    Unwritten log ↔ ¬AnswerGarbled frame log := by
  have hshort : ∀ x, ¬AnswerGarbled frame [x] := by
    rintro x ⟨limit, hsuffix⟩
    have hlength := hsuffix.length_le
    simp at hlength
  induction h with
  | refused e =>
      refine iff_of_true ?_ (hshort _)
      intro payload answer hmem
      cases List.mem_singleton.mp hmem
      exact ⟨_, _, congrArg Except.error (hwrite List.mem_cons_self)⟩
  | unread e =>
      obtain rfl := hread (by simp)
      refine iff_of_false ?_ (not_not.mpr ⟨timeout, List.suffix_refl _⟩)
      intro hunwritten
      obtain ⟨length, limit, hanswer⟩ := hunwritten frame.text (.ok ()) List.mem_cons_self
      cases hanswer
  | owing owed e =>
      refine iff_of_true ?_ (hshort _)
      intro payload answer hmem
      cases List.mem_singleton.mp hmem
  | @late reply owed owed' log e _ ih =>
      have hsame := ih (fun hmem => hread (List.mem_cons_of_mem _ hmem))
        (fun hmem => hwrite (List.mem_cons_of_mem _ hmem))
      have hother : ∀ (payload : String) (answer : Except WireError Unit),
          (⟨.write payload, answer⟩ : Exchange Wire) ≠
            ⟨.readWithin timeout, some (.ok reply)⟩ := by
        intro payload answer heq
        cases heq
      have hunwritten : Unwritten (⟨.readWithin timeout, some (.ok reply)⟩ :: log) ↔
          Unwritten log := by
        simp only [Unwritten, List.mem_cons, hother, false_or]
      have hgarbled : AnswerGarbled frame (⟨.readWithin timeout, some (.ok reply)⟩ :: log) ↔
          AnswerGarbled frame log := by
        simp only [AnswerGarbled, List.suffix_cons_iff, List.cons.injEq, hother, false_and,
          false_or]
      exact hunwritten.trans (hsame.trans (not_congr hgarbled.symm))

end Drops

/-- The next reply that is read decides about a delivery: a failure ends it, and if no reply is
owed, then the frame was written before. -/
theorem next_reply (hrun : (deliver frame timeout owed).Run log (outcome, owed')) :
    (owed = 0 ∧ ∃ e, outcome = .error e ∧ log = [⟨.write frame.text, .error e⟩]) ∨
      ∃ answer, (replies log).head? = some answer ∧
        (∀ e, answer = some (.error e) → outcome = .error e) ∧
        (owed = 0 → frame.text ∈ sent log ∧
          ∀ reply, answer = some (.ok reply) → outcome = .ok (judge reply)) := by
  cases outcome with
  | error e =>
      cases drops_of_run hrun with
      | refused => exact .inl ⟨rfl, e, rfl, rfl⟩
      | unread => exact .inr ⟨_, rfl, by simp, fun _ => ⟨List.mem_cons_self, by simp⟩⟩
      | owing => exact .inr ⟨_, rfl, by simp, by simp⟩
      | late reply => exact .inr ⟨_, rfl, by simp, by simp⟩
  | ok ack =>
      cases delivers_of_run hrun with
      | timedOut => exact .inr ⟨_, rfl, by simp, fun _ => ⟨List.mem_cons_self, by simp⟩⟩
      | judged reply => exact .inr ⟨_, rfl, by simp, fun _ => ⟨List.mem_cons_self, by simp⟩⟩
      | desynchronised => exact .inr ⟨_, rfl, by simp, by simp⟩
      | late reply => exact .inr ⟨_, rfl, by simp, by simp⟩

end Link

/-! ## Connections on which reading failed -/

theorem Outlet.traffic_found {handle other : Handle} (client : ClientId)
    (first second : List (Exchange Outlet)) :
    traffic handle (⟨.registry (.lookup client), some other⟩ :: (first ++ second)) =
      traffic handle first ++ traffic handle second :=
  traffic_append first second

theorem Outlet.traffic_onWire_of_ne {handle other : Handle} (hne : other ≠ handle)
    (inner : List (Exchange Wire)) : traffic handle (inner.map (onWire other)) = [] := by
  apply List.filterMap_eq_nil_iff.mpr
  intro x hx
  obtain ⟨e, -, rfl⟩ := List.mem_map.mp hx
  simp [onWire?, onWire, hne]

namespace Consumer

variable {c : Consumer} {client : ClientId} {handle other : Handle} {frame : ResultFrame}
  {owed owed' : Debts} {log tail : List (Exchange Outlet)} {outcome : DeliveryOutcome}
  {reply : Except WireError AckOutcome} {s t : Switchboard} {m : Message} {e : WireError}

namespace Ends

/-- Nothing is read after the talk on a link. -/
theorem not_fails (h : Ends client other reply tail outcome) :
    ∀ x ∈ Outlet.traffic handle tail, ¬Fails x := by
  cases h with
  | acked => exact nofun
  | mismatch _ => exact nofun
  | timedOut => exact nofun
  | replaced => exact nofun
  | lost _ _ => exact nofun
  | dropped _ => exact nofun
  | closed =>
      intro x hx
      obtain ⟨y, hy, hwire⟩ := List.mem_filterMap.mp hx
      rcases List.mem_cons.mp hy with rfl | hy
      · cases hwire
      · obtain rfl := List.mem_singleton.mp hy
        simp only [Outlet.onWire?] at hwire
        split at hwire
        · cases hwire
          exact id
        · cases hwire

theorem disconnected (h : Ends client handle (.error e) tail outcome)
    (hlost : e.losesConnection = true) : outcome = .disconnected := by
  cases h with
  | lost _ _ => rfl
  | dropped hkept =>
      rw [hkept] at hlost
      cases hlost

theorem delivered (h : Ends client handle (.ok .acked) tail outcome) : outcome = .delivered := by
  cases h
  rfl

end Ends

/-- A connection on which reading failed is nobody's after the delivery, or the reply is no text. -/
theorem Course.retired_or_garbled (h : c.Course client frame owed log outcome owed')
    (hunique : s.Unique) (hpasses : s.Passes log t) (handle : Handle) :
    t.Retired handle ∨ ∀ x ∈ Outlet.traffic handle log, Fails x → Garbled x := by
  cases h with
  | absent => exact .inr nofun
  | @found other inner tail reply left _ hinner hends =>
      have hinside : ∀ P : Exchange Wire → Prop,
          (∀ x ∈ Outlet.traffic handle (inner.map (Outlet.onWire other)), Fails x → P x) →
          ∀ x ∈ Outlet.traffic handle (⟨.registry (.lookup client), some other⟩ ::
            (inner.map (Outlet.onWire other) ++ tail)), Fails x → P x := by
        intro P hfails x hx
        rw [Outlet.traffic_found] at hx
        rcases List.mem_append.mp hx with hx | hx
        · exact hfails x hx
        · exact fun hfail => absurd hfail (hends.not_fails x hx)
      by_cases hsame : other = handle
      · subst hsame
        rw [Outlet.traffic_onWire] at hinside
        cases hends.settles with
        | removed current hmem =>
            exact .inl (hunique.retired_of_lookup hpasses (List.mem_append_right _ hmem))
        | kept _ hkept _ =>
            refine .inr (hinside _ fun x hx hfail => ?_)
            obtain ⟨e, rfl, rfl⟩ := Link.error_of_fails hinner hx hfail
            have hmem := List.mem_cons_of_mem
              (⟨.registry (.lookup client), some other⟩ : Exchange Outlet)
              (List.mem_append_left tail (List.mem_map_of_mem (f := Outlet.onWire other) hx))
            obtain rfl := Switchboard.invalidUtf8_of_read hpasses hmem (hkept e rfl)
            rfl
      · rw [Outlet.traffic_onWire_of_ne hsame] at hinside
        exact .inr (hinside _ nofun)

/-- What the delivery side may have to go on with between two messages. -/
inductive Reached (c : Consumer) : Dispatch → Prop where
  | start : Reached c ⟨.empty, fun _ => 0, []⟩
  | next {s : Dispatch} (m : Message) {log : List (Exchange Outlet)} {outcome : DeliveryOutcome}
      {counts : Countdown} {owed : Debts} : Reached c s →
        (Outlet.program (c.process s.counts m) s.owed).Run log ((outcome, counts), owed) →
        Reached c ⟨counts, owed, s.past ++ log⟩

/-- All that was read on a connection that is still somebody's is text, or else no text came. -/
theorem Reached.retired_or_garbled {s : Dispatch} (h : c.Reached s)
    (hpasses : Switchboard.empty.Passes s.past t) (handle : Handle) :
    t.Retired handle ∨ ∀ x ∈ Outlet.traffic handle s.past, Fails x → Garbled x := by
  induction h generalizing t with
  | start => exact .inr nofun
  | next m _ hrun ih =>
      obtain ⟨u, hbefore, hturn⟩ := hpasses.of_append
      rcases ih hbefore with hretired | hgarbled
      · exact .inl (hretired.passes hturn)
      · rw [Outlet.traffic_append]
        rcases run_process_iff.mp hrun with ⟨-, rfl, -⟩ | ⟨client, frame, -, hcourse⟩
        · exact .inr (by simpa [Outlet.traffic] using hgarbled)
        · rcases hcourse.retired_or_garbled (Switchboard.unique_empty.passes hbefore) hturn
            handle with hretired | hnew
          · exact .inl hretired
          · exact .inr fun x hx => (List.mem_append.mp hx).elim (hgarbled x) (hnew x)

/-! ## The next frame -/

/-- A turn in which there is a frame for a client, and the client is found with a connection on
which `debt` replies are owed. -/
structure FollowUp (c : Consumer) (client : ClientId) (handle : Handle) (debt : Nat) (ch : Channel)
    (frame : ResultFrame) (arrived : Bytes) (t : Turn) (ch' : Channel) : Prop where
  fits : Fits frame.text
  run : ∃ counts counts' owed owed', owed handle = debt ∧
    c.frameOf counts t.message = (.ok (client, frame), counts') ∧
    (Outlet.program (c.process counts t.message) owed).Run t.log ((t.outcome, counts'), owed')
  found : t.log.head? = some ⟨.registry (.lookup client), some handle⟩
  passes : ch.Passes arrived (Outlet.traffic handle t.log) ch'

/-- The other side acknowledges in time what is written meanwhile. -/
structure Attends (ch : Channel) (arrived : Bytes) (traffic : List (Exchange Wire))
    (ch' : Channel) : Prop where
  /-- The first reply that was not read yet is an acknowledgement. -/
  acknowledges : ∃ reply rest, firstFrame? (ch.pending ++ arrived) = some (.ofText reply, rest) ∧
    Text.trim reply = resultAck
  inTime : none ∉ replies traffic
  calm : ∀ x ∈ traffic, ¬Breaks x
  stays : ch'.inlet.ended = false

/-- A frame that fits is delivered to a client that acknowledges it, and nothing is in the way of
that. -/
structure Usable (c : Consumer) (client : ClientId) (handle : Handle) (debt : Nat)
    (ch : Channel) : Prop where
  delivers : ∀ frame arrived t ch', c.FollowUp client handle debt ch frame arrived t ch' →
    Attends ch arrived (Outlet.traffic handle t.log) ch' →
    t.outcome = .delivered ∧ frame.text ∈ sent (Outlet.traffic handle t.log)
  possible : ∀ counts m frame counts' arrived reply rest,
    c.frameOf counts m = (.ok (client, frame), counts') → Fits frame.text →
    firstFrame? (ch.pending ++ arrived) = some (.ofText reply, rest) →
    Text.trim reply = resultAck → ch.inlet.ended = false →
    ∃ t ch', t.message = m ∧ c.FollowUp client handle debt ch frame arrived t ch' ∧
      Attends ch arrived (Outlet.traffic handle t.log) ch'

/-- Whatever the client does, the delivery of the next frame for it fails and takes it out. -/
def Spent (c : Consumer) (client : ClientId) (handle : Handle) (debt : Nat) (ch : Channel) : Prop :=
  ∀ frame arrived t ch', c.FollowUp client handle debt ch frame arrived t ch' →
    t.outcome = .disconnected

theorem FollowUp.course {debt : Nat} {ch ch' : Channel} {arrived : Bytes} {turn : Turn}
    (h : c.FollowUp client handle debt ch frame arrived turn ch') :
    ∃ inner tail reply left, (Link.deliver frame c.ackTimeout debt).Run inner (reply, left) ∧
      Ends client handle reply tail turn.outcome ∧
      Outlet.traffic handle turn.log = inner ++ Outlet.traffic handle tail := by
  obtain ⟨counts, counts', owed, owed', rfl, hframe, hrun⟩ := h.run
  have hfound := h.found
  rcases run_process_iff.mp hrun with ⟨hother, -⟩ | ⟨client', frame', hsame, hcourse⟩
  · rw [hframe] at hother
    cases hother
  · rw [hframe] at hsame
    cases hsame
    generalize turn.log = log, turn.outcome = outcome at hcourse hfound ⊢
    cases hcourse with
    | absent => cases Option.some.inj hfound
    | found hinner hends =>
        cases Option.some.inj hfound
        refine ⟨_, _, _, _, hinner, hends, ?_⟩
        rw [Outlet.traffic_found, Outlet.traffic_onWire]

variable {ch ch' : Channel}

/-- On a channel in order the frame is written, and the reply that comes next is its reply. -/
theorem FollowUp.delivered {arrived : Bytes} {turn : Turn} (h : ch.Sane)
    (hfollow : c.FollowUp client handle 0 ch frame arrived turn ch')
    (hattends : Attends ch arrived (Outlet.traffic handle turn.log) ch') :
    turn.outcome = .delivered ∧ frame.text ∈ sent (Outlet.traffic handle turn.log) := by
  obtain ⟨inner, tail, reply, left, hinner, hends, htraffic⟩ := hfollow.course
  have hgoes := Channel.goes_of_passes hfollow.passes hattends.stays
  obtain ⟨text, rest, hframe, hack⟩ := hattends.acknowledges
  have hnext := (h.isOpen hgoes).head_replies hfollow.passes hattends.stays hframe hattends.calm
  rcases Link.next_reply hinner with ⟨-, e, rfl, rfl⟩ | ⟨answer, hanswer, -, hwritten⟩
  · have hmem : (⟨.write frame.text, .error e⟩ : Exchange Wire) ∈
        Outlet.traffic handle turn.log := by
      rw [htraffic]
      exact List.mem_append_left _ List.mem_cons_self
    obtain ⟨fault, rfl⟩ := Channel.breaks_of_write hfollow.fits hfollow.passes hmem
    exact absurd ⟨fault, rfl⟩ (hattends.calm _ hmem)
  · obtain ⟨hsent, hjudged⟩ := hwritten rfl
    have hhead := head_replies_append hanswer (Outlet.traffic handle tail)
    rw [← htraffic] at hhead
    rcases hnext answer hhead with rfl | rfl
    · exact absurd (List.mem_of_head? hhead) hattends.inTime
    · have hjudge : Link.judge text = .acked := if_pos hack
      rw [hjudged text rfl, hjudge] at hends
      rw [htraffic, sent_append]
      exact ⟨hends.delivered, List.mem_append_left _ hsent⟩

/-- As long as a channel in order goes on, a frame can be written and its reply can be read. -/
theorem exists_followUp {arrived rest : Bytes} {counts counts' : Countdown} {reply : String}
    (h : ch.Sane) (hframe : c.frameOf counts m = (.ok (client, frame), counts'))
    (hfits : Fits frame.text)
    (harrived : firstFrame? (ch.pending ++ arrived) = some (.ofText reply, rest))
    (hack : Text.trim reply = resultAck) (hgoes : ch.inlet.ended = false) :
    ∃ turn ch', turn.message = m ∧ c.FollowUp client handle 0 ch frame arrived turn ch' ∧
      Attends ch arrived (Outlet.traffic handle turn.log) ch' := by
  obtain ⟨c₁, hwrite, hopen₁, hpending₁⟩ := (h.isOpen hgoes).write hfits
  have hready : firstFrame? (c₁.receive arrived).pending = some (.ofText reply, rest) := by
    rw [Channel.pending_receive, hpending₁]
    exact harrived
  obtain ⟨c₂, hlook, hopen₂, -⟩ := (hopen₁.receive arrived).look_text hready
  have hpasses : ch.Passes arrived [⟨.write frame.text, .ok ()⟩,
      ⟨.readWithin c.ackTimeout, some (.ok reply)⟩] c₂ := by
    have hall := hwrite.passes.append ((Channel.Moves.arrive c₁ arrived).passes.append
      (Channel.Moves.readWithin c.ackTimeout hlook).passes)
    simpa using hall
  have hjudge : Link.judge reply = .acked := if_pos hack
  have hinner : (Link.deliver frame c.ackTimeout 0).Run _ (.ok (Link.judge reply), 0) :=
    (Link.Delivers.judged reply).run
  rw [hjudge] at hinner
  have hrun : (Outlet.program (c.process counts m) fun _ => 0).Run _ _ :=
    run_process_of_found handle hframe hinner .acked
  have htraffic : Outlet.traffic handle (⟨.registry (.lookup client), some handle⟩ ::
      ([⟨.write frame.text, .ok ()⟩, ⟨.readWithin c.ackTimeout, some (.ok reply)⟩].map
        (Outlet.onWire handle) ++ [])) = _ := Outlet.traffic_found client _ _
  rw [Outlet.traffic_onWire] at htraffic
  refine ⟨⟨m, _, .delivered⟩, c₂, rfl,
    ⟨hfits, ⟨counts, counts', _, _, rfl, hframe, hrun⟩, rfl, ?_⟩,
    ⟨⟨reply, rest, harrived, hack⟩, ?_, ?_, hopen₂.inlet⟩⟩
  · rw [htraffic]
    exact hpasses
  · rw [htraffic]
    simp [replies, reply?, Outlet.traffic]
  · rw [htraffic]
    intro x hx
    rcases List.mem_cons.mp hx with rfl | hx
    · rintro ⟨fault, hfault⟩
      cases hfault
    · obtain rfl := List.mem_singleton.mp hx
      rintro ⟨fault, hfault⟩
      cases hfault

theorem usable_of_sane (h : ch.Sane) : c.Usable client handle 0 ch :=
  ⟨fun _ _ _ _ hfollow hattends => hfollow.delivered h hattends,
    fun _ _ _ _ _ _ _ hframe hfits harrived hack hgoes =>
      exists_followUp h hframe hfits harrived hack hgoes⟩

theorem spent_of_failed {debt : Nat} (h : ch.connection.failed = true) :
    c.Spent client handle debt ch := by
  intro frame arrived turn ch' hfollow
  obtain ⟨inner, tail, reply, left, hinner, hends, htraffic⟩ := hfollow.course
  rcases Link.next_reply hinner with ⟨-, e, rfl, rfl⟩ | ⟨answer, hanswer, hfails, -⟩
  · have hmem : (⟨.write frame.text, .error e⟩ : Exchange Wire) ∈
        Outlet.traffic handle turn.log := by
      rw [htraffic]
      exact List.mem_append_left _ List.mem_cons_self
    obtain ⟨fault, rfl⟩ := Channel.breaks_of_write hfollow.fits hfollow.passes hmem
    exact hends.disconnected rfl
  · have hhead := head_replies_append hanswer (Outlet.traffic handle tail)
    rw [← htraffic] at hhead
    have hclosed := Channel.head_replies_of_failed h hfollow.passes answer hhead
    rw [hfails _ hclosed] at hends
    exact hends.disconnected rfl

/-! ## Frames that are dropped -/

theorem frameOf_ne_undeliverable {counts : Countdown} :
    (c.frameOf counts m).1 ≠ .error (.undeliverable e) := by
  cases m.content with
  | malformed e hmeta => simp [frameOf_malformed hmeta]
  | badRows client query e hmeta hbody => simp [frameOf_badRows hmeta hbody]
  | rows client query rows hmeta hbody => simp [frameOf_rows hmeta hbody]
  | ends client query hmeta =>
      rw [frameOf_end hmeta]
      generalize counts.observe client query (c.multiplicity.resultCount query) = step
      obtain ⟨_ | remaining, _⟩ := step
      · simp
      · simp

/-- A turn whose frame could not be delivered talks on the connection that was found, and does
nothing else. -/
theorem drops_of_run {s : Dispatch} {counts : Countdown}
    (hrun : (Outlet.program (c.process s.counts m) s.owed).Run log
      ((.undeliverable e, counts), owed)) :
    ∃ client handle frame inner left,
      c.frameOf s.counts m = (.ok (client, frame), counts) ∧
      log = ⟨.registry (.lookup client), some handle⟩ :: inner.map (Outlet.onWire handle) ∧
      Link.Drops frame c.ackTimeout (s.owed handle) inner e left ∧
      owed = Function.update s.owed handle left ∧ e.losesConnection = false := by
  rcases run_process_iff.mp hrun with ⟨hdropped, -⟩ | ⟨client, frame, hframe, hcourse⟩
  · exact absurd (congrArg Prod.fst hdropped) frameOf_ne_undeliverable
  · cases hcourse with
    | found hinner hends =>
        cases hends with
        | dropped hkept =>
            rw [List.append_nil]
            exact ⟨client, _, frame, _, _, hframe, rfl, Link.drops_of_run hinner, rfl, hkept⟩

end Consumer

theorem Registry.afterAll_onWire (registry : Registry) (handle : Handle)
    (inner : List (Exchange Wire)) :
    registry.afterAll (inner.map (Outlet.onWire handle)) = registry := by
  induction inner with
  | nil => rfl
  | cons _ _ ih => exact ih

/-- What a turn leaves behind whose frame could not be delivered. -/
structure Leaves (c : Consumer) (s : Dispatch) (log : List (Exchange Outlet)) (owed : Debts)
    (client : ClientId) (handle : Handle) (frame : ResultFrame) : Prop where
  found : log.head? = some ⟨.registry (.lookup client), some handle⟩
  /-- Nobody is taken out. -/
  registered : ∀ registry : Registry, registry.afterAll log = registry
  unwritten : Unwritten (Outlet.traffic handle log) ↔
    ¬Link.AnswerGarbled frame (Outlet.traffic handle log)
  /-- If all replies that were read since the client was greeted are text, then the connection can
  be used as before. -/
  usable : ∀ greeting arrived ch, (∀ x ∈ greeting, ¬Fails x) →
    Channel.opened.Passes arrived (greeting ++ Outlet.traffic handle (s.past ++ log)) ch →
    (∀ x ∈ Outlet.traffic handle (s.past ++ log), ¬Garbled x) →
    c.Usable client handle (owed handle) ch
  /-- If one of them is not, then the connection is of no use. -/
  spent : ∀ greeting arrived ch, (∀ x ∈ greeting, ¬Fails x) →
    Channel.opened.Passes arrived (greeting ++ Outlet.traffic handle (s.past ++ log)) ch →
    (∃ x ∈ Outlet.traffic handle (s.past ++ log), Garbled x) →
    c.Spent client handle (owed handle) ch

variable {c : Consumer} {s : Dispatch} {m : Message} {log : List (Exchange Outlet)} {e : WireError}
  {counts : Countdown} {owed : Debts} {t : Switchboard}

/-- When a frame could not be delivered, its client stays registered, and the frame was not written
unless the reply to it is no text. The client gets the next frame if all its replies were text; if
one was not, then the next delivery takes the client out. -/
theorem undeliverable_scope (hreached : c.Reached s)
    (hrun : (Outlet.program (c.process s.counts m) s.owed).Run log
      ((.undeliverable e, counts), owed))
    (hpasses : Switchboard.empty.Passes (s.past ++ log) t) :
    ∃ client handle frame, c.frameOf s.counts m = (.ok (client, frame), counts) ∧
      Leaves c s log owed client handle frame := by
  obtain ⟨client, handle, frame, inner, left, hframe, rfl, hdrops, rfl, hkept⟩ :=
    Consumer.drops_of_run hrun
  obtain ⟨u, hbefore, hturn⟩ := hpasses.of_append
  have hwire : ∀ {x}, x ∈ inner → Outlet.onWire handle x ∈
      (⟨.registry (.lookup client), some handle⟩ : Exchange Outlet) ::
        inner.map (Outlet.onWire handle) := fun hx =>
    List.mem_cons_of_mem _ (List.mem_map_of_mem hx)
  have hread : ⟨.readWithin c.ackTimeout, some (.error e)⟩ ∈ inner → e = .invalidUtf8 :=
    fun hx => Switchboard.invalidUtf8_of_read hturn (hwire hx) hkept
  have hwrite : ⟨.write frame.text, .error e⟩ ∈ inner →
      e = .frameTooLarge frame.text.utf8ByteSize maxFrameLength := by
    intro hx
    obtain ⟨c₁, c₂, bytes, hmoves⟩ := Switchboard.exists_moves_of_mem hturn (hwire hx)
    rcases hmoves.error_of_write with ⟨fault, rfl⟩ | ⟨-, hlong⟩
    · cases hkept
    · exact hlong
  have htraffic : Outlet.traffic handle (⟨.registry (.lookup client), some handle⟩ ::
      inner.map (Outlet.onWire handle)) = inner := Outlet.traffic_onWire inner
  -- The handle was found, so no read failed on its connection except on what is no text.
  have hreads : ∀ x ∈ Outlet.traffic handle s.past ++ inner, Fails x → Garbled x := by
    intro x hx hfails
    rcases List.mem_append.mp hx with hx | hx
    · have hpast := (hreached.retired_or_garbled hbefore handle).resolve_left
        fun hretired => hretired.not_lookup hturn
      exact hpast x hx hfails
    · obtain rfl := hdrops.eq_of_fails x hx hfails
      rw [hread hx]
      rfl
  refine ⟨client, handle, frame, hframe, rfl, fun registry => ?_, ?_, ?_, ?_⟩
  · exact Registry.afterAll_onWire registry handle inner
  · rw [htraffic]
    exact hdrops.unwritten_iff hread hwrite
  · intro greeting arrived ch hgreeting hch hnone
    rw [Outlet.traffic_append, htraffic] at hch hnone
    have hleft : left = 0 := by
      rcases hdrops.read_or_refused with hx | ⟨-, hzero⟩
      · have hmem := List.mem_append_right (Outlet.traffic handle s.past) hx
        exact absurd (hreads _ hmem ⟨e, rfl⟩) (hnone _ hmem)
      · exact hzero
    rcases Channel.heard_of_greeting hch hgreeting hreads with ⟨⟨x, hx, hgarbled⟩, -⟩ | ⟨-, hsane⟩
    · exact absurd hgarbled (hnone x hx)
    · rw [Function.update_self, hleft]
      exact Consumer.usable_of_sane hsane
  · intro greeting arrived ch hgreeting hch hsome
    rw [Outlet.traffic_append, htraffic] at hch hsome
    rcases Channel.heard_of_greeting hch hgreeting hreads with ⟨-, hfailed⟩ | ⟨hnone, -⟩
    · exact Consumer.spent_of_failed hfailed
    · exact absurd hsome hnone

theorem utf8ByteSize_iterate (n : Nat) :
    ((fun s : String => s ++ "x")^[n] "").utf8ByteSize = n := by
  induction n with
  | zero => rfl
  | succ n ih =>
      rw [Function.iterate_succ_apply', String.utf8ByteSize_append, ih]
      rfl

/-- Rows that are too long are refused, and the connection is as good as new. -/
theorem client_usable_after_long_rows :
    ∃ rows log t, ¬Fits (ResultFrame.text ⟨⟨"q"⟩, .rows rows⟩) ∧
      (Outlet.program (Consumer.process ⟨⟨.empty, .empty⟩, 100⟩ .empty
        (.result ⟨"q"⟩ ⟨"client"⟩ (.ofText rows))) (fun _ => 0)).Run log
          ((.undeliverable (.frameTooLarge (ResultFrame.text ⟨⟨"q"⟩, .rows rows⟩).utf8ByteSize
            maxFrameLength), .empty), fun _ => 0) ∧
      Switchboard.empty.Passes log t ∧
      log.head? = some ⟨.registry (.lookup ⟨"client"⟩), some ⟨0⟩⟩ ∧
      Unwritten (Outlet.traffic ⟨0⟩ log) ∧
      Consumer.Usable ⟨⟨.empty, .empty⟩, 100⟩ ⟨"client"⟩ ⟨0⟩ 0 .opened := by
  let c : Consumer := ⟨⟨.empty, .empty⟩, 100⟩
  let rows : String := (fun s => s ++ "x")^[65536] ""
  let frame : ResultFrame := ⟨⟨"q"⟩, .rows rows⟩
  let e : WireError := .frameTooLarge frame.text.utf8ByteSize maxFrameLength
  have hlong : ¬Fits frame.text := by
    have htext : frame.text = "q\n" ++ rows := rfl
    rw [Fits, htext, String.utf8ByteSize_append, utf8ByteSize_iterate 65536]
    decide
  have hframe : c.frameOf .empty (.result ⟨"q"⟩ ⟨"client"⟩ (.ofText rows)) =
      (.ok (⟨"client"⟩, frame), .empty) :=
    Consumer.frameOf_rows (Message.resultMeta_result (by decide) (by decide) _)
      (Message.bodyText_result rows)
  have hrun : (Outlet.program (c.process .empty (.result ⟨"q"⟩ ⟨"client"⟩ (.ofText rows)))
      fun _ => 0).Run _ _ :=
    Consumer.run_process_of_found ⟨0⟩ hframe (Link.Drops.refused e).run (.dropped rfl)
  rw [Function.update_eq_self] at hrun
  have hwrite : Channel.opened.connection.write frame.text true =
      (.error e, Channel.opened.connection) := by
    have hencode : encodeFrame frame.text = .error e := if_neg hlong
    simp [Connection.write, hencode]
  have hmoves : Channel.opened.Moves [] [⟨.write frame.text, .error e⟩] .opened := .write hwrite
  let s := Switchboard.empty.join ⟨"client"⟩ ⟨0⟩
  have hpasses := Switchboard.Passes.drift (.join ⟨"client"⟩ List.not_mem_nil)
    (.answer (.lookup s ⟨"client"⟩) (s.passes_of_channel ⟨0⟩ hmoves.passes))
  obtain ⟨client, handle, frame', hframe', hleaves⟩ :=
    undeliverable_scope (s := ⟨.empty, fun _ => 0, []⟩) .start hrun hpasses
  cases hframe.symm.trans hframe'
  cases Option.some.inj hleaves.found
  refine ⟨rows, _, _, hlong, hrun, hpasses, rfl, ?_, ?_⟩
  · apply hleaves.unwritten.mpr
    rintro ⟨limit, hsuffix⟩
    have hlength := hsuffix.length_le
    cases Nat.le_of_succ_le_succ hlength
  · apply hleaves.usable [] [] .opened
    · exact fun x hx => absurd hx List.not_mem_nil
    · exact hmoves.passes
    · intro x hx
      obtain rfl := List.mem_singleton.mp hx
      exact id

/-- A client answers rows too late and with a byte that is no text, so that the next rows cannot be
delivered. The rows after these are lost, though the client acknowledges in time. -/
theorem client_lost_after_garbled_reply :
    ∃ s log counts owed t arrived ch turn ch',
      Consumer.Reached ⟨⟨.empty, .empty⟩, 100⟩ s ∧
      (Outlet.program (Consumer.process ⟨⟨.empty, .empty⟩, 100⟩ s.counts
        (.result ⟨"q"⟩ ⟨"client"⟩ (.ofText "b"))) s.owed).Run log
          ((.undeliverable .invalidUtf8, counts), owed) ∧
      Switchboard.empty.Passes (s.past ++ log) t ∧ t.registry.get? ⟨"client"⟩ = some ⟨0⟩ ∧
      log.head? = some ⟨.registry (.lookup ⟨"client"⟩), some ⟨0⟩⟩ ∧
      Channel.opened.Passes arrived (Outlet.traffic ⟨0⟩ (s.past ++ log)) ch ∧
      turn.message = .result ⟨"q"⟩ ⟨"client"⟩ (.ofText "d") ∧
      Consumer.FollowUp ⟨⟨.empty, .empty⟩, 100⟩ ⟨"client"⟩ ⟨0⟩ (owed ⟨0⟩) ch ⟨⟨"q"⟩, .rows "d"⟩
        (frameBytes (.ofText "RESULT_ACK")) turn ch' ∧
      Consumer.Attends ch (frameBytes (.ofText "RESULT_ACK")) (Outlet.traffic ⟨0⟩ turn.log) ch' ∧
      turn.outcome = .disconnected ∧ "q\nd" ∉ sent (Outlet.traffic ⟨0⟩ turn.log) := by
  let c : Consumer := ⟨⟨.empty, .empty⟩, 100⟩
  let rows (body : String) : Message := .result ⟨"q"⟩ ⟨"client"⟩ (.ofText body)
  let failed : Channel := ⟨⟨.empty, true, false, true, 0⟩, ⟨[], false⟩⟩
  let owed : Debts := Function.update (fun _ => 0) ⟨0⟩ 1
  let ack : Bytes := frameBytes (.ofText "RESULT_ACK")
  have hframe : ∀ body, c.frameOf .empty (rows body) =
      (.ok (⟨"client"⟩, ⟨⟨"q"⟩, .rows body⟩), .empty) := fun body =>
    Consumer.frameOf_rows (Message.resultMeta_result (by decide) (by decide) _)
      (Message.bodyText_result body)
  have hrun₁ : (Outlet.program (c.process .empty (rows "a")) fun _ => 0).Run _ _ :=
    Consumer.run_process_of_found ⟨0⟩ (hframe "a") Link.Delivers.timedOut.run .timedOut
  have hrun₂ : (Outlet.program (c.process .empty (rows "b")) owed).Run _ _ :=
    Consumer.run_process_of_found ⟨0⟩ (hframe "b") (Link.Drops.owing 0 .invalidUtf8).run
      (.dropped rfl)
  have hrun₃ : (Outlet.program (c.process .empty (rows "d")) (Function.update owed ⟨0⟩ 1)).Run
      _ _ :=
    Consumer.run_process_of_found ⟨0⟩ (hframe "d") (Link.Drops.owing 0 .closed).run
      (.lost true rfl)
  have hwritten : Channel.opened.connection.write "q\na" true =
      (.ok (frameBytes (.ofText "q\na")), Channel.opened.connection) := rfl
  have hwrite : Channel.opened.Moves [] [⟨.write "q\na", .ok ()⟩] .opened := .write hwritten
  have hsilent : Channel.opened.Passes [] _ .opened :=
    hwrite.passes.append (Channel.Moves.giveUp 100 rfl).passes
  have hgarbled : Channel.opened.Passes (frameBytes [0xff])
      [⟨.readWithin 100, some (.error .invalidUtf8)⟩] failed :=
    (Channel.Moves.arrive .opened (frameBytes [0xff])).passes.append
      (Channel.Moves.readWithin 100 rfl).passes
  have hclosed : failed.Passes ack [⟨.readWithin 100, some (.error .closed)⟩]
      (Channel.opened.receive ack) :=
    (Channel.Moves.arrive failed ack).passes.append (Channel.Moves.readWithin 100 rfl).passes
  let s₀ := Switchboard.empty.join ⟨"client"⟩ ⟨0⟩
  let s₁ := s₀.update ⟨0⟩ .opened
  have hpasses₁ := Switchboard.Passes.drift (.join ⟨"client"⟩ List.not_mem_nil)
    (.answer (.lookup s₀ ⟨"client"⟩) (s₀.passes_of_channel ⟨0⟩ hsilent))
  have hpasses₂ := Switchboard.Passes.answer (.lookup s₁ ⟨"client"⟩)
    (s₁.passes_of_channel ⟨0⟩ hgarbled)
  have hack : firstFrame? (failed.pending ++ ack) = some (.ofText "RESULT_ACK", []) :=
    firstFrame?_frameBytes (by decide) []
  refine ⟨_, _, _, _, _, _, failed, ⟨rows "d", _, _⟩, _, .next (rows "a") .start hrun₁, hrun₂,
    hpasses₁.append hpasses₂, rfl, rfl, hsilent.append hgarbled, rfl,
    ⟨by decide, ⟨_, _, _, _, rfl, hframe "d", hrun₃⟩, rfl, hclosed⟩,
    ⟨⟨"RESULT_ACK", [], hack, by decide⟩, ?_, ?_, rfl⟩, rfl, ?_⟩
  · intro hnone
    cases List.mem_singleton.mp hnone
  · intro x hx
    obtain rfl := List.mem_singleton.mp hx
    rintro ⟨fault, hfault⟩
    cases hfault
  · exact List.not_mem_nil

end QueryGateway
