import QueryGateway.Proofs.Uplink.Rank

/-! # What a producer and its session keep to

At most one frame and at most one acknowledgement are on their way. Where they are says what the
producer and its session can do next, and every step leaves less to do. This goes on up to the call
at which the router breaks off, if there is one.
-/

namespace QueryGateway.Uplink

open Ingest Producer

/-! ## Phases of a call -/

/-- The session turns to the next frame. -/
def Ready (session : Session.Activity) : Prop :=
  ∃ summary, session = .reading summary ∨ session = .handling (.done (.again summary))

theorem Ready.eq_done {program : Program Ingest Session.Turn} (h : Ready (.handling program)) :
    ∃ summary, program = .done (.again summary) := by
  obtain ⟨summary, hreading | hdone⟩ := h
  · cases hreading
  · cases hdone
    exact ⟨summary, rfl⟩

theorem not_ready_perform {request : Ingest.Request}
    {next : Ingest.Answer request → Program Ingest Session.Turn} :
    ¬Ready (.handling (.perform (I := Ingest) request next)) := by
  intro hready
  cases hready.eq_done.choose_spec

theorem not_ready_over {result : Except SessionError SessionSummary} :
    ¬Ready (.handling (.done (.over result))) := by
  intro hready
  cases hready.eq_done.choose_spec

theorem not_ready_stopped {result : Except SessionError SessionSummary} :
    ¬Ready (.stopped result) := by
  rintro ⟨summary, hreading | hdone⟩
  · cases hreading
  · cases hdone

def ackText (p : Producer) (call : Call) : String :=
  (Ack.ofHeader (call.header p)).text

/-- A producer `p`, the texts on their way to its session and back, and the session. Then come what
the session has still to publish for the call that is being made, the reply that the call owes, and
the producer after it. -/
inductive Phase (r : Router) (p : Producer) : Option (Program Wire (Reply × Producer)) →
    List String → List String → Session.Activity →
    List (String × Message) → List Reply → Producer → Prop where
  | idle {session : Session.Activity} : Ready session → Phase r p none [] [] session [] [] p
  | calling {call : Call} {session : Session.Activity} : call.IsProper p →
      ¬call.BreaksOff r p → Ready session →
      Phase r p (some (call.run p)) [] [] session (call.offers r p) [call.reply p] (call.next p)
  | asked {call : Call} {program : Program Wire (Reply × Producer)} {session : Session.Activity} :
      call.IsProper p → ¬call.BreaksOff r p →
      Awaits program (ackText p call) (call.reply p, call.next p) → Ready session →
      Phase r p (some program) [call.frame p] [] session (call.offers r p) [call.reply p]
        (call.next p)
  | handling {call : Call} {program : Program Wire (Reply × Producer)}
      {handler : Program Ingest Session.Turn} {due : List (String × Message)}
      {summary : SessionSummary} :
      call.IsProper p → Awaits program (ackText p call) (call.reply p, call.next p) →
      smooth handler =
        (due.map .ofOffer ++ [.acknowledge (.ofHeader (call.header p))], .again summary) →
      Phase r p (some program) [] [] (.handling handler) due [call.reply p] (call.next p)
  | answered {program : Program Wire (Reply × Producer)} {answer : String} {reply : Reply}
      {p' : Producer} {session : Session.Activity} :
      Awaits program answer (reply, p') → Ready session →
      Phase r p (some program) [] [answer] session [] [reply] p'
  | returned {reply : Reply} {p' : Producer} {session : Session.Activity} : Ready session →
      Phase r p (some (.done (reply, p'))) [] [] session [] [reply] p'

namespace Phase

variable {r : Router} {p : Producer} {now : Option (Program Wire (Reply × Producer))}
  {ups downs : List String} {session : Session.Activity} {due : List (String × Message)}
  {owed : List Reply} {after : Producer}

theorem begin (h : Phase r p now ups downs session due owed after) (hnow : now = none) :
    ups = [] ∧ downs = [] ∧ due = [] ∧ owed = [] ∧ after = p ∧ Ready session := by
  cases h with
  | idle hready => exact ⟨rfl, rfl, rfl, rfl, rfl, hready⟩
  | calling _ _ _ => cases hnow
  | asked _ _ _ _ => cases hnow
  | handling _ _ _ => cases hnow
  | answered _ _ => cases hnow
  | returned _ => cases hnow

theorem write {payload : String}
    {next : Except WireError Unit → Program Wire (Reply × Producer)}
    (h : Phase r p now ups downs session due owed after)
    (hnow : now = some (.perform (I := Wire) (.write payload) next)) :
    ups = [] ∧ Fits payload ∧ (∃ next', next (.ok ()) = .perform (I := Wire) .read next') ∧
      Phase r p (some (next (.ok ()))) [payload] downs session due owed after := by
  cases h with
  | idle _ => cases hnow
  | calling hproper hkept hready =>
      obtain ⟨next', hrun, hawaits⟩ := hproper.asks_run
      rw [hrun] at hnow
      cases hnow
      exact ⟨rfl, hproper.fits, hawaits.imp fun _ hread => hread.1,
        .asked hproper hkept hawaits hready⟩
  | asked _ _ hawaits _ => cases hnow; cases hawaits.choose_spec.1
  | handling _ hawaits _ => cases hnow; cases hawaits.choose_spec.1
  | answered hawaits _ => cases hnow; cases hawaits.choose_spec.1
  | returned _ => cases hnow

theorem read {text : String} {rest : List String}
    {next : Except WireError String → Program Wire (Reply × Producer)}
    (h : Phase r p now ups downs session due owed after)
    (hnow : now = some (.perform (I := Wire) .read next)) (hdowns : downs = text :: rest) :
    rest = [] ∧ (∃ result, next (.ok text) = .done result) ∧
      Phase r p (some (next (.ok text))) ups [] session due owed after := by
  cases h with
  | idle _ => cases hnow
  | calling _ _ _ => cases hdowns
  | asked _ _ _ _ => cases hdowns
  | handling _ _ _ => cases hdowns
  | answered hawaits hready =>
      cases hnow
      cases hdowns
      obtain ⟨next', hnext, hresult⟩ := hawaits
      cases hnext
      rw [hresult]
      exact ⟨rfl, ⟨_, rfl⟩, .returned hready⟩
  | returned _ => cases hnow

theorem finish {reply : Reply} {p' : Producer}
    (h : Phase r p now ups downs session due owed after) (hnow : now = some (.done (reply, p'))) :
    due = [] ∧ owed = [reply] ∧ after = p' ∧ Phase r p' none ups downs session [] [] p' := by
  cases h with
  | idle _ => cases hnow
  | calling hproper _ _ =>
      obtain ⟨next', hrun, -⟩ := hproper.asks_run
      rw [hrun] at hnow
      cases hnow
  | asked _ _ hawaits _ => cases hnow; cases hawaits.choose_spec.1
  | handling _ hawaits _ => cases hnow; cases hawaits.choose_spec.1
  | answered hawaits _ => cases hnow; cases hawaits.choose_spec.1
  | returned hready =>
      cases hnow
      exact ⟨rfl, rfl, rfl, .idle hready⟩

theorem take {summary : SessionSummary} {text : String} {rest : List String}
    (h : Phase r p now ups downs session due owed after) (hsession : session = .reading summary)
    (hups : ups = text :: rest) :
    rest = [] ∧ Phase r p now [] downs
      (.handling (Session.turn r summary (some (.ok text)))) due owed after := by
  cases h with
  | idle _ => cases hups
  | calling _ _ _ => cases hups
  | asked hproper hkept hawaits hready =>
      cases hups
      obtain ⟨summary', hsmooth⟩ := hproper.smooth_turn hkept summary
      exact ⟨rfl, .handling hproper hawaits hsmooth⟩
  | handling _ _ _ => cases hups
  | answered _ _ => cases hups
  | returned _ => cases hups

/-- A session that is not ready for a frame is handling one. -/
theorem handler (h : Phase r p now ups downs session due owed after) (hbusy : ¬Ready session) :
    ∃ call program handler summary, session = .handling handler ∧ now = some program ∧
      ups = [] ∧ downs = [] ∧ owed = [Call.reply p call] ∧ after = Call.next p call ∧
      Call.IsProper p call ∧
      Awaits program (ackText p call) (call.reply p, call.next p) ∧
      smooth handler =
        (due.map .ofOffer ++ [.acknowledge (.ofHeader (call.header p))], .again summary) := by
  cases h with
  | idle hready => exact absurd hready hbusy
  | calling _ _ hready => exact absurd hready hbusy
  | asked _ _ _ hready => exact absurd hready hbusy
  | handling hproper hawaits hsmooth =>
      exact ⟨_, _, _, _, rfl, rfl, rfl, rfl, rfl, rfl, hproper, hawaits, hsmooth⟩
  | answered _ hready => exact absurd hready hbusy
  | returned hready => exact absurd hready hbusy

theorem perform {request : Ingest.Request}
    {next : Ingest.Answer request → Program Ingest Session.Turn}
    (h : Phase r p now ups downs session due owed after)
    (hsession : session = .handling (.perform (I := Ingest) request next)) :
    ∃ call program summary, now = some program ∧ ups = [] ∧ downs = [] ∧
      owed = [Call.reply p call] ∧ after = Call.next p call ∧ Call.IsProper p call ∧
      Awaits program (ackText p call) (call.reply p, call.next p) ∧
      smooth (.perform (I := Ingest) request next) =
        (due.map .ofOffer ++ [.acknowledge (.ofHeader (call.header p))], .again summary) := by
  subst hsession
  obtain ⟨call, program, handler, summary, hhandler, hrest⟩ := h.handler not_ready_perform
  cases hhandler
  exact ⟨call, program, summary, hrest⟩

theorem publish {queue : String} {m : Message}
    {next : Except BrokerError Unit → Program Ingest Session.Turn}
    (h : Phase r p now ups downs session due owed after)
    (hsession : session = .handling (.perform (I := Ingest) (.publish queue m) next)) :
    ∃ due', due = (queue, m) :: due' ∧
      Phase r p now ups downs (.handling (next (.ok ()))) due' owed after := by
  obtain ⟨call, program, summary, rfl, rfl, rfl, rfl, rfl, hproper, hawaits, hsmooth⟩ :=
    h.perform hsession
  obtain ⟨hrequests, hresult⟩ := Prod.mk.inj hsmooth
  cases due with
  | nil => cases (List.cons.inj hrequests).1
  | cons offer due' =>
      obtain ⟨hoffer, hrest⟩ := List.cons.inj hrequests
      cases hoffer
      exact ⟨due', rfl, .handling hproper hawaits (Prod.ext hrest hresult)⟩

theorem not_pause {milliseconds : Nat} {next : Unit → Program Ingest Session.Turn}
    (h : Phase r p now ups downs session due owed after) :
    session ≠ .handling (.perform (I := Ingest) (.pause milliseconds) next) := by
  intro hsession
  obtain ⟨call, program, summary, -, -, -, -, -, -, -, hsmooth⟩ := h.perform hsession
  obtain ⟨hrequests, -⟩ := Prod.mk.inj hsmooth
  cases due with
  | nil => cases (List.cons.inj hrequests).1
  | cons offer due' => cases (List.cons.inj hrequests).1

theorem acknowledge {ack : Ack}
    {next : Except WireError Unit → Program Ingest Session.Turn}
    (h : Phase r p now ups downs session due owed after)
    (hsession : session = .handling (.perform (I := Ingest) (.acknowledge ack) next)) :
    due = [] ∧ downs = [] ∧ Fits ack.text ∧
      Phase r p now ups [ack.text] (.handling (next (.ok ()))) due owed after := by
  obtain ⟨call, program, summary, rfl, rfl, rfl, rfl, rfl, hproper, hawaits, hsmooth⟩ :=
    h.perform hsession
  obtain ⟨hrequests, hresult⟩ := Prod.mk.inj hsmooth
  cases due with
  | nil =>
      obtain ⟨hack, hnone⟩ := List.cons.inj hrequests
      cases hack
      -- Nothing is left to publish, so the acknowledgement is the last request of the handler.
      obtain ⟨result, hdone⟩ := eq_done_of_smooth_eq_nil hnone
      have hdone' : next (.ok ()) = .done result := hdone
      have hlast : (smooth (next (.ok ()))).2 = .again summary := hresult
      rw [hdone'] at hlast ⊢
      have hagain : result = .again summary := hlast
      subst hagain
      exact ⟨rfl, rfl, Ack.fits_text hproper.writable hproper.fits,
        .answered hawaits ⟨summary, .inr rfl⟩⟩
  | cons offer due' => cases (List.cons.inj hrequests).1

theorem turn {summary : SessionSummary} (h : Phase r p now ups downs session due owed after)
    (hsession : session = .handling (.done (.again summary))) :
    Phase r p now ups downs (.reading summary) due owed after := by
  have hready : Ready (.reading summary) := ⟨summary, .inl rfl⟩
  cases h with
  | idle _ => exact .idle hready
  | calling hproper hkept _ => exact .calling hproper hkept hready
  | asked hproper hkept hawaits _ => exact .asked hproper hkept hawaits hready
  | handling _ _ hsmooth =>
      cases hsession
      exact absurd hsmooth smooth_done_ne
  | answered hawaits _ => exact .answered hawaits hready
  | returned _ => exact .returned hready

theorem not_stop {result : Except SessionError SessionSummary}
    (h : Phase r p now ups downs session due owed after) :
    session ≠ .handling (.done (.over result)) := by
  rintro rfl
  obtain ⟨call, program, handler, summary, hhandler, -, -, -, -, -, -, -, hsmooth⟩ :=
    h.handler not_ready_over
  cases hhandler
  exact smooth_done_ne hsmooth

theorem not_stopped {result : Except SessionError SessionSummary}
    (h : Phase r p now ups downs session due owed after) : session ≠ .stopped result := by
  rintro rfl
  obtain ⟨call, program, handler, summary, hhandler, -⟩ := h.handler not_ready_stopped
  cases hhandler

end Phase

/-- What holds of a producer and its session before the call at which the router breaks off:
`published` was published, and there will be `offers` and `replies` then. -/
structure Inv (r : Router) (offers : List (String × Message)) (replies : List Reply) (u : Uplink)
    (published : List (String × Message)) (ups downs : List String)
    (due : List (String × Message)) (owed : List Reply) (after : Producer) : Prop where
  far : u.far.Flows ups u.up
  near : u.near.Flows downs u.down
  phase : Phase r u.producer u.call ups downs u.session due owed after
  accepts : after.Accepts u.calls
  published : published ++ due ++ after.offers r (after.kept r u.calls) = offers
  replies : u.replies ++ owed ++ after.replies (after.kept r u.calls) = replies

/-- The producer and its session are on their way to `offers` and `replies`. -/
def Going (r : Router) (offers : List (String × Message)) (replies : List Reply) (u : Uplink)
    (published : List (String × Message)) : Prop :=
  ∃ ups downs due owed after, Inv r offers replies u published ups downs due owed after

theorem going_start {r : Router} {p : Producer} {calls : List Call} (h : p.Accepts calls) :
    Going r (p.offers r (p.kept r calls)) (p.replies (p.kept r calls)) (start p calls) [] :=
  ⟨[], [], [], [], p, Channel.flows_opened, Channel.flows_opened, .idle ⟨.empty, .inl rfl⟩, h, rfl,
    rfl⟩

/-! ## Steps -/

variable {r : Router} {u : Uplink} {offers published due : List (String × Message)}
  {replies owed : List Reply} {ups downs : List String} {after : Producer}

namespace Inv

variable (h : Inv r offers replies u published ups downs due owed after)

include h

theorem begin {call : Call} {rest : List Call} (hcall : u.call = none)
    (hcalls : u.calls = call :: rest) (hkept : ¬call.BreaksOff r u.producer) :
    Advances (Going r offers replies) u published []
      { u with calls := rest, call := some (call.run u.producer) } := by
  obtain ⟨rfl, rfl, rfl, rfl, rfl, hready⟩ := h.phase.begin hcall
  have haccepts := h.accepts
  have hpublished := h.published
  have hreplies := h.replies
  rw [hcalls] at haccepts
  rw [hcalls, Producer.kept, if_neg hkept] at hpublished hreplies
  refine ⟨⟨[], [], _, _, _, h.far, h.near, .calling haccepts.1 hkept hready, haccepts.2, ?_, ?_⟩,
    rank_begin_lt hcall hcalls⟩
  · simpa [Producer.offers] using hpublished
  · simpa [Producer.replies] using hreplies

theorem write {payload : String} {written : Except WireError Bytes} {near : Channel}
    {next : Except WireError Unit → Program Wire (Reply × Producer)}
    (hcall : u.call = some (.perform (I := Wire) (.write payload) next))
    (hsend : u.near.send payload = (written, near)) :
    Advances (Going r offers replies) u published [] { u with
      near
      up := u.up ++ written.toOption.getD []
      call := some (next (written.map fun _ => ())) } := by
  obtain ⟨rfl, hfits, ⟨next', hnext⟩, hphase⟩ := h.phase.write hcall
  obtain ⟨near', hsend', hnear, -⟩ := h.near.send hfits
  rw [hsend] at hsend'
  cases hsend'
  have hstage : stage (some (next (.ok ()))) ≤ 2 := by
    rw [hnext]
    exact Nat.le_refl 2
  refine ⟨?_, rank_write_lt hcall hstage⟩
  rw [List.append_nil]
  exact ⟨[payload], downs, due, owed, after, h.far.extend hfits, hnear, hphase, h.accepts,
    h.published, h.replies⟩

theorem read {result : Except WireError String} {near : Channel}
    {next : Except WireError String → Program Wire (Reply × Producer)}
    (hcall : u.call = some (.perform (I := Wire) .read next))
    (hlook : u.near.look = (some result, near)) :
    Advances (Going r offers replies) u published []
      { u with near, call := some (next result) } := by
  obtain ⟨text, rest, rfl, rfl, hnear⟩ := h.near.of_look_some hlook
  obtain ⟨rfl, ⟨reply, hdone⟩, hphase⟩ := h.phase.read hcall rfl
  rw [hdone] at hphase ⊢
  refine ⟨?_, rank_read_lt hcall⟩
  rw [List.append_nil]
  exact ⟨ups, [], due, owed, after, h.far, hnear, hphase, h.accepts, h.published, h.replies⟩

theorem wait {near : Channel} (hlook : u.near.look = (none, near)) (hne : near ≠ u.near) :
    Advances (Going r offers replies) u published [] { u with near } := by
  refine ⟨?_, rank_wait_lt h.near.isOpen hlook hne⟩
  obtain ⟨hnear, -⟩ := h.near.of_look_none hlook
  rw [List.append_nil]
  exact ⟨ups, downs, due, owed, after, h.far, hnear, h.phase, h.accepts, h.published, h.replies⟩

theorem finish {reply : Reply} {producer : Producer}
    (hcall : u.call = some (.done (reply, producer))) :
    Advances (Going r offers replies) u published []
      { u with producer, call := none, replies := u.replies ++ [reply] } := by
  obtain ⟨rfl, rfl, rfl, hphase⟩ := h.phase.finish hcall
  refine ⟨?_, rank_finish_lt hcall⟩
  rw [List.append_nil]
  exact ⟨ups, downs, [], [], _, h.far, h.near, hphase, h.accepts, h.published,
    by simpa using h.replies⟩

theorem carryUp {piece rest : Bytes} (hup : u.up = piece ++ rest) (hpiece : piece ≠ []) :
    Advances (Going r offers replies) u published []
      { u with up := rest, far := u.far.receive piece } := by
  have hfar := h.far
  rw [hup] at hfar
  refine ⟨?_, rank_carryUp_lt hup hpiece⟩
  rw [List.append_nil]
  exact ⟨ups, downs, due, owed, after, hfar.receive, h.near, h.phase, h.accepts, h.published,
    h.replies⟩

theorem carryDown {piece rest : Bytes} (hdown : u.down = piece ++ rest) (hpiece : piece ≠ []) :
    Advances (Going r offers replies) u published []
      { u with down := rest, near := u.near.receive piece } := by
  have hnear := h.near
  rw [hdown] at hnear
  refine ⟨?_, rank_carryDown_lt hdown hpiece⟩
  rw [List.append_nil]
  exact ⟨ups, downs, due, owed, after, h.far, hnear.receive, h.phase, h.accepts, h.published,
    h.replies⟩

theorem take {summary : SessionSummary} {result : Except WireError String} {far : Channel}
    (hsession : u.session = .reading summary) (hlook : u.far.look = (some result, far)) :
    Advances (Going r offers replies) u published []
      { u with far, session := .handling (Session.turn r summary (some result)) } := by
  obtain ⟨text, rest, rfl, rfl, hafter⟩ := h.far.of_look_some hlook
  obtain ⟨rfl, hphase⟩ := h.phase.take hsession rfl
  refine ⟨?_, rank_take_lt h.far hafter⟩
  rw [List.append_nil]
  exact ⟨[], downs, due, owed, after, hafter, h.near, hphase, h.accepts, h.published, h.replies⟩

theorem await {far : Channel} (hlook : u.far.look = (none, far)) (hne : far ≠ u.far) :
    Advances (Going r offers replies) u published [] { u with far } := by
  obtain ⟨hfar, hpending⟩ := h.far.of_look_none hlook
  refine ⟨?_, rank_await_lt h.far.isOpen hlook hne hpending⟩
  rw [List.append_nil]
  exact ⟨ups, downs, due, owed, after, hfar, h.near, h.phase, h.accepts, h.published, h.replies⟩

theorem publish {queue : String} {m : Message}
    {next : Except BrokerError Unit → Program Ingest Session.Turn}
    (hsession : u.session = .handling (.perform (I := Ingest) (.publish queue m) next)) :
    Advances (Going r offers replies) u published [(queue, m)]
      { u with session := .handling (next (.ok ())) } := by
  obtain ⟨due', rfl, hphase⟩ := h.phase.publish hsession
  exact ⟨⟨ups, downs, due', owed, after, h.far, h.near, hphase, h.accepts,
    by simpa using h.published, h.replies⟩, rank_request_lt hsession rfl⟩

theorem acknowledge {ack : Ack} {written : Except WireError Bytes} {far : Channel}
    {next : Except WireError Unit → Program Ingest Session.Turn}
    (hsession : u.session = .handling (.perform (I := Ingest) (.acknowledge ack) next))
    (hsend : u.far.send ack.text = (written, far)) :
    Advances (Going r offers replies) u published [] { u with
      far
      down := u.down ++ written.toOption.getD []
      session := .handling (next (written.map fun _ => ())) } := by
  obtain ⟨rfl, rfl, hfits, hphase⟩ := h.phase.acknowledge hsession
  obtain ⟨far', hsend', hfar, hpending, -⟩ := h.far.send hfits
  rw [hsend] at hsend'
  cases hsend'
  refine ⟨?_, rank_request_lt hsession hpending⟩
  rw [List.append_nil]
  exact ⟨ups, [ack.text], [], owed, after, hfar, h.near.extend hfits, hphase, h.accepts,
    h.published, h.replies⟩

theorem turn {summary : SessionSummary}
    (hsession : u.session = .handling (.done (.again summary))) :
    Advances (Going r offers replies) u published [] { u with session := .reading summary } := by
  refine ⟨?_, rank_turn_lt hsession rfl⟩
  rw [List.append_nil]
  exact ⟨ups, downs, due, owed, after, h.far, h.near, h.phase.turn hsession, h.accepts,
    h.published, h.replies⟩

end Inv

end QueryGateway.Uplink
