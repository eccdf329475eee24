import QueryGateway.Proofs.Uplink.Invariant
import QueryGateway.Proofs.Wire.Ending

/-! # When the router breaks off

At the call at which its router breaks off, a session is over before it has answered. From then on
nothing comes on the connection but its end, and every call of the producer fails.
-/

namespace QueryGateway

open Ingest Producer

/-! ## Calls without an answer -/

namespace Producer

/-- The call is over, and has failed. -/
def HasFailed (program : Program Wire (Reply × Producer)) : Prop :=
  ∃ reply p, program = .done (reply, p) ∧ reply.failed = true

/-- A call fails if no answer comes. -/
inductive Doomed : Program Wire (Reply × Producer) → Prop where
  | failed {reply : Reply} {p : Producer} : reply.failed = true → Doomed (.done (reply, p))
  | reading {next : Except WireError String → Program Wire (Reply × Producer)} :
      (∀ e, HasFailed (next (.error e))) → Doomed (.perform (I := Wire) .read next)
  | writing {payload : String} {next : Except WireError Unit → Program Wire (Reply × Producer)}
      {next' : Except WireError String → Program Wire (Reply × Producer)} :
      (∀ e, HasFailed (next (.error e))) → next (.ok ()) = .perform (I := Wire) .read next' →
      (∀ e, HasFailed (next' (.error e))) → Doomed (.perform (I := Wire) (.write payload) next)

theorem HasFailed.doomed {program : Program Wire (Reply × Producer)} (h : HasFailed program) :
    Doomed program := by
  obtain ⟨reply, p, rfl, hfailed⟩ := h
  exact .failed hfailed

theorem Doomed.write {payload : String}
    {next : Except WireError Unit → Program Wire (Reply × Producer)}
    (h : Doomed (.perform (I := Wire) (.write payload) next)) (result : Except WireError Unit) :
    Doomed (next result) ∧ Uplink.stage (some (next result)) ≤ 2 := by
  cases h with
  | writing hwrite hnext hread =>
      cases result with
      | error e =>
          refine ⟨(hwrite e).doomed, ?_⟩
          obtain ⟨reply, p, hdone, -⟩ := hwrite e
          rw [hdone]
          exact Nat.le_succ 1
      | ok _ =>
          rw [hnext]
          exact ⟨.reading hread, Nat.le_refl 2⟩

theorem Doomed.read {next : Except WireError String → Program Wire (Reply × Producer)}
    (h : Doomed (.perform (I := Wire) .read next)) (e : WireError) :
    HasFailed (next (.error e)) := by
  cases h with
  | reading hread => exact hread e

/-- Whatever the producer is asked for, it fails without an answer. -/
theorem Call.doomed_run (call : Call) (p : Producer) : Doomed (call.run p) := by
  cases call with
  | batch queries records =>
      rw [Call.run, sendBatch]
      cases p.checkQueries queries with
      | error e => exact .failed rfl
      | ok _ => exact .writing (fun e => ⟨_, _, rfl, rfl⟩) rfl fun e => ⟨_, _, rfl, rfl⟩
  | finish queries =>
      rw [Call.run, sendEnd]
      cases p.checkQueries queries with
      | error e => exact .failed rfl
      | ok _ => exact .writing (fun e => ⟨_, _, rfl, rfl⟩) rfl fun e => ⟨_, _, rfl, rfl⟩

end Producer

namespace Uplink

variable {r : Router} {u u' : Uplink} {offers published due : List (String × Message)}
  {replies owed : List Reply} {ups downs : List String} {after : Producer}

/-! ## The way down -/

/-- How far a session has come with the call at which its router breaks off. -/
inductive Falling (r : Router) (u : Uplink) : Prop where
  | calling {call : Call} : Ready u.session → u.near.inlet.ended = false → u.far.Flows [] u.up →
      call.IsProper u.producer → call.BreaksOff r u.producer →
      u.call = some (call.run u.producer) → Falling r u
  | asked {call : Call} {next : Except WireError String → Program Wire (Reply × Producer)} :
      Ready u.session → u.near.inlet.ended = false → u.far.Flows [call.frame u.producer] u.up →
      call.IsProper u.producer → call.BreaksOff r u.producer →
      u.call = some (.perform (I := Wire) .read next) → Falling r u
  | handled (e : SessionError) : u.session = .handling (.done (.over (.error e))) →
      u.near.inlet.ended = false → Falling r u
  | stopped (e : SessionError) : u.session = .stopped (.error e) → Falling r u

/-- What does not concern that call leaves it where it is. -/
theorem Falling.keep (h : Falling r u) (hsession : u'.session = u.session)
    (hproducer : u'.producer = u.producer) (hcall : u'.call = u.call)
    (hopen : u.near.inlet.ended = false → u'.near.inlet.ended = false)
    (hfar : ∀ texts, u.far.Flows texts u.up → u'.far.Flows texts u'.up) : Falling r u' := by
  cases h with
  | calling hready hended hflows hproper hbreaks hnow =>
      rw [← hsession] at hready
      rw [← hproducer] at hproper hbreaks hnow
      exact .calling hready (hopen hended) (hfar _ hflows) hproper hbreaks (hcall.trans hnow)
  | asked hready hended hflows hproper hbreaks hnow =>
      rw [← hsession] at hready
      rw [← hproducer] at hflows hproper hbreaks
      exact .asked hready (hopen hended) (hfar _ hflows) hproper hbreaks (hcall.trans hnow)
  | handled e hhandling hended => exact .handled e (hsession.trans hhandling) (hopen hended)
  | stopped e hstopped => exact .stopped e (hsession.trans hstopped)

/-- What holds of a producer and its session from that call on: `offers` were published, and the
calls after the `replies` have failed. -/
structure Broken (r : Router) (offers : List (String × Message)) (replies : List Reply)
    (u : Uplink) (published : List (String × Message)) : Prop where
  near : u.near.Dry
  down : u.down = []
  call : ∀ program, u.call = some program → Doomed program
  falling : Falling r u
  published : published = offers
  replies : ∃ failed, u.replies = replies ++ failed ∧ ∀ reply ∈ failed, reply.failed = true

/-- The router is going to break off at the next call. -/
theorem Inv.fall (h : Inv r offers replies u published ups downs due owed after) {call : Call}
    {rest : List Call} (hcall : u.call = none) (hcalls : u.calls = call :: rest)
    (hbreaks : call.BreaksOff r u.producer) :
    Advances (Broken r offers replies) u published []
      { u with calls := rest, call := some (call.run u.producer) } := by
  obtain ⟨rfl, rfl, rfl, rfl, rfl, hready⟩ := h.phase.begin hcall
  have haccepts := h.accepts
  have hpublished := h.published
  have hreplies := h.replies
  rw [hcalls] at haccepts
  rw [hcalls, Producer.kept, if_pos hbreaks] at hpublished hreplies
  have hdown : u.down = [] := (List.append_eq_nil_iff.mp h.near.carries.bytes).2
  refine ⟨⟨.quiet (hdown ▸ h.near), hdown, ?_, ?_, ?_, [], ?_, by simp⟩,
    rank_begin_lt hcall hcalls⟩
  · rintro _ ⟨⟩
    exact call.doomed_run u.producer
  · exact .calling hready h.near.isOpen.inlet h.far haccepts.1 hbreaks rfl
  · simpa [Producer.offers] using hpublished
  · simpa [Producer.replies] using hreplies

/-! ## Steps -/

namespace Broken

variable (h : Broken r offers replies u published)

include h

theorem begin {call : Call} {rest : List Call} (hcall : u.call = none)
    (hcalls : u.calls = call :: rest) :
    Advances (Broken r offers replies) u published []
      { u with calls := rest, call := some (call.run u.producer) } := by
  refine ⟨?_, rank_begin_lt hcall hcalls⟩
  rw [List.append_nil]
  refine ⟨h.near, h.down, ?_, ?_, h.published, h.replies⟩
  · rintro _ ⟨⟩
    exact call.doomed_run u.producer
  · cases h.falling with
    | calling _ _ _ _ _ hnow => rw [hcall] at hnow; cases hnow
    | asked _ _ _ _ _ hnow => rw [hcall] at hnow; cases hnow
    | handled e hsession hopen => exact .handled e hsession hopen
    | stopped e hsession => exact .stopped e hsession

theorem write {payload : String} {written : Except WireError Bytes} {near : Channel}
    {next : Except WireError Unit → Program Wire (Reply × Producer)}
    (hcall : u.call = some (.perform (I := Wire) (.write payload) next))
    (hsend : u.near.send payload = (written, near)) :
    Advances (Broken r offers replies) u published [] { u with
      near
      up := u.up ++ written.toOption.getD []
      call := some (next (written.map fun _ => ())) } := by
  have hnear : near = { u.near with connection := (u.near.connection.write payload true).2 } :=
    (congrArg Prod.snd hsend).symm
  obtain ⟨hdoomed, hstage⟩ := (h.call _ hcall).write (written.map fun _ => ())
  refine ⟨?_, rank_write_lt hcall hstage⟩
  rw [List.append_nil]
  refine ⟨hnear ▸ h.near.write payload true, h.down, ?_, ?_, h.published, h.replies⟩
  · rintro _ ⟨⟩
    exact hdoomed
  · cases h.falling with
    | @calling asking hready hopen hfar hproper hbreaks hnow =>
        obtain ⟨next', hrun, next'', hread, -⟩ := hproper.asks_run
        rw [hcall, hrun] at hnow
        cases hnow
        have hwritten : written = .ok (frameBytes (.ofText (asking.frame u.producer))) :=
          (congrArg Prod.fst hsend).symm.trans (u.near.fst_send hproper.fits)
        subst hwritten
        refine .asked hready ?_ (hfar.extend hproper.fits) hproper hbreaks (congrArg some hread)
        rw [hnear]
        exact hopen
    | asked _ _ _ _ _ hnow => rw [hcall] at hnow; cases hnow
    | handled e hsession hopen =>
        refine .handled e hsession ?_
        rw [hnear]
        exact hopen
    | stopped e hsession => exact .stopped e hsession

theorem read {result : Except WireError String} {near : Channel}
    {next : Except WireError String → Program Wire (Reply × Producer)}
    (hcall : u.call = some (.perform (I := Wire) .read next))
    (hlook : u.near.look = (some result, near)) :
    Advances (Broken r offers replies) u published []
      { u with near, call := some (next result) } := by
  rcases h.near.look with ⟨-, near', hlook', -⟩ | ⟨hended, e, near', hlook', hdry, -⟩
  · rw [hlook] at hlook'
    cases hlook'
  · rw [hlook] at hlook'
    cases hlook'
    obtain ⟨reply, p, hdone, hfailed⟩ := (h.call _ hcall).read e
    rw [hdone]
    refine ⟨?_, rank_read_lt hcall⟩
    rw [List.append_nil]
    refine ⟨hdry, h.down, ?_, ?_, h.published, h.replies⟩
    · rintro _ ⟨⟩
      exact .failed hfailed
    · cases h.falling with
      | calling _ hopen _ _ _ _ => rw [hopen] at hended; cases hended
      | asked _ hopen _ _ _ _ => rw [hopen] at hended; cases hended
      | handled _ _ hopen => rw [hopen] at hended; cases hended
      | stopped e hsession => exact .stopped e hsession

theorem wait {near : Channel} (hlook : u.near.look = (none, near)) (hne : near ≠ u.near) :
    Advances (Broken r offers replies) u published [] { u with near } := by
  rcases h.near.look with ⟨hisOpen, near', hlook', hdry, hopen⟩ | ⟨-, e, near', hlook', -⟩
  · rw [hlook] at hlook'
    cases hlook'
    refine ⟨?_, rank_wait_lt hisOpen hlook hne⟩
    rw [List.append_nil]
    have hfalling : Falling r { u with near } :=
      h.falling.keep rfl rfl rfl (fun _ => hopen) fun _ => id
    exact ⟨hdry, h.down, h.call, hfalling, h.published, h.replies⟩
  · rw [hlook] at hlook'
    cases hlook'

theorem finish {reply : Reply} {producer : Producer}
    (hcall : u.call = some (.done (reply, producer))) :
    Advances (Broken r offers replies) u published []
      { u with producer, call := none, replies := u.replies ++ [reply] } := by
  refine ⟨?_, rank_finish_lt hcall⟩
  rw [List.append_nil]
  refine ⟨h.near, h.down, by simp, ?_, h.published, ?_⟩
  · cases h.falling with
    | calling _ _ _ hproper _ hnow =>
        obtain ⟨next', hrun, -⟩ := hproper.asks_run
        rw [hcall, hrun] at hnow
        cases hnow
    | asked _ _ _ _ _ hnow => rw [hcall] at hnow; cases hnow
    | handled e hsession hopen => exact .handled e hsession hopen
    | stopped e hsession => exact .stopped e hsession
  · obtain ⟨failed, hreplies, hfailed⟩ := h.replies
    refine ⟨failed ++ [reply], by simp [hreplies], ?_⟩
    have hlast : reply.failed = true := by
      cases h.call _ hcall with
      | failed hlast => exact hlast
    intro reply' hmem
    rcases List.mem_append.mp hmem with hmem | hmem
    · exact hfailed reply' hmem
    · rwa [List.mem_singleton.mp hmem]

theorem carryUp {piece rest : Bytes} (hup : u.up = piece ++ rest) (hpiece : piece ≠ []) :
    Advances (Broken r offers replies) u published []
      { u with up := rest, far := u.far.receive piece } := by
  refine ⟨?_, rank_carryUp_lt hup hpiece⟩
  rw [List.append_nil]
  have hfalling : Falling r { u with up := rest, far := u.far.receive piece } :=
    h.falling.keep rfl rfl rfl id fun _ hfar => (hup ▸ hfar).receive
  exact ⟨h.near, h.down, h.call, hfalling, h.published, h.replies⟩

theorem take {summary : SessionSummary} {result : Except WireError String} {far : Channel}
    (hsession : u.session = .reading summary) (hlook : u.far.look = (some result, far)) :
    Advances (Broken r offers replies) u published []
      { u with far, session := .handling (Session.turn r summary (some result)) } := by
  cases h.falling with
  | calling _ _ hfar _ _ _ =>
      obtain ⟨_, _, hframe, -⟩ := hfar.of_look_some hlook
      cases hframe
  | asked _ hopen hfar hproper hbreaks _ =>
      obtain ⟨_, _, hframe, rfl, hafter⟩ := hfar.of_look_some hlook
      cases hframe
      refine ⟨?_, rank_take_lt hfar hafter⟩
      rw [List.append_nil, hproper.turn_of_breaksOff hbreaks]
      exact ⟨h.near, h.down, h.call, .handled _ rfl hopen, h.published, h.replies⟩
  | handled e hhandling _ => rw [hsession] at hhandling; cases hhandling
  | stopped e hstopped => rw [hsession] at hstopped; cases hstopped

theorem await {summary : SessionSummary} {far : Channel} (hsession : u.session = .reading summary)
    (hlook : u.far.look = (none, far)) (hne : far ≠ u.far) :
    Advances (Broken r offers replies) u published [] { u with far } := by
  obtain ⟨texts, hfar⟩ : ∃ texts, u.far.Flows texts u.up := by
    cases h.falling with
    | calling _ _ hfar _ _ _ => exact ⟨_, hfar⟩
    | asked _ _ hfar _ _ _ => exact ⟨_, hfar⟩
    | handled e hhandling _ => rw [hsession] at hhandling; cases hhandling
    | stopped e hstopped => rw [hsession] at hstopped; cases hstopped
  obtain ⟨-, hpending⟩ := hfar.of_look_none hlook
  refine ⟨?_, rank_await_lt hfar.isOpen hlook hne hpending⟩
  rw [List.append_nil]
  have hfalling : Falling r { u with far } :=
    h.falling.keep rfl rfl rfl id fun _ hfar => (hfar.of_look_none hlook).1
  exact ⟨h.near, h.down, h.call, hfalling, h.published, h.replies⟩

/-- The session does not ask for anything any more. -/
theorem not_perform {request : Ingest.Request}
    {next : Ingest.Answer request → Program Ingest Session.Turn} :
    u.session ≠ .handling (.perform (I := Ingest) request next) := by
  intro hsession
  cases h.falling with
  | calling hready _ _ _ _ _ => exact not_ready_perform (hsession ▸ hready)
  | asked hready _ _ _ _ _ => exact not_ready_perform (hsession ▸ hready)
  | handled e hhandling _ => rw [hsession] at hhandling; cases hhandling
  | stopped e hstopped => rw [hsession] at hstopped; cases hstopped

theorem turn {summary : SessionSummary}
    (hsession : u.session = .handling (.done (.again summary))) :
    Advances (Broken r offers replies) u published [] { u with session := .reading summary } := by
  have hready : Ready (.reading summary) := ⟨summary, .inl rfl⟩
  refine ⟨?_, rank_turn_lt hsession rfl⟩
  rw [List.append_nil]
  refine ⟨h.near, h.down, h.call, ?_, h.published, h.replies⟩
  cases h.falling with
  | calling _ hopen hfar hproper hbreaks hnow =>
      exact .calling hready hopen hfar hproper hbreaks hnow
  | asked _ hopen hfar hproper hbreaks hnow => exact .asked hready hopen hfar hproper hbreaks hnow
  | handled e hhandling _ => rw [hsession] at hhandling; cases hhandling
  | stopped e hstopped => rw [hsession] at hstopped; cases hstopped

theorem stop {result : Except SessionError SessionSummary}
    (hsession : u.session = .handling (.done (.over result))) :
    Advances (Broken r offers replies) u published [] { u with session := .stopped result } := by
  refine ⟨?_, rank_turn_lt hsession rfl⟩
  rw [List.append_nil]
  refine ⟨h.near, h.down, h.call, ?_, h.published, h.replies⟩
  cases h.falling with
  | calling hready _ _ _ _ _ => exact absurd (hsession ▸ hready) not_ready_over
  | asked hready _ _ _ _ _ => exact absurd (hsession ▸ hready) not_ready_over
  | handled e hhandling _ =>
      rw [hsession] at hhandling
      cases hhandling
      exact .stopped e rfl
  | stopped e hstopped => rw [hsession] at hstopped; cases hstopped

/-- A session that is over stays so. -/
theorem falling_of_stopped {result : Except SessionError SessionSummary}
    (hsession : u.session = .stopped result) (hsame : u'.session = u.session) : Falling r u' := by
  cases h.falling with
  | calling hready _ _ _ _ _ => exact absurd (hsession ▸ hready) not_ready_stopped
  | asked hready _ _ _ _ _ => exact absurd (hsession ▸ hready) not_ready_stopped
  | handled e hhandling _ => rw [hsession] at hhandling; cases hhandling
  | stopped e hstopped => exact .stopped e (hsame.trans hstopped)

theorem hangUp {result : Except SessionError SessionSummary}
    (hsession : u.session = .stopped result) (hopen : u.near.inlet.ended = false) :
    Advances (Broken r offers replies) u published [] { u with near := u.near.finish } := by
  refine ⟨?_, rank_hangUp_lt hopen⟩
  rw [List.append_nil]
  exact ⟨h.near.finish, h.down, h.call, h.falling_of_stopped hsession rfl, h.published, h.replies⟩

theorem lose {result : Except SessionError SessionSummary} {payload : String}
    {written : Except WireError Bytes} {connection : Connection}
    {next : Except WireError Unit → Program Wire (Reply × Producer)}
    (hsession : u.session = .stopped result)
    (hcall : u.call = some (.perform (I := Wire) (.write payload) next))
    (hwrite : u.near.connection.write payload false = (written, connection)) :
    Advances (Broken r offers replies) u published [] { u with
      near := { u.near with connection }
      call := some (next (written.map fun _ => ())) } := by
  have hnear := h.near.write payload false
  rw [hwrite] at hnear
  obtain ⟨hdoomed, hstage⟩ := (h.call _ hcall).write (written.map fun _ => ())
  refine ⟨?_, rank_write_lt hcall hstage⟩
  rw [List.append_nil]
  refine ⟨hnear, h.down, ?_, h.falling_of_stopped hsession rfl, h.published, h.replies⟩
  rintro _ ⟨⟩
  exact hdoomed

end Broken

/-! ## Before and after -/

/-- A producer and its session are on their way to `offers` and `replies`, or the router has broken
off when they had come to them. -/
def Sound (r : Router) (offers : List (String × Message)) (replies : List Reply) (u : Uplink)
    (published : List (String × Message)) : Prop :=
  Going r offers replies u published ∨ Broken r offers replies u published

theorem Going.advances {own : List (String × Message)} (h : Going r offers replies u published)
    (hstep : u.Step r own u') : Advances (Sound r offers replies) u published own u' := by
  obtain ⟨ups, downs, due, owed, after, hinv⟩ := h
  cases hstep with
  | @begin call rest hcall hcalls =>
      by_cases hbreaks : call.BreaksOff r u.producer
      · exact (hinv.fall hcall hcalls hbreaks).imp .inr
      · exact (hinv.begin hcall hcalls hbreaks).imp .inl
  | write hcall hsend => exact (hinv.write hcall hsend).imp .inl
  | read hcall hlook => exact (hinv.read hcall hlook).imp .inl
  | wait _ hlook hne => exact (hinv.wait hlook hne).imp .inl
  | finish hcall => exact (hinv.finish hcall).imp .inl
  | carryUp hup hpiece => exact (hinv.carryUp hup hpiece).imp .inl
  | carryDown hdown hpiece => exact (hinv.carryDown hdown hpiece).imp .inl
  | take hsession hlook => exact (hinv.take hsession hlook).imp .inl
  | await _ hlook hne => exact (hinv.await hlook hne).imp .inl
  | publish hsession => exact (hinv.publish hsession).imp .inl
  | pause hsession => exact absurd hsession hinv.phase.not_pause
  | acknowledge hsession hsend => exact (hinv.acknowledge hsession hsend).imp .inl
  | turn hsession => exact (hinv.turn hsession).imp .inl
  | stop hsession => exact absurd hsession hinv.phase.not_stop
  | hangUp hsession _ _ => exact absurd hsession hinv.phase.not_stopped
  | lose hsession _ _ => exact absurd hsession hinv.phase.not_stopped

theorem Broken.advances {own : List (String × Message)} (h : Broken r offers replies u published)
    (hstep : u.Step r own u') : Advances (Broken r offers replies) u published own u' := by
  cases hstep with
  | begin hcall hcalls => exact h.begin hcall hcalls
  | write hcall hsend => exact h.write hcall hsend
  | read hcall hlook => exact h.read hcall hlook
  | wait _ hlook hne => exact h.wait hlook hne
  | finish hcall => exact h.finish hcall
  | carryUp hup hpiece => exact h.carryUp hup hpiece
  | carryDown hdown hpiece =>
      rw [h.down] at hdown
      exact absurd (List.append_eq_nil_iff.mp hdown.symm).1 hpiece
  | take hsession hlook => exact h.take hsession hlook
  | await hsession hlook hne => exact h.await hsession hlook hne
  | publish hsession => exact absurd hsession h.not_perform
  | pause hsession => exact absurd hsession h.not_perform
  | acknowledge hsession _ => exact absurd hsession h.not_perform
  | turn hsession => exact h.turn hsession
  | stop hsession => exact h.stop hsession
  | hangUp hsession _ hopen => exact h.hangUp hsession hopen
  | lose hsession hcall hwrite => exact h.lose hsession hcall hwrite

theorem Sound.advances {own : List (String × Message)} (h : Sound r offers replies u published)
    (hstep : u.Step r own u') : Advances (Sound r offers replies) u published own u' := by
  rcases h with hgoing | hbroken
  · exact hgoing.advances hstep
  · exact (hbroken.advances hstep).imp .inr

end Uplink

end QueryGateway
