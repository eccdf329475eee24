import Mathlib.Data.Prod.Lex
import QueryGateway.Proofs.Uplink.System

/-! # How much there is to do

A producer that writes makes work for its session, and bytes for the network to carry. So what is
left to do is counted for the producer first, then for the session, and last for the network
between them.
-/

namespace QueryGateway.Uplink

open Ingest Producer

/-- How far a call is from being over. -/
def stage : Option (Program Wire (Reply × Producer)) → ℕ
  | none => 0
  | some (.done _) => 1
  | some (.perform .read _) => 2
  | some (.perform _ _) => 3

theorem stage_le (call : Option (Program Wire (Reply × Producer))) : stage call ≤ 3 := by
  unfold stage
  split <;> omega

/-- How much a session has to do before it reads again, if nothing fails. -/
def work : Session.Activity → ℕ
  | .handling program => (smooth program).1.length + 1
  | .reading _ | .stopped _ => 0

def unread (u : Uplink) : ℕ :=
  u.up.length + u.far.pending.length

/-- How much the network has to do, and how much there is for looks that find nothing. -/
def transit (u : Uplink) : ℕ :=
  2 * (u.up.length + u.down.length) + u.near.restless + u.far.restless +
    (!u.near.inlet.ended).toNat

/-- What there is to do: for the producer, for the session, and between them. What comes later may
grow when what comes earlier becomes less. -/
def rank (u : Uplink) : ℕ ×ₗ ℕ ×ₗ ℕ ×ₗ ℕ :=
  toLex (4 * u.calls.length + stage u.call, toLex (u.unread, toLex (work u.session, u.transit)))

/-- A step that publishes `own` keeps what holds, and leaves less to do. -/
def Advances (Holds : Uplink → List (String × Message) → Prop) (u : Uplink)
    (published own : List (String × Message)) (u' : Uplink) : Prop :=
  Holds u' (published ++ own) ∧ rank u' < rank u

section

variable {u u' : Uplink}

theorem Advances.imp {Holds Holds' : Uplink → List (String × Message) → Prop}
    {published own : List (String × Message)} (h : Advances Holds u published own u')
    (himp : ∀ {u published}, Holds u published → Holds' u published) :
    Advances Holds' u published own u' :=
  ⟨himp h.1, h.2⟩

theorem rank_lt_of_stage
    (h : 4 * u'.calls.length + stage u'.call < 4 * u.calls.length + stage u.call) :
    rank u' < rank u := by
  rw [rank, rank, Prod.Lex.toLex_lt_toLex]
  exact .inl h

theorem rank_lt_of_unread (hcalls : u'.calls = u.calls) (hcall : u'.call = u.call)
    (h : u'.unread < u.unread) : rank u' < rank u := by
  rw [rank, rank, hcalls, hcall, Prod.Lex.toLex_lt_toLex, Prod.Lex.toLex_lt_toLex]
  exact .inr ⟨rfl, .inl h⟩

theorem rank_lt_of_work (hcalls : u'.calls = u.calls) (hcall : u'.call = u.call)
    (hunread : u'.unread = u.unread) (h : work u'.session < work u.session) :
    rank u' < rank u := by
  rw [rank, rank, hcalls, hcall, hunread, Prod.Lex.toLex_lt_toLex, Prod.Lex.toLex_lt_toLex,
    Prod.Lex.toLex_lt_toLex]
  exact .inr ⟨rfl, .inr ⟨rfl, .inl h⟩⟩

theorem rank_lt_of_transit (hcalls : u'.calls = u.calls) (hcall : u'.call = u.call)
    (hunread : u'.unread = u.unread) (hsession : u'.session = u.session)
    (h : u'.transit < u.transit) : rank u' < rank u := by
  rw [rank, rank, hcalls, hcall, hunread, hsession, Prod.Lex.toLex_lt_toLex,
    Prod.Lex.toLex_lt_toLex, Prod.Lex.toLex_lt_toLex]
  exact .inr ⟨rfl, .inr ⟨rfl, .inr ⟨rfl, h⟩⟩⟩

/-! ## Steps of the producer -/

theorem rank_begin_lt {call : Call} {rest : List Call} (hcall : u.call = none)
    (hcalls : u.calls = call :: rest) :
    rank { u with calls := rest, call := some (call.run u.producer) } < rank u := by
  apply rank_lt_of_stage
  have hstage := stage_le (some (call.run u.producer))
  simp only [hcalls, hcall, List.length_cons]
  omega

theorem rank_write_lt {payload : String} {near : Channel} {up : Bytes}
    {next : Except WireError Unit → Program Wire (Reply × Producer)}
    {program : Program Wire (Reply × Producer)}
    (hcall : u.call = some (.perform (I := Wire) (.write payload) next))
    (hprogram : stage (some program) ≤ 2) :
    rank { u with near, up, call := some program } < rank u := by
  apply rank_lt_of_stage
  have hstage : stage u.call = 3 := by rw [hcall]; rfl
  change 4 * u.calls.length + stage (some program) < _
  omega

theorem rank_read_lt {near : Channel}
    {next : Except WireError String → Program Wire (Reply × Producer)} {reply : Reply × Producer}
    (hcall : u.call = some (.perform (I := Wire) .read next)) :
    rank { u with near, call := some (.done reply) } < rank u := by
  apply rank_lt_of_stage
  have hstage : stage u.call = 2 := by rw [hcall]; rfl
  change 4 * u.calls.length + 1 < _
  omega

theorem rank_finish_lt {producer : Producer} {replies : List Reply} {reply : Reply × Producer}
    (hcall : u.call = some (.done reply)) :
    rank { u with producer, call := none, replies } < rank u := by
  apply rank_lt_of_stage
  have hstage : stage u.call = 1 := by rw [hcall]; rfl
  change 4 * u.calls.length + 0 < _
  omega

/-! ## Steps of the network -/

theorem rank_wait_lt {near : Channel} (hopen : u.near.IsOpen) (hlook : u.near.look = (none, near))
    (hne : near ≠ u.near) : rank { u with near } < rank u := by
  have hless := Channel.restless_lt_of_look hopen hlook hne
  have hended : near.inlet.ended = false := by
    have hlast := hopen.look.2
    rwa [hlook] at hlast
  refine rank_lt_of_transit rfl rfl rfl rfl ?_
  simp only [transit, hended, hopen.inlet]
  omega

theorem rank_carryUp_lt {piece rest : Bytes} (hup : u.up = piece ++ rest) (hpiece : piece ≠ []) :
    rank { u with up := rest, far := u.far.receive piece } < rank u := by
  have hlength := List.length_pos_of_ne_nil hpiece
  have hcalm := Channel.restless_receive_le u.far piece
  refine rank_lt_of_transit rfl rfl ?_ rfl ?_
  · simp only [unread, Channel.pending_receive, hup, List.length_append]
    omega
  · simp only [transit, hup, List.length_append]
    omega

theorem rank_carryDown_lt {piece rest : Bytes} (hdown : u.down = piece ++ rest)
    (hpiece : piece ≠ []) :
    rank { u with down := rest, near := u.near.receive piece } < rank u := by
  have hlength := List.length_pos_of_ne_nil hpiece
  have hcalm := Channel.restless_receive_le u.near piece
  refine rank_lt_of_transit rfl rfl rfl rfl ?_
  simp only [transit, hdown, List.length_append, Channel.receive]
  simp only [Channel.receive] at hcalm
  omega

theorem rank_hangUp_lt (hopen : u.near.inlet.ended = false) :
    rank { u with near := u.near.finish } < rank u := by
  refine rank_lt_of_transit rfl rfl rfl rfl ?_
  simp only [transit, hopen]
  exact Nat.lt_succ_self _

/-! ## Steps of the session -/

theorem rank_take_lt {far : Channel} {text : String} {rest : List String}
    {session : Session.Activity} (hbefore : u.far.Flows (text :: rest) u.up)
    (hafter : far.Flows rest u.up) : rank { u with far, session } < rank u := by
  refine rank_lt_of_unread rfl rfl ?_
  -- The bytes of the frame have left the session's end, and no frame is empty.
  have hbytes := congrArg List.length hbefore.carries.bytes
  have hleft := congrArg List.length hafter.carries.bytes
  have hframe := List.length_pos_of_ne_nil (frameBytes_ne_nil (.ofText text))
  simp only [framesOf_cons, List.length_append] at hbytes hleft
  simp only [unread]
  omega

theorem rank_await_lt {far : Channel} (hopen : u.far.IsOpen) (hlook : u.far.look = (none, far))
    (hne : far ≠ u.far) (hpending : far.pending = u.far.pending) :
    rank { u with far } < rank u := by
  have hless := Channel.restless_lt_of_look hopen hlook hne
  refine rank_lt_of_transit rfl rfl ?_ rfl ?_
  · simp only [unread, hpending]
  · simp only [transit]
    omega

theorem rank_request_lt {request : Ingest.Request}
    {next : Ingest.Answer request → Program Ingest Session.Turn} {far : Channel} {down : Bytes}
    (hsession : u.session = .handling (.perform (I := Ingest) request next))
    (hpending : far.pending = u.far.pending) :
    rank { u with far, down, session := .handling (next (success request)) } < rank u := by
  refine rank_lt_of_work rfl rfl ?_ ?_
  · simp only [unread, hpending]
  · rw [hsession]
    exact Nat.lt_succ_self _

/-- A session that is done with a frame turns to something else. -/
theorem rank_turn_lt {turn : Session.Turn} {session : Session.Activity}
    (hsession : u.session = .handling (.done turn)) (hidle : work session = 0) :
    rank { u with session } < rank u := by
  refine rank_lt_of_work rfl rfl rfl ?_
  rw [hsession, hidle]
  exact Nat.succ_pos _

end

end QueryGateway.Uplink
