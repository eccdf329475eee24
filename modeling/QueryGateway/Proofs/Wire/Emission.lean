import Mathlib.Data.List.Forall2
import QueryGateway.Proofs.Wire.Garbled

/-! # What is put on the wire

Of all that happens on a channel only writes put bytes on the wire. A write that succeeds puts its
whole frame there, one that is refused for its length nothing, and one during which the connection
breaks some part of its frame.
-/

namespace QueryGateway

/-! ## One exchange -/

namespace Wire

/-- An exchange that asks for a write. -/
def IsWrite : Exchange Wire → Prop
  | ⟨.write _, _⟩ => True
  | ⟨.read, _⟩ | ⟨.readWithin _, _⟩ | ⟨.shutdown, _⟩ => False

/-- A read or a write that has failed. -/
def IsFailure : Exchange Wire → Prop
  | ⟨.write _, answer⟩ => ∃ e, (answer : Except WireError Unit) = .error e
  | ⟨.read, answer⟩ => Fails ⟨.read, answer⟩
  | ⟨.readWithin limit, answer⟩ => Fails ⟨.readWithin limit, answer⟩
  | ⟨.shutdown, _⟩ => False

theorem Fails.isFailure {e : Exchange Wire} (h : Fails e) : IsFailure e := by
  obtain ⟨request, answer⟩ := e
  cases request with
  | read => exact h
  | readWithin limit => exact h
  | write payload => cases h
  | shutdown => cases h

/-- The bytes that an exchange may put on the wire. A read does not fail for the length of a
frame. -/
inductive Puts : Exchange Wire → Bytes → Prop where
  | written {payload : String} : Fits payload →
      Puts ⟨.write payload, .ok ()⟩ (frameBytes (.ofText payload))
  | tooLong {payload : String} : ¬Fits payload →
      Puts ⟨.write payload, .error (.frameTooLarge payload.utf8ByteSize maxFrameLength)⟩ []
  | broken {payload : String} {part : Bytes} (fault : Fault) :
      part <+: frameBytes (.ofText payload) → Puts ⟨.write payload, .error (.io fault)⟩ part
  | read {answer : Except WireError String} :
      (∀ length limit, answer ≠ .error (.frameTooLarge length limit)) → Puts ⟨.read, answer⟩ []
  | readWithin (limit : Nat) (answer : Option (Except WireError String)) :
      Puts ⟨.readWithin limit, answer⟩ []
  | shutdown : Puts ⟨.shutdown, ()⟩ []

/-- Without a failure these are the frames of the texts that were written. -/
theorem Puts.eq_framesOf {e : Exchange Wire} {out : Bytes} (h : Puts e out)
    (hsound : ¬IsFailure e) : out = framesOf (sent [e]) := by
  cases h with
  | written _ => exact (List.append_nil _).symm
  | tooLong _ => exact absurd ⟨_, rfl⟩ hsound
  | broken fault _ => exact absurd ⟨_, rfl⟩ hsound
  | read _ => rfl
  | readWithin limit answer => rfl
  | shutdown => rfl

theorem flatten_eq_framesOf {log : List (Exchange Wire)} {parts : List Bytes}
    (h : List.Forall₂ Puts log parts) (hsound : ∀ e ∈ log, ¬IsFailure e) :
    parts.flatten = framesOf (sent log) := by
  induction h with
  | nil => rfl
  | @cons e part log parts hpart _ ih =>
      obtain ⟨hfirst, hrest⟩ := List.forall_mem_cons.mp hsound
      rw [List.flatten_cons, hpart.eq_framesOf hfirst, ih hrest, ← framesOf_append, ← sent_append]
      rfl

end Wire

/-! ## A channel -/

namespace Channel

variable {c c' : Channel} {arrived out : Bytes} {log : List (Exchange Wire)}

/-- One thing that happens on a channel, and the bytes that it puts on the wire. -/
inductive Emits : Channel → Bytes → List (Exchange Wire) → Bytes → Channel → Prop where
  | quiet {c c' : Channel} {arrived : Bytes} {log : List (Exchange Wire)} :
      Moves c arrived log c' → (∀ e ∈ log, ¬Wire.IsWrite e) → Emits c arrived log [] c'
  /-- The connection breaks while a read waits. -/
  | lose {c c' : Channel} (fault : Fault) :
      c.look = (none, c') → Emits c [] [⟨.read, .error (.io fault)⟩] [] c'
  | write {c : Channel} {connection : Connection} {payload : String} {reachable : Bool}
      {bytes : Bytes} : c.connection.write payload reachable = (.ok bytes, connection) →
        Emits c [] [⟨.write payload, .ok ()⟩] bytes { c with connection }
  | refuse {c : Channel} {connection : Connection} {payload : String} {reachable : Bool}
      {e : WireError} : c.connection.write payload reachable = (.error e, connection) →
        Emits c [] [⟨.write payload, .error e⟩] [] { c with connection }
  /-- The connection breaks while a frame is sent. -/
  | breakOff {c : Channel} {connection : Connection} {payload : String} {bytes part : Bytes}
      (fault : Fault) : c.connection.write payload true = (.ok bytes, connection) →
        part <+: bytes →
        Emits c [] [⟨.write payload, .error (.io fault)⟩] part { c with connection }

/-- Many things that happen on a channel, one after the other. -/
inductive Sends : Channel → Bytes → List (Exchange Wire) → Bytes → Channel → Prop where
  | refl (c : Channel) : Sends c [] [] [] c
  | cons {c c' c'' : Channel} {arrived arrived' out out' : Bytes}
      {log log' : List (Exchange Wire)} : Emits c arrived log out c' →
      Sends c' arrived' log' out' c'' →
      Sends c (arrived ++ arrived') (log ++ log') (out ++ out') c''

/-- A frame that was written is the whole frame of a text that fits. -/
theorem fits_of_write_eq {connection connection' : Connection} {payload : String} {reachable : Bool}
    {bytes : Bytes} (h : connection.write payload reachable = (.ok bytes, connection')) :
    Fits payload ∧ bytes = frameBytes (.ofText payload) := by
  rw [Connection.write] at h
  split at h
  · cases h
  · by_cases hfits : Fits payload
    · rw [encodeFrame_of_fits hfits] at h
      cases reachable with
      | false => cases h
      | true =>
          obtain ⟨hbytes, -⟩ := Prod.mk.inj h
          exact ⟨hfits, (Except.ok.inj hbytes).symm⟩
    · have hlong : encodeFrame payload =
          .error (.frameTooLarge payload.utf8ByteSize maxFrameLength) := if_neg hfits
      rw [hlong] at h
      cases h

theorem read_ne_tooLarge {result : Except WireError String} (hlook : c.look = (some result, c'))
    (length limit : Nat) : result ≠ .error (.frameTooLarge length limit) := by
  rintro rfl
  rcases Connection.readFailure_of_read (congrArg Prod.fst hlook) with hstop | hgarbled
  · cases hstop
  · cases hgarbled

theorem Emits.puts (h : c.Emits arrived log out c') :
    ∃ parts, List.Forall₂ Wire.Puts log parts ∧ out = parts.flatten := by
  have hsingle : ∀ {e : Exchange Wire}, Wire.Puts e out →
      ∃ parts, List.Forall₂ Wire.Puts [e] parts ∧ out = parts.flatten := by
    intro e hputs
    exact ⟨[out], .cons hputs .nil, (List.append_nil out).symm⟩
  cases h with
  | lose fault hlook =>
      apply hsingle
      exact .read fun _ _ heq => by cases heq
  | write hwrite =>
      obtain ⟨hfits, rfl⟩ := fits_of_write_eq hwrite
      exact hsingle (.written hfits)
  | refuse hwrite =>
      apply hsingle
      rcases error_of_write_eq (congrArg Prod.fst hwrite) with ⟨fault, rfl⟩ | ⟨hlong, rfl⟩
      · exact .broken fault List.nil_prefix
      · exact .tooLong hlong
  | breakOff fault hwrite hpart =>
      obtain ⟨-, rfl⟩ := fits_of_write_eq hwrite
      exact hsingle (.broken fault hpart)
  | quiet hmoves hquiet =>
      cases hmoves with
      | arrive => exact ⟨[], .nil, rfl⟩
      | finish => exact ⟨[], .nil, rfl⟩
      | wait _ => exact ⟨[], .nil, rfl⟩
      | read hlook => exact hsingle (.read (read_ne_tooLarge hlook))
      | readWithin limit _ => exact hsingle (.readWithin limit _)
      | giveUp limit _ => exact hsingle (.readWithin limit _)
      | lose limit fault _ => exact hsingle (.readWithin limit _)
      | write _ => exact absurd trivial (hquiet _ List.mem_cons_self)
      | refuse _ _ => exact absurd trivial (hquiet _ List.mem_cons_self)
      | shutdown => exact hsingle .shutdown

/-- What is on the wire is what the exchanges have put there, one after the other. -/
theorem Sends.puts (h : c.Sends arrived log out c') :
    ∃ parts, List.Forall₂ Wire.Puts log parts ∧ out = parts.flatten := by
  induction h with
  | refl => exact ⟨[], .nil, rfl⟩
  | cons hemits _ ih =>
      obtain ⟨first, hfirst, rfl⟩ := hemits.puts
      obtain ⟨rest, hrest, rfl⟩ := ih
      exact ⟨first ++ rest, List.rel_append hfirst hrest, List.flatten_append.symm⟩

/-- Where nothing fails, a channel does no more than it does by itself. -/
theorem Emits.moves (h : c.Emits arrived log out c') (hsound : ∀ e ∈ log, ¬Wire.IsFailure e) :
    c.Moves arrived log c' := by
  cases h with
  | quiet hmoves _ => exact hmoves
  | lose fault _ => exact absurd ⟨_, rfl⟩ (hsound _ List.mem_cons_self)
  | write hwrite => exact .write hwrite
  | refuse _ => exact absurd ⟨_, rfl⟩ (hsound _ List.mem_cons_self)
  | breakOff fault _ _ => exact absurd ⟨_, rfl⟩ (hsound _ List.mem_cons_self)

theorem Sends.passes (h : c.Sends arrived log out c') (hsound : ∀ e ∈ log, ¬Wire.IsFailure e) :
    c.Passes arrived log c' := by
  induction h with
  | refl c => exact .refl c
  | cons hemits _ ih =>
      rw [List.forall_mem_append] at hsound
      exact .cons (hemits.moves hsound.1) (ih hsound.2)

theorem Sends.eq_framesOf (h : c.Sends arrived log out c')
    (hsound : ∀ e ∈ log, ¬Wire.IsFailure e) : out = framesOf (Wire.sent log) := by
  obtain ⟨parts, hputs, rfl⟩ := h.puts
  exact Wire.flatten_eq_framesOf hputs hsound

theorem Emits.sends (h : c.Emits arrived log out c') : c.Sends arrived log out c' := by
  have hsends := Sends.cons h (.refl c')
  rwa [List.append_nil, List.append_nil, List.append_nil] at hsends

theorem Sends.append {c'' : Channel} {arrived' out' : Bytes} {log' : List (Exchange Wire)}
    (h : c.Sends arrived log out c') (h' : c'.Sends arrived' log' out' c'') :
    c.Sends (arrived ++ arrived') (log ++ log') (out ++ out') c'' := by
  induction h with
  | refl => exact h'
  | cons hemits _ ih =>
      rw [List.append_assoc, List.append_assoc, List.append_assoc]
      exact .cons hemits (ih h')

/-- Whatever the other side sends, without a failure it is read in its order. -/
theorem Sends.carries {texts : List String} {later : Bytes}
    (h : opened.Sends arrived log out c) (hsound : ∀ e ∈ log, ¬Wire.IsFailure e)
    (hfits : ∀ text ∈ texts, Fits text) (hbytes : arrived ++ later = framesOf texts) :
    c.Sane ∧ ∃ rest, texts = Wire.got log ++ rest ∧ c.Carries rest later := by
  have hpasses := h.passes hsound
  have hreads : ∀ e ∈ log, ¬Wire.Fails e := fun e he hfails => hsound e he hfails.isFailure
  have hopened : opened.Carries texts (arrived ++ later) :=
    ⟨Connection.intact_opened, hfits, hbytes⟩
  refine ⟨?_, hopened.passes hpasses hreads⟩
  rcases sane_opened.heard.passes hpasses fun e he hfails => absurd hfails (hreads e he) with
    ⟨hgarbled, -⟩ | ⟨-, hsane⟩
  · obtain hnever | ⟨e, he, hgarbled⟩ := hgarbled
    · exact hnever.elim
    · exact absurd hgarbled.fails (hreads e he)
  · exact hsane

/-! ## Texts on their way -/

namespace Flows

variable {texts : List String} {later : Bytes}

/-- What is still missing arrives. -/
theorem arrives (h : c.Flows texts later) :
    c.Sends later [] [] (c.receive later) ∧ (c.receive later).Flows texts [] := by
  have harrive : c.Emits later [] [] (c.receive later) :=
    .quiet (.arrive c later) fun _ he => absurd he List.not_mem_nil
  rw [← List.append_nil later] at h
  exact ⟨harrive.sends, h.receive⟩

/-- The other side writes more texts. -/
theorem extend_all {more : List String} (h : c.Flows texts later) (hfits : ∀ t ∈ more, Fits t) :
    c.Flows (texts ++ more) (later ++ framesOf more) := by
  induction more generalizing texts later with
  | nil =>
      rw [framesOf_nil, List.append_nil, List.append_nil]
      exact h
  | cons text rest ih =>
      obtain ⟨hfirst, hrest⟩ := List.forall_mem_cons.mp hfits
      have hall := ih (h.extend hfirst) hrest
      rwa [List.append_assoc, List.append_assoc, ← framesOf_cons] at hall

/-- When everything has arrived, the first text can be read. -/
theorem reads {text : String} {rest : List String} (h : c.Flows (text :: rest) []) :
    ∃ c', c.Sends [] [⟨.read, .ok text⟩] [] c' ∧ c'.Flows rest [] := by
  obtain ⟨c', hlook, hflows⟩ := h.look_all
  have hread : c.Emits [] [⟨.read, .ok text⟩] [] c' := by
    refine .quiet (.read hlook) fun e he => ?_
    rw [List.mem_singleton.mp he]
    exact id
  exact ⟨c', hread.sends, hflows⟩

/-- A frame can be written at any time. -/
theorem writes {payload : String} (h : c.Flows texts later) (hfits : Fits payload) :
    ∃ c', c.Sends [] [⟨.write payload, .ok ()⟩] (frameBytes (.ofText payload)) c' ∧
      c'.Flows texts later := by
  have hwrite : c.connection.write payload true =
      (.ok (frameBytes (.ofText payload)), { c.connection with unsent := 0 }) := by
    simp [Connection.write, encodeFrame_of_fits hfits]
  obtain ⟨c', hsend, hflows, -⟩ := h.send hfits
  rw [Channel.send, hwrite] at hsend
  obtain ⟨-, rfl⟩ := Prod.mk.inj hsend
  exact ⟨_, Emits.sends (.write hwrite), hflows⟩

/-- A frame can be written and the answer to it read. -/
theorem exchange {frame answer : String} (h : c.Flows [] []) (hframe : Fits frame)
    (hanswer : Fits answer) :
    ∃ c', c.Sends (frameBytes (.ofText answer))
        [⟨.write frame, .ok ()⟩, ⟨.read, .ok answer⟩] (frameBytes (.ofText frame)) c' ∧
      c'.Flows [] [] := by
  obtain ⟨c₁, hwritten, hflows₁⟩ := h.writes hframe
  obtain ⟨harrived, hflows₂⟩ := (hflows₁.extend hanswer).arrives
  obtain ⟨c₃, hread, hflows₃⟩ := hflows₂.reads
  have hsends := (hwritten.append harrived).append hread
  refine ⟨c₃, ?_, hflows₃⟩
  simpa using hsends

end Flows

end Channel

end QueryGateway
