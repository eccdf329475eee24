import QueryGateway.Proofs.Program.Runs
import QueryGateway.Proofs.Wire.Frames

/-! # Connections at work

Bytes arrive on a connection whenever the other side and the network like: before a request is
made, between two looks of a read that waits, or after the read gave up. However they come, reads
return the texts that were sent, each once and in their order.
-/

namespace QueryGateway

/-- A connection, and what has arrived for it. -/
structure Channel where
  connection : Connection
  inlet : Inlet

namespace Channel

/-- A channel that was just opened. -/
def opened : Channel := ⟨.opened, ⟨[], false⟩⟩

/-- The connection of the channel is in order. -/
def Intact (c : Channel) : Prop :=
  c.connection.Intact

/-- The bytes that have arrived and were not read as frames. -/
def pending (c : Channel) : Bytes :=
  c.connection.pending c.inlet

/-- Looks for a frame. -/
def look (c : Channel) : Option (Except WireError String) × Channel :=
  let (result, connection, inlet) := c.connection.read c.inlet
  (result, ⟨connection, inlet⟩)

/-- Bytes arrive. -/
def receive (c : Channel) (bytes : Bytes) : Channel :=
  { c with inlet := { c.inlet with waiting := c.inlet.waiting ++ bytes } }

/-- The end of the input arrives. -/
def finish (c : Channel) : Channel :=
  { c with inlet := { c.inlet with ended := true } }

/-- One thing that happens on a channel: which bytes arrive by it, and which request is answered. -/
inductive Moves : Channel → Bytes → List (Exchange Wire) → Channel → Prop where
  | arrive (c : Channel) (bytes : Bytes) : Moves c bytes [] (c.receive bytes)
  | finish (c : Channel) : Moves c [] [] c.finish
  /-- A read that finds nothing waits. -/
  | wait {c c' : Channel} : c.look = (none, c') → Moves c [] [] c'
  | read {c c' : Channel} {result : Except WireError String} :
      c.look = (some result, c') → Moves c [] [⟨.read, result⟩] c'
  | readWithin {c c' : Channel} {result : Except WireError String} (limit : Nat) :
      c.look = (some result, c') → Moves c [] [⟨.readWithin limit, some result⟩] c'
  /-- The time of a read that finds nothing is over. -/
  | giveUp {c c' : Channel} (limit : Nat) :
      c.look = (none, c') → Moves c [] [⟨.readWithin limit, none⟩] c'
  | lose {c c' : Channel} (limit : Nat) (fault : Fault) :
      c.look = (none, c') → Moves c [] [⟨.readWithin limit, some (.error (.io fault))⟩] c'
  | write {c : Channel} {connection : Connection} {payload : String} {reachable : Bool}
      {written : Except WireError Bytes} :
      c.connection.write payload reachable = (written, connection) →
        Moves c [] [⟨.write payload, written.map fun _ => ()⟩] { c with connection }
  /-- The system does not take the bytes of a frame. -/
  | refuse {c : Channel} {connection : Connection} {payload : String} {bytes : Bytes}
      (fault : Fault) : c.connection.write payload true = (.ok bytes, connection) →
        Moves c [] [⟨.write payload, .error (.io fault)⟩] { c with connection }
  | shutdown (c : Channel) : Moves c [] [⟨.shutdown, ()⟩] c

/-- Many things that happen on a channel, one after the other. -/
inductive Passes : Channel → Bytes → List (Exchange Wire) → Channel → Prop where
  | refl (c : Channel) : Passes c [] [] c
  | cons {c c' c'' : Channel} {bytes bytes' : Bytes} {log log' : List (Exchange Wire)} :
      Moves c bytes log c' → Passes c' bytes' log' c'' →
      Passes c (bytes ++ bytes') (log ++ log') c''

end Channel

namespace Wire

/-- The text that an exchange has read. -/
def got? : Exchange Wire → Option String
  | ⟨.read, answer⟩ => (answer : Except WireError String).toOption
  | ⟨.readWithin _, answer⟩ =>
    (answer : Option (Except WireError String)).bind Except.toOption
  | ⟨.write _, _⟩ | ⟨.shutdown, _⟩ => none

/-- The text that an exchange has written. -/
def sent? : Exchange Wire → Option String
  | ⟨.write payload, answer⟩ => (answer : Except WireError Unit).toOption.map fun () => payload
  | ⟨.read, _⟩ | ⟨.readWithin _, _⟩ | ⟨.shutdown, _⟩ => none

/-- An exchange is a read that has failed. -/
def Fails : Exchange Wire → Prop
  | ⟨.read, answer⟩ => ∃ e, (answer : Except WireError String) = .error e
  | ⟨.readWithin _, answer⟩ => ∃ e, (answer : Option (Except WireError String)) = some (.error e)
  | ⟨.write _, _⟩ | ⟨.shutdown, _⟩ => False

/-- The texts that were read. -/
def got (log : List (Exchange Wire)) : List String :=
  log.filterMap got?

/-- The texts that were written. -/
def sent (log : List (Exchange Wire)) : List String :=
  log.filterMap sent?

@[simp] theorem got_append (first second : List (Exchange Wire)) :
    got (first ++ second) = got first ++ got second :=
  List.filterMap_append

@[simp] theorem sent_append (first second : List (Exchange Wire)) :
    sent (first ++ second) = sent first ++ sent second :=
  List.filterMap_append

end Wire

namespace Channel

variable {c c' : Channel} {bytes later : Bytes} {log : List (Exchange Wire)} {texts : List String}

theorem pending_receive (c : Channel) (bytes : Bytes) :
    (c.receive bytes).pending = c.pending ++ bytes := by
  simp [pending, Connection.pending, receive]

theorem Passes.append {c'' : Channel} {bytes' : Bytes} {log' : List (Exchange Wire)}
    (h : c.Passes bytes log c') (h' : c'.Passes bytes' log' c'') :
    c.Passes (bytes ++ bytes') (log ++ log') c'' := by
  induction h with
  | refl => exact h'
  | cons hmoves _ ih =>
      rw [List.append_assoc, List.append_assoc]
      exact .cons hmoves (ih h')

theorem Moves.passes (h : c.Moves bytes log c') : c.Passes bytes log c' := by
  have hpasses := Passes.cons h (.refl c')
  rwa [List.append_nil, List.append_nil] at hpasses

/-- A write changes nothing but how much is left unsent. -/
theorem exists_write_eq (c : Connection) (payload : String) (reachable : Bool) :
    ∃ unsent, (c.write payload reachable).2 = { c with unsent } := by
  rw [Connection.write]
  split
  · exact ⟨_, rfl⟩
  · split
    · exact ⟨_, rfl⟩
    · split
      · exact ⟨_, rfl⟩
      · exact ⟨_, rfl⟩

theorem finds_look (h : c.Intact) :
    Connection.Finds c.pending (c.connection.ended || c.inlet.ended) c.look.1 c.look.2.connection
      c.look.2.inlet :=
  Connection.finds_read h c.inlet

/-- The other side sends these texts, and `later` is what still has to arrive of them. -/
structure Carries (c : Channel) (texts : List String) (later : Bytes) : Prop where
  intact : c.Intact
  fits : ∀ text ∈ texts, Fits text
  bytes : c.pending ++ later = framesOf texts

namespace Carries

theorem look_none (h : c.Carries texts later) (hlook : c.look = (none, c')) :
    c'.Carries texts later := by
  have hfinds := finds_look h.intact
  rw [hlook] at hfinds
  cases hfinds with
  | nothing _ hpending hintact =>
      have hbytes : c'.pending = c.pending := hpending
      exact ⟨hintact, h.fits, hbytes ▸ h.bytes⟩

theorem look_text {text : String} (h : c.Carries texts later)
    (hlook : c.look = (some (.ok text), c')) :
    ∃ rest, texts = text :: rest ∧ c'.Carries rest later := by
  have hfinds := finds_look h.intact
  rw [hlook] at hfinds
  cases hfinds with
  | text hframe hintact =>
      obtain ⟨text', rest, rfl, htext, hrest⟩ := firstFrame?_of_framesOf h.fits h.bytes hframe
      have heq : some text = some text' := by
        rw [← Bytes.text?_ofText text, htext, Bytes.text?_ofText]
      obtain rfl := Option.some.inj heq
      exact ⟨rest, rfl, hintact, fun t ht => h.fits t (List.mem_cons_of_mem _ ht), hrest⟩

theorem write (h : c.Carries texts later) (payload : String) (reachable : Bool) :
    Carries { c with connection := (c.connection.write payload reachable).2 } texts later := by
  obtain ⟨unsent, hwrite⟩ := exists_write_eq c.connection payload reachable
  rw [hwrite]
  exact ⟨⟨h.intact.sound, h.intact.working, h.intact.looked⟩, h.fits, h.bytes⟩

theorem moves (h : c.Carries texts (bytes ++ later)) (hmoves : c.Moves bytes log c')
    (hreads : ∀ e ∈ log, ¬Wire.Fails e) :
    ∃ rest, texts = Wire.got log ++ rest ∧ c'.Carries rest later := by
  have hread : ∀ {result : Except WireError String}, c.look = (some result, c') → bytes = [] →
      (∀ e, result ≠ .error e) →
      ∃ rest, texts = result.toOption.toList ++ rest ∧ c'.Carries rest later := by
    rintro result hlook rfl hok
    cases result with
    | error e => exact absurd rfl (hok e)
    | ok text => exact h.look_text hlook
  cases hmoves with
  | arrive =>
      refine ⟨texts, rfl, h.intact, h.fits, ?_⟩
      rw [← h.bytes, pending_receive, List.append_assoc]
  | finish => exact ⟨texts, rfl, h.intact, h.fits, h.bytes⟩
  | wait hlook => exact ⟨texts, rfl, h.look_none hlook⟩
  | @read _ result hlook =>
      have hok := hreads _ List.mem_cons_self
      obtain ⟨rest, rfl, hrest⟩ := hread hlook rfl fun e he => hok ⟨e, he⟩
      refine ⟨rest, ?_, hrest⟩
      cases result with
      | error e => rfl
      | ok text => rfl
  | @readWithin _ result limit hlook =>
      have hok := hreads _ List.mem_cons_self
      obtain ⟨rest, rfl, hrest⟩ := hread hlook rfl fun e he => hok ⟨e, congrArg some he⟩
      refine ⟨rest, ?_, hrest⟩
      cases result with
      | error e => rfl
      | ok text => rfl
  | giveUp limit hlook => exact ⟨texts, rfl, h.look_none hlook⟩
  | lose limit fault hlook => exact absurd ⟨_, rfl⟩ (hreads _ List.mem_cons_self)
  | @write connection payload reachable written hwrite =>
      have hcarries := Carries.write h payload reachable
      rw [hwrite] at hcarries
      exact ⟨texts, rfl, hcarries⟩
  | @refuse connection payload _ fault hwrite =>
      have hcarries := Carries.write h payload true
      rw [hwrite] at hcarries
      exact ⟨texts, rfl, hcarries⟩
  | shutdown => exact ⟨texts, rfl, h⟩

/-- Whatever happens on a channel, the reads that do not fail return what was sent. -/
theorem passes (h : c.Carries texts (bytes ++ later)) (hpasses : c.Passes bytes log c')
    (hreads : ∀ e ∈ log, ¬Wire.Fails e) :
    ∃ rest, texts = Wire.got log ++ rest ∧ c'.Carries rest later := by
  induction hpasses generalizing texts with
  | refl => exact ⟨texts, rfl, h⟩
  | @cons c c₁ c₂ bytes bytes' log log' hmoves _ ih =>
      rw [List.append_assoc] at h
      obtain ⟨middle, rfl, hmiddle⟩ := h.moves hmoves fun e he =>
        hreads e (List.mem_append_left _ he)
      obtain ⟨rest, rfl, hrest⟩ := ih hmiddle fun e he => hreads e (List.mem_append_right _ he)
      exact ⟨rest, by rw [Wire.got_append, List.append_assoc], hrest⟩

end Carries

/-! ## Single exchanges -/

theorem length_le_of_moves (h : c.Moves bytes log c') : log.length ≤ 1 := by
  cases h <;> simp

/-- Every exchange is one of the moves of a channel. -/
theorem exists_moves_of_mem {exchange : Exchange Wire} (h : c.Passes bytes log c')
    (hmem : exchange ∈ log) : ∃ c₁ later c₂, Moves c₁ later [exchange] c₂ := by
  induction h with
  | refl => cases hmem
  | @cons c c₁ _ bytes _ log _ hmoves _ ih =>
      rcases List.mem_append.mp hmem with hfirst | hlater
      · obtain ⟨only, rfl⟩ : ∃ only, log = [only] :=
          List.length_eq_one_iff.mp (Nat.le_antisymm (length_le_of_moves hmoves)
            (List.length_pos_of_mem hfirst))
        obtain rfl := List.mem_singleton.mp hfirst
        exact ⟨c, bytes, c₁, hmoves⟩
      · exact ih hlater

/-! ## Failures -/

theorem losesConnection_of_endsStream {e : WireError} (h : e.endsStream = true) :
    e.losesConnection = true := by
  cases e with
  | closed => rfl
  | truncated remaining => rfl
  | frameTooLarge length limit => cases h
  | invalidUtf8 => cases h
  | io fault => rfl

/-- A read that fails on a connection that is not lost has met a payload that is no text. -/
theorem Moves.losesConnection_or_of_read {limit : Nat} {e : WireError}
    (h : c.Moves bytes [⟨.readWithin limit, some (.error e)⟩] c') :
    e.losesConnection = true ∨ e = .invalidUtf8 := by
  generalize hlog : [(⟨.readWithin limit, some (.error e)⟩ : Exchange Wire)] = log at h
  cases h with
  | arrive => cases hlog
  | finish => cases hlog
  | wait _ => cases hlog
  | read _ => cases hlog
  | readWithin limit' hlook =>
      cases hlog
      rcases Connection.readFailure_of_read (congrArg Prod.fst hlook) with hstop | rfl
      · exact .inl (losesConnection_of_endsStream hstop)
      · exact .inr rfl
  | giveUp limit' _ => cases hlog
  | lose limit' fault _ =>
      cases hlog
      exact .inl rfl
  | write _ => cases hlog
  | refuse _ _ => cases hlog
  | shutdown => cases hlog

theorem error_of_write_eq {connection : Connection} {payload : String} {reachable : Bool}
    {e : WireError} (h : (connection.write payload reachable).1 = .error e) :
    (∃ fault, e = .io fault) ∨
      ¬Fits payload ∧ e = .frameTooLarge payload.utf8ByteSize maxFrameLength := by
  rw [Connection.write] at h
  split at h
  · cases h
    exact .inl ⟨_, rfl⟩
  · by_cases hfits : Fits payload
    · rw [encodeFrame_of_fits hfits] at h
      cases reachable with
      | false =>
          cases h
          exact .inl ⟨_, rfl⟩
      | true => cases h
    · have hlong : encodeFrame payload =
          .error (.frameTooLarge payload.utf8ByteSize maxFrameLength) := if_neg hfits
      rw [hlong] at h
      cases h
      exact .inr ⟨hfits, rfl⟩

/-- A frame is refused by the system, or because its text is too long. -/
theorem Moves.error_of_write {payload : String} {e : WireError}
    (h : c.Moves bytes [⟨.write payload, .error e⟩] c') :
    (∃ fault, e = .io fault) ∨
      ¬Fits payload ∧ e = .frameTooLarge payload.utf8ByteSize maxFrameLength := by
  generalize hlog : [(⟨.write payload, .error e⟩ : Exchange Wire)] = log at h
  cases h with
  | arrive => cases hlog
  | finish => cases hlog
  | wait _ => cases hlog
  | read _ => cases hlog
  | readWithin limit' hlook => cases hlog
  | giveUp limit' _ => cases hlog
  | lose limit' fault _ => cases hlog
  | @write connection payload' reachable written hwrite =>
      cases written with
      | ok sent => cases hlog
      | error e' =>
          cases hlog
          exact error_of_write_eq (congrArg Prod.fst hwrite)
  | refuse fault _ =>
      cases hlog
      exact .inl ⟨fault, rfl⟩
  | shutdown => cases hlog

/-- A frame that fits is refused only by a connection that is lost. -/
theorem Moves.losesConnection_of_write {payload : String} {e : WireError} (hfits : Fits payload)
    (h : c.Moves bytes [⟨.write payload, .error e⟩] c') : e.losesConnection = true := by
  rcases h.error_of_write with ⟨fault, rfl⟩ | ⟨hlong, -⟩
  · rfl
  · exact absurd hfits hlong

/-! ## Channels whose input goes on -/

/-- The channel is in order, and the other side has not ended it. -/
structure IsOpen (c : Channel) : Prop where
  intact : c.Intact
  connection : c.connection.ended = false
  inlet : c.inlet.ended = false

theorem isOpen_opened : opened.IsOpen :=
  ⟨Connection.intact_opened, rfl, rfl⟩

namespace IsOpen

theorem receive (h : c.IsOpen) (bytes : Bytes) : (c.receive bytes).IsOpen :=
  ⟨h.intact, h.connection, h.inlet⟩

/-- A frame that fits is written. -/
theorem write (h : c.IsOpen) {payload : String} (hfits : Fits payload) :
    ∃ c', c.Moves [] [⟨.write payload, .ok ()⟩] c' ∧ c'.IsOpen ∧ c'.pending = c.pending := by
  have hwrite : c.connection.write payload true =
      (.ok (frameBytes (.ofText payload)), { c.connection with unsent := 0 }) := by
    simp [Connection.write, encodeFrame_of_fits hfits]
  exact ⟨_, .write hwrite, ⟨⟨h.intact.sound, h.intact.working, h.intact.looked⟩, h.connection,
    h.inlet⟩, rfl⟩

theorem look (h : c.IsOpen) : c.look.2.connection.ended = false ∧ c.look.2.inlet.ended = false :=
  Connection.ended_read h.connection h.inlet

/-- As soon as a frame of a text is complete, a read returns the text. -/
theorem look_text {text : String} {rest : Bytes} (h : c.IsOpen)
    (hframe : firstFrame? c.pending = some (.ofText text, rest)) :
    ∃ c', c.look = (some (.ok text), c') ∧ c'.IsOpen ∧ c'.pending = rest := by
  have hfinds := finds_look h.intact
  have hended := h.look
  rw [h.connection, h.inlet, Bool.or_false] at hfinds
  match hlook : c.look with
  | (result, c') =>
      rw [hlook] at hfinds hended
      cases hfinds with
      | text hframe' hintact =>
          rw [hframe] at hframe'
          obtain ⟨htext, hrest⟩ := Prod.mk.inj (Option.some.inj hframe')
          have heq := congrArg Bytes.text? htext
          rw [Bytes.text?_ofText, Bytes.text?_ofText] at heq
          obtain rfl := Option.some.inj heq
          exact ⟨c', rfl, ⟨hintact, hended.1, hended.2⟩, hrest.symm⟩
      | garbled hframe' htext =>
          rw [hframe] at hframe'
          obtain ⟨rfl, -⟩ := Prod.mk.inj (Option.some.inj hframe')
          rw [Bytes.text?_ofText] at htext
          cases htext
      | nothing hframe' _ _ =>
          rw [hframe] at hframe'
          cases hframe'
      | stop hend _ => cases hend

/-- As soon as a frame that is no text is complete, a read fails. -/
theorem look_garbled {payload rest : Bytes} (h : c.IsOpen)
    (hframe : firstFrame? c.pending = some (payload, rest)) (hgarbled : payload.text? = none) :
    ∃ c', c.look = (some (.error .invalidUtf8), c') := by
  have hfinds := finds_look h.intact
  rw [h.connection, h.inlet, Bool.or_false] at hfinds
  match hlook : c.look with
  | (result, c') =>
      rw [hlook] at hfinds
      cases hfinds with
      | text hframe' _ =>
          rw [hframe] at hframe'
          obtain ⟨rfl, -⟩ := Prod.mk.inj (Option.some.inj hframe')
          rw [Bytes.text?_ofText] at hgarbled
          cases hgarbled
      | garbled _ _ => exact ⟨c', rfl⟩
      | nothing hframe' _ _ =>
          rw [hframe] at hframe'
          cases hframe'
      | stop hend _ => cases hend

/-- Until the first frame is complete, a read waits. -/
theorem look_none (h : c.IsOpen) (hframe : firstFrame? c.pending = none) :
    ∃ c', c.look = (none, c') ∧ c'.IsOpen ∧ c'.pending = c.pending := by
  have hfinds := finds_look h.intact
  have hended := h.look
  rw [h.connection, h.inlet, Bool.or_false] at hfinds
  match hlook : c.look with
  | (result, c') =>
      rw [hlook] at hfinds hended
      cases hfinds with
      | text hframe' _ =>
          rw [hframe] at hframe'
          cases hframe'
      | garbled hframe' _ =>
          rw [hframe] at hframe'
          cases hframe'
      | nothing _ hpending hintact => exact ⟨c', rfl, ⟨hintact, hended.1, hended.2⟩, hpending⟩
      | stop hend _ => cases hend

end IsOpen

/-! ## Texts on their way -/

/-- Writes a frame to the other side, which can be reached. -/
def send (c : Channel) (payload : String) : Except WireError Bytes × Channel :=
  let (written, connection) := c.connection.write payload true
  (written, { c with connection })

theorem fst_send (c : Channel) {payload : String} (hfits : Fits payload) :
    (c.send payload).1 = .ok (frameBytes (.ofText payload)) := by
  simp [send, Connection.write, encodeFrame_of_fits hfits]

/-- These texts are on their way on an open channel, and `later` has not arrived of them. -/
structure Flows (c : Channel) (texts : List String) (later : Bytes) : Prop where
  carries : c.Carries texts later
  isOpen : c.IsOpen

theorem flows_opened : opened.Flows [] [] :=
  ⟨⟨Connection.intact_opened, fun _ h => absurd h List.not_mem_nil, rfl⟩, isOpen_opened⟩

namespace Flows

theorem receive (h : c.Flows texts (bytes ++ later)) : (c.receive bytes).Flows texts later := by
  refine ⟨⟨h.carries.intact, h.carries.fits, ?_⟩, h.isOpen.receive bytes⟩
  rw [pending_receive, List.append_assoc]
  exact h.carries.bytes

/-- The other side writes one more text. -/
theorem extend {text : String} (h : c.Flows texts later) (hfits : Fits text) :
    c.Flows (texts ++ [text]) (later ++ frameBytes (.ofText text)) := by
  refine ⟨⟨h.carries.intact, ?_, ?_⟩, h.isOpen⟩
  · intro t ht
    rcases List.mem_append.mp ht with ht | ht
    · exact h.carries.fits t ht
    · rw [List.mem_singleton.mp ht]
      exact hfits
  · rw [← List.append_assoc, h.carries.bytes, framesOf_append]
    simp [framesOf]

theorem write (h : c.Flows texts later) (payload : String) (reachable : Bool) :
    Flows { c with connection := (c.connection.write payload reachable).2 } texts later := by
  refine ⟨h.carries.write payload reachable, ?_⟩
  obtain ⟨unsent, hwrite⟩ := exists_write_eq c.connection payload reachable
  rw [hwrite]
  exact ⟨⟨h.carries.intact.sound, h.carries.intact.working, h.carries.intact.looked⟩,
    h.isOpen.connection, h.isOpen.inlet⟩

theorem send {payload : String} (h : c.Flows texts later) (hfits : Fits payload) :
    ∃ c', c.send payload = (.ok (frameBytes (.ofText payload)), c') ∧ c'.Flows texts later ∧
      c'.pending = c.pending ∧ c'.inlet = c.inlet ∧
        c'.connection.readable = c.connection.readable := by
  have hflows := h.write payload true
  obtain ⟨unsent, hwrite⟩ := exists_write_eq c.connection payload true
  rw [hwrite] at hflows
  refine ⟨_, Prod.ext (c.fst_send hfits) ?_, hflows, rfl, rfl, rfl⟩
  rw [← hwrite]
  rfl

/-- A look finds nothing, or the first of the texts. -/
theorem look (h : c.Flows texts later) :
    (∃ c', c.look = (none, c') ∧ c'.Flows texts later ∧ c'.pending = c.pending) ∨
      ∃ text rest c', texts = text :: rest ∧ c.look = (some (.ok text), c') ∧
        c'.Flows rest later := by
  cases hframe : firstFrame? c.pending with
  | none =>
      obtain ⟨c', hlook, hopen, hpending⟩ := h.isOpen.look_none hframe
      exact .inl ⟨c', hlook, ⟨h.carries.look_none hlook, hopen⟩, hpending⟩
  | some frame =>
      obtain ⟨payload, bytes⟩ := frame
      obtain ⟨text, rest, rfl, rfl, -⟩ :=
        firstFrame?_of_framesOf h.carries.fits h.carries.bytes hframe
      obtain ⟨c', hlook, hopen, -⟩ := h.isOpen.look_text hframe
      obtain ⟨rest', hrest, hcarries⟩ := h.carries.look_text hlook
      obtain rfl := (List.cons.inj hrest).2
      exact .inr ⟨text, rest, c', rfl, hlook, hcarries, hopen⟩

theorem of_look_none (h : c.Flows texts later) (hlook : c.look = (none, c')) :
    c'.Flows texts later ∧ c'.pending = c.pending := by
  rcases h.look with ⟨c'', hnone, hrest⟩ | ⟨text, rest, c'', -, hsome, -⟩
  · rw [hlook] at hnone
    cases hnone
    exact hrest
  · rw [hlook] at hsome
    cases hsome

theorem of_look_some {result : Except WireError String} (h : c.Flows texts later)
    (hlook : c.look = (some result, c')) :
    ∃ text rest, texts = text :: rest ∧ result = .ok text ∧ c'.Flows rest later := by
  rcases h.look with ⟨c'', hnone, -⟩ | ⟨text, rest, c'', htexts, hsome, hrest⟩
  · rw [hlook] at hnone
    cases hnone
  · rw [hlook] at hsome
    cases hsome
    exact ⟨text, rest, htexts, rfl, hrest⟩

/-- When everything has arrived, a look finds the first text. -/
theorem look_all {text : String} {rest : List String} (h : c.Flows (text :: rest) []) :
    ∃ c', c.look = (some (.ok text), c') ∧ c'.Flows rest [] := by
  have hlength : (Bytes.ofText text).length ≤ maxFrameLength := by
    rw [Bytes.length_ofText]
    exact h.carries.fits text List.mem_cons_self
  have hpending := h.carries.bytes
  rw [List.append_nil, framesOf_cons] at hpending
  have hframe := firstFrame?_frameBytes hlength (framesOf rest)
  rw [← hpending] at hframe
  obtain ⟨c', hlook, hopen, -⟩ := h.isOpen.look_text hframe
  obtain ⟨rest', hrest, hcarries⟩ := h.carries.look_text hlook
  obtain rfl := (List.cons.inj hrest).2
  exact ⟨c', hlook, hcarries, hopen⟩

end Flows

/-! ## Looks that change nothing -/

/-- How much of a channel a look that finds nothing would still change. -/
def restless (c : Channel) : Nat :=
  (!c.inlet.waiting.isEmpty).toNat + c.connection.readable.toNat

theorem restless_receive_le (c : Channel) (bytes : Bytes) :
    (c.receive bytes).restless ≤ c.restless + 1 := by
  have hwaiting := Bool.toNat_le (!(c.inlet.waiting ++ bytes).isEmpty)
  simp only [restless, receive]
  omega

theorem readable_poll {connection connection' : Connection}
    (hpoll : connection.poll = (none, connection')) : connection'.readable = false := by
  have h : connection.poll.1 = none := congrArg Prod.fst hpoll
  have hlast : connection.poll.2 = connection' := congrArg Prod.snd hpoll
  rw [← hlast]
  rw [Connection.poll] at h ⊢
  by_cases hfailed : connection.failed = true
  · simp [hfailed] at h
  · by_cases hreadable : connection.readable = true
    · by_cases hended : connection.ended = true
      · simp only [hfailed, hreadable, hended, Bool.false_eq_true, Bool.not_true, if_false,
          if_true] at h
        generalize connection.settle connection.decoder.nextAtEnd = settled at h
        obtain ⟨result, settled⟩ := settled
        cases result with
        | none => cases h
        | some found => cases h
      · simp only [hfailed, hreadable, hended, Bool.false_eq_true, Bool.not_true, if_false] at h ⊢
        generalize connection.decoder.next = found at h ⊢
        obtain ⟨result, decoder⟩ := found
        cases result with
        | none => rfl
        | some found =>
            cases found with
            | error e => cases h
            | ok text => cases h
    · simp [hfailed, hreadable]

/-- After a look that finds nothing, nothing is left to look at. -/
theorem restless_of_look_none (hlook : c.look = (none, c')) : c'.restless = 0 := by
  have hread : c.connection.read c.inlet = (none, c'.connection, c'.inlet) := by
    obtain ⟨hresult, rfl⟩ := Prod.mk.inj hlook
    exact Prod.ext hresult rfl
  have hcalm : c'.connection.readable = false ∧ c'.inlet.waiting = [] := by
    rw [Connection.read] at hread
    split at hread
    · cases hread
    · next c₁ hpoll =>
        have hcalm₁ := readable_poll hpoll
        simp only at hread
        split at hread
        · cases hread
        · next c₂ hnext =>
            have hcalm₂ : c₂.readable = false := by
              by_cases hempty : c.inlet.waiting.isEmpty = true
              · rw [if_pos hempty] at hnext
                rw [← (Prod.mk.inj hnext).2]
                exact hcalm₁
              · rw [if_neg hempty] at hnext
                exact readable_poll hnext
            split at hread
            · obtain ⟨hconnection, hinlet⟩ := Prod.mk.inj (Prod.mk.inj hread).2
              rw [← hconnection, ← hinlet]
              exact ⟨hcalm₂, rfl⟩
            · split at hread
              · cases hread
              · cases hread
  rw [restless, hcalm.1, hcalm.2]
  rfl

theorem look_of_restless (h : c.IsOpen) (hcalm : c.restless = 0) : c.look = (none, c) := by
  have hwaiting : c.inlet.waiting = [] := by
    have hzero : (!c.inlet.waiting.isEmpty).toNat = 0 := by
      rw [restless] at hcalm
      omega
    simpa using hzero
  have hreadable : c.connection.readable = false := by
    have hzero : c.connection.readable.toNat = 0 := by
      rw [restless] at hcalm
      omega
    simpa using hzero
  have hpoll : c.connection.poll = (none, c.connection) := by
    simp [Connection.poll, h.intact.working, hreadable]
  have hinlet : c.inlet = ⟨[], false⟩ := by
    rw [← hwaiting, ← h.inlet]
  have hread : c.connection.read c.inlet = (none, c.connection, c.inlet) := by
    rw [Connection.read, hpoll, hinlet]
    rfl
  rw [look, hread]

/-- A look that finds nothing, but changes something, leaves less to look at. -/
theorem restless_lt_of_look (h : c.IsOpen) (hlook : c.look = (none, c')) (hne : c' ≠ c) :
    c'.restless < c.restless := by
  rw [restless_of_look_none hlook]
  apply Nat.pos_of_ne_zero
  intro hcalm
  rw [look_of_restless h hcalm] at hlook
  exact hne (Prod.mk.inj hlook).2.symm

end Channel

end QueryGateway
