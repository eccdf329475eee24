import QueryGateway.Proofs.Wire.Channel

/-! # After a frame that is no text

A read that meets a frame that is no text fails, and the next read reports the end of the
connection, whatever has arrived. Until then a connection finds the texts that were sent.
-/

namespace QueryGateway

namespace Wire

/-- A read that has met a frame that is no text. -/
def Garbled : Exchange Wire → Prop
  | ⟨.readWithin _, answer⟩ =>
    (answer : Option (Except WireError String)) = some (.error .invalidUtf8)
  | ⟨.read, _⟩ | ⟨.write _, _⟩ | ⟨.shutdown, _⟩ => False

theorem Garbled.fails {exchange : Exchange Wire} (h : Garbled exchange) : Fails exchange := by
  obtain ⟨request, answer⟩ := exchange
  cases request with
  | read => cases h
  | readWithin limit => exact ⟨_, h⟩
  | write payload => cases h
  | shutdown => cases h

/-- What a read came to; nothing, if its time was over. -/
def reply? : Exchange Wire → Option (Option (Except WireError String))
  | ⟨.read, answer⟩ => some (some answer)
  | ⟨.readWithin _, answer⟩ => some answer
  | ⟨.write _, _⟩ | ⟨.shutdown, _⟩ => none

/-- What the reads came to, in order. -/
def replies (log : List (Exchange Wire)) : List (Option (Except WireError String)) :=
  log.filterMap reply?

/-- The system failed to move bytes. -/
def Breaks : Exchange Wire → Prop
  | ⟨.read, answer⟩ => ∃ fault, (answer : Except WireError String) = .error (.io fault)
  | ⟨.readWithin _, answer⟩ =>
    ∃ fault, (answer : Option (Except WireError String)) = some (.error (.io fault))
  | ⟨.write _, answer⟩ => ∃ fault, (answer : Except WireError Unit) = .error (.io fault)
  | ⟨.shutdown, _⟩ => False

theorem head_replies_append {first : List (Exchange Wire)}
    {answer : Option (Except WireError String)} (h : (replies first).head? = some answer)
    (second : List (Exchange Wire)) : (replies (first ++ second)).head? = some answer := by
  rw [replies] at h
  rw [replies, List.filterMap_append, List.head?_append, h]
  rfl

end Wire

namespace Connection

variable {c c' : Connection} {inlet : Inlet}

theorem poll_of_failed (h : c.failed = true) :
    c.poll = (some (.error .closed), { c with failed := false, readable := false }) :=
  if_pos h

theorem failed_of_settle {found : Option (Except WireError String) × FrameDecoder} {e : WireError}
    (h : c.settle found = (some (.error e), c')) : c'.failed = true := by
  match found with
  | (some (.ok _), _) => cases h
  | (some (.error _), _) =>
      cases h
      rfl
  | (none, _) => cases h

theorem failed_of_poll (h : c.poll = (some (.error .invalidUtf8), c')) : c'.failed = true := by
  rw [poll] at h
  split at h
  · cases h
  · split at h
    · cases h
    · split at h
      · split at h
        · cases h
        · next hsettle =>
            exact failed_of_settle h
      · exact failed_of_settle h

theorem failed_of_read {inlet' : Inlet}
    (h : c.read inlet = (some (.error .invalidUtf8), c', inlet')) : c'.failed = true := by
  rw [read] at h
  split at h
  · next hpoll =>
      cases h
      exact failed_of_poll hpoll
  · simp only at h
    split at h
    · next hagain =>
        cases h
        split at hagain
        · cases hagain
        · exact failed_of_poll hagain
    · split at h
      · cases h
      · split at h
        · next hend =>
            cases h
            exact failed_of_poll hend
        · cases h

theorem ended_inlet_read (c : Connection) (inlet : Inlet) :
    (c.read inlet).2.2.ended = inlet.ended := by
  rw [read]
  split
  · rfl
  · simp only
    split
    · rfl
    · split
      · rfl
      · split
        · rfl
        · rfl

end Connection

namespace Channel

open Wire

variable {c c' : Channel} {bytes : Bytes} {log : List (Exchange Wire)}

theorem look_of_failed (h : c.connection.failed = true) : c.look.1 = some (.error .closed) := by
  rw [look, Connection.read, Connection.poll_of_failed h]

theorem failed_of_look (h : c.look = (some (.error .invalidUtf8), c')) :
    c'.connection.failed = true := by
  have hread : c.connection.read c.inlet =
      (some (.error .invalidUtf8), c'.connection, c'.inlet) := by
    obtain ⟨hresult, rfl⟩ := Prod.mk.inj h
    exact Prod.ext hresult rfl
  exact Connection.failed_of_read hread

/-- The input is ended by the other side only. -/
theorem ended_look (c : Channel) : c.look.2.inlet.ended = c.inlet.ended :=
  Connection.ended_inlet_read c.connection c.inlet

theorem ended_moves (h : c.Moves bytes log c') (hended : c.inlet.ended = true) :
    c'.inlet.ended = true := by
  have hlook : ∀ {result}, c.look = (result, c') → c'.inlet.ended = true := by
    intro result heq
    have hsame := c.ended_look
    rw [heq, hended] at hsame
    exact hsame
  cases h with
  | arrive => exact hended
  | finish => rfl
  | wait heq => exact hlook heq
  | read heq => exact hlook heq
  | readWithin _ heq => exact hlook heq
  | giveUp _ heq => exact hlook heq
  | lose _ _ heq => exact hlook heq
  | write _ => exact hended
  | refuse _ _ => exact hended
  | shutdown => exact hended

theorem ended_passes (h : c.Passes bytes log c') (hended : c.inlet.ended = true) :
    c'.inlet.ended = true := by
  induction h with
  | refl => exact hended
  | cons hmoves _ ih => exact ih (ended_moves hmoves hended)

/-- An input that goes on was not ended before. -/
theorem goes_of_passes (h : c.Passes bytes log c') (hgoes : c'.inlet.ended = false) :
    c.inlet.ended = false := by
  cases hended : c.inlet.ended with
  | false => rfl
  | true => rw [ended_passes h hended] at hgoes; cases hgoes

/-! ## What has failed -/

/-- Nothing has failed on a channel, and its end was only seen if there is one. -/
structure Sane (c : Channel) : Prop where
  intact : c.Intact
  ended : c.connection.ended = true → c.inlet.ended = true

theorem sane_opened : opened.Sane :=
  ⟨Connection.intact_opened, nofun⟩

theorem Sane.isOpen (h : c.Sane) (hended : c.inlet.ended = false) : c.IsOpen := by
  refine ⟨h.intact, ?_, hended⟩
  cases hseen : c.connection.ended with
  | false => rfl
  | true => rw [h.ended hseen] at hended; cases hended

theorem Sane.ended_look (h : c.Sane) (hlook : c.look.2.connection.ended = true) :
    c.look.2.inlet.ended = true := by
  cases hended : c.inlet.ended with
  | true => rw [c.ended_look, hended]
  | false =>
      have hopen := (h.isOpen hended).look
      rw [hopen.1] at hlook
      cases hlook

/-- A look leaves a channel in order, unless it meets a frame that is no text or an end. -/
theorem Sane.look_cases (h : c.Sane) {result : Option (Except WireError String)}
    (hlook : c.look = (result, c')) :
    c'.Sane ∧ (∀ e, result ≠ some (.error e)) ∨
      result = some (.error .invalidUtf8) ∧ c'.connection.failed = true ∨
      ∃ e, result = some (.error e) ∧ e.endsStream = true := by
  have hfinds := finds_look h.intact
  have hended := h.ended_look
  rw [hlook] at hfinds hended
  cases hfinds with
  | text _ hintact => exact .inl ⟨⟨hintact, hended⟩, nofun⟩
  | garbled _ _ => exact .inr (.inl ⟨rfl, failed_of_look hlook⟩)
  | nothing _ _ hintact => exact .inl ⟨⟨hintact, hended⟩, nofun⟩
  | stop _ hstop => exact .inr (.inr ⟨_, rfl, hstop⟩)

theorem Sane.write (h : c.Sane) (payload : String) (reachable : Bool) :
    Sane { c with connection := (c.connection.write payload reachable).2 } := by
  obtain ⟨unsent, hwrite⟩ := exists_write_eq c.connection payload reachable
  rw [hwrite]
  exact ⟨⟨h.intact.sound, h.intact.working, h.intact.looked⟩, h.ended⟩

/-- A channel stays in order until a reply is no text, if no read fails for another reason. -/
theorem Sane.moves (h : c.Sane) (hmoves : c.Moves bytes log c')
    (hreads : ∀ e ∈ log, Fails e → Garbled e) :
    (¬∃ e ∈ log, Garbled e) ∧ c'.Sane ∨ (∃ e ∈ log, Garbled e) ∧ c'.connection.failed = true := by
  have hwait : c.look = (none, c') → c'.Sane := by
    intro hlook
    rcases h.look_cases hlook with ⟨hsane, -⟩ | ⟨hnone, -⟩ | ⟨_, hnone, -⟩
    · exact hsane
    · cases hnone
    · cases hnone
  cases hmoves with
  | arrive => exact .inl ⟨by simp, h.intact, h.ended⟩
  | finish => exact .inl ⟨by simp, h.intact, fun _ => rfl⟩
  | wait hlook => exact .inl ⟨by simp, hwait hlook⟩
  | @read _ result hlook =>
      rcases h.look_cases hlook with ⟨hsane, -⟩ | ⟨hresult, -⟩ | ⟨e, hresult, -⟩
      · exact .inl ⟨by simp [Garbled], hsane⟩
      · cases hresult
        exact (hreads _ List.mem_cons_self ⟨_, rfl⟩).elim
      · cases hresult
        exact (hreads _ List.mem_cons_self ⟨_, rfl⟩).elim
  | @readWithin _ result limit hlook =>
      rcases h.look_cases hlook with ⟨hsane, hok⟩ | ⟨hresult, hfailed⟩ | ⟨e, hresult, hstop⟩
      · refine .inl ⟨?_, hsane⟩
        rintro ⟨e, he, hgarbled⟩
        obtain rfl := List.mem_singleton.mp he
        exact hok _ hgarbled
      · exact .inr ⟨⟨_, List.mem_cons_self, hresult⟩, hfailed⟩
      · cases hresult
        have hgarbled := hreads _ List.mem_cons_self ⟨e, rfl⟩
        cases hgarbled
        cases hstop
  | giveUp limit hlook => exact .inl ⟨by simp [Garbled], hwait hlook⟩
  | lose limit fault hlook =>
      have hgarbled := hreads _ List.mem_cons_self ⟨_, rfl⟩
      cases hgarbled
  | @write connection payload reachable written hwrite =>
      have hsane := h.write payload reachable
      rw [hwrite] at hsane
      exact .inl ⟨by simp [Garbled], hsane⟩
  | @refuse connection payload _ fault hwrite =>
      have hsane := h.write payload true
      rw [hwrite] at hsane
      exact .inl ⟨by simp [Garbled], hsane⟩
  | shutdown => exact .inl ⟨by simp [Garbled], h⟩

/-- After a failed read the next read finds the end, and nothing else changes that. -/
theorem failed_moves (h : c.connection.failed = true) (hmoves : c.Moves bytes log c') :
    c'.connection.failed = true ∧ (¬∃ e ∈ log, Garbled e) ∧ replies log = [] ∨
      replies log = [some (.error .closed)] ∧ ∃ e ∈ log, Fails e ∧ ¬Garbled e := by
  have hlook := look_of_failed h
  have hnone : c.look ≠ (none, c') := by
    intro heq
    rw [heq] at hlook
    cases hlook
  have hwritten : ∀ payload reachable,
      (c.connection.write payload reachable).2.failed = true := by
    intro payload reachable
    obtain ⟨unsent, hwrite⟩ := exists_write_eq c.connection payload reachable
    rw [hwrite]
    exact h
  cases hmoves with
  | arrive => exact .inl ⟨h, by simp, rfl⟩
  | finish => exact .inl ⟨h, by simp, rfl⟩
  | wait heq => exact absurd heq hnone
  | @read _ result heq =>
      rw [heq] at hlook
      obtain rfl := Option.some.inj hlook
      exact .inr ⟨rfl, _, List.mem_cons_self, ⟨_, rfl⟩, id⟩
  | @readWithin _ result limit heq =>
      rw [heq] at hlook
      obtain rfl := Option.some.inj hlook
      exact .inr ⟨rfl, _, List.mem_cons_self, ⟨_, rfl⟩, nofun⟩
  | giveUp _ heq => exact absurd heq hnone
  | lose _ _ heq => exact absurd heq hnone
  | @write connection payload reachable written hwrite =>
      have hfailed := hwritten payload reachable
      rw [hwrite] at hfailed
      exact .inl ⟨hfailed, by simp [Garbled], rfl⟩
  | @refuse connection payload _ fault hwrite =>
      have hfailed := hwritten payload true
      rw [hwrite] at hfailed
      exact .inl ⟨hfailed, by simp [Garbled], rfl⟩
  | shutdown => exact .inl ⟨h, by simp [Garbled], rfl⟩

/-- A frame that is no text was read on a channel, or nothing has failed on it. -/
def Heard (c : Channel) (garbled : Prop) : Prop :=
  garbled ∧ c.connection.failed = true ∨ ¬garbled ∧ c.Sane

theorem Sane.heard (h : c.Sane) : c.Heard False :=
  .inr ⟨id, h⟩

namespace Heard

variable {garbled : Prop}

theorem moves (h : c.Heard garbled) (hmoves : c.Moves bytes log c')
    (hreads : ∀ e ∈ log, Fails e → Garbled e) : c'.Heard (garbled ∨ ∃ e ∈ log, Garbled e) := by
  rcases h with ⟨hgarbled, hfailed⟩ | ⟨hnot, hsane⟩
  · rcases failed_moves hfailed hmoves with ⟨hfailed', -⟩ | ⟨-, e, he, hfails, hother⟩
    · exact .inl ⟨.inl hgarbled, hfailed'⟩
    · exact absurd (hreads e he hfails) hother
  · rcases hsane.moves hmoves hreads with ⟨hnone, hsane'⟩ | ⟨hsome, hfailed⟩
    · exact .inr ⟨not_or.mpr ⟨hnot, hnone⟩, hsane'⟩
    · exact .inl ⟨.inr hsome, hfailed⟩

/-- If all failed reads have met a frame that is no text, then only such a frame makes a channel
fail. -/
theorem passes (h : c.Heard garbled) (hpasses : c.Passes bytes log c')
    (hreads : ∀ e ∈ log, Fails e → Garbled e) : c'.Heard (garbled ∨ ∃ e ∈ log, Garbled e) := by
  induction hpasses generalizing garbled with
  | refl => simpa using h
  | cons hmoves _ ih =>
      have hfirst := h.moves hmoves fun e he => hreads e (List.mem_append_left _ he)
      have hall := ih hfirst fun e he => hreads e (List.mem_append_right _ he)
      simpa only [List.mem_append, or_and_right, exists_or, or_assoc] using hall

end Heard

/-- Of a connection it is enough to know what was read since its greeting. -/
theorem heard_of_greeting {greeting : List (Exchange Wire)}
    (hpasses : opened.Passes bytes (greeting ++ log) c) (hgreeting : ∀ e ∈ greeting, ¬Fails e)
    (hreads : ∀ e ∈ log, Fails e → Garbled e) : c.Heard (∃ e ∈ log, Garbled e) := by
  have hall := sane_opened.heard.passes hpasses fun e he hfails =>
    (List.mem_append.mp he).elim (fun hfirst => absurd hfails (hgreeting e hfirst))
      fun hlater => hreads e hlater hfails
  have hsame : (False ∨ ∃ e ∈ greeting ++ log, Garbled e) ↔ ∃ e ∈ log, Garbled e := by
    constructor
    · rintro (hfalse | ⟨e, he, hgarbled⟩)
      · exact hfalse.elim
      · rcases List.mem_append.mp he with hfirst | hlater
        · exact absurd hgarbled.fails (hgreeting e hfirst)
        · exact ⟨e, hlater, hgarbled⟩
    · rintro ⟨e, he, hgarbled⟩
      exact .inr ⟨e, List.mem_append_right _ he, hgarbled⟩
  rwa [hsame] at hall

/-! ## The next reply -/

/-- A frame that fits is refused only if the system fails. -/
theorem breaks_of_write {payload : String} {e : WireError} (hfits : Fits payload)
    (h : c.Passes bytes log c') (hmem : ⟨.write payload, .error e⟩ ∈ log) :
    ∃ fault, e = .io fault := by
  obtain ⟨c₁, later, c₂, hmoves⟩ := exists_moves_of_mem h hmem
  rcases hmoves.error_of_write with hfault | ⟨hlong, -⟩
  · exact hfault
  · exact absurd hfits hlong

/-- The next read on a channel that has failed finds the end. -/
theorem head_replies_of_failed (h : c.connection.failed = true) (hpasses : c.Passes bytes log c') :
    ∀ answer ∈ (replies log).head?, answer = some (.error .closed) := by
  induction hpasses with
  | refl => exact fun _ hanswer => absurd hanswer (by simp [replies])
  | cons hmoves _ ih =>
      rw [replies, List.filterMap_append]
      rcases failed_moves h hmoves with ⟨hfailed, -, hnone⟩ | ⟨hclosed, -⟩
      · rw [replies] at hnone
        rw [hnone]
        exact ih hfailed
      · rw [replies] at hclosed
        rw [hclosed]
        intro answer hanswer
        exact (Option.some.inj hanswer).symm

/-- A look at a channel whose first frame is to be a text finds this text, or it is not complete. -/
theorem IsOpen.look_cases {text : String} {later rest : Bytes} (h : c.IsOpen)
    (hframe : firstFrame? (c.pending ++ later) = some (.ofText text, rest))
    {result : Option (Except WireError String)} (hlook : c.look = (result, c')) :
    result = some (.ok text) ∨ result = none ∧ c'.IsOpen ∧ c'.pending = c.pending := by
  cases hpending : firstFrame? c.pending with
  | none =>
      obtain ⟨c₁, hlook₁, hopen, hsame⟩ := h.look_none hpending
      obtain ⟨rfl, rfl⟩ := Prod.mk.inj (hlook₁.symm.trans hlook)
      exact .inr ⟨rfl, hopen, hsame⟩
  | some frame =>
      obtain ⟨payload, bytes⟩ := frame
      have hall := firstFrame?_append hpending later
      rw [hframe] at hall
      obtain ⟨rfl, -⟩ := Prod.mk.inj (Option.some.inj hall)
      obtain ⟨c₁, hlook₁, -, -⟩ := h.look_text hpending
      exact .inl (Prod.mk.inj (hlook.symm.trans hlook₁)).1

theorem IsOpen.moves {text : String} {later rest : Bytes} (h : c.IsOpen)
    (hmoves : c.Moves bytes log c') (hend : c'.inlet.ended = false)
    (hframe : firstFrame? (c.pending ++ (bytes ++ later)) = some (.ofText text, rest))
    (hcalm : ∀ e ∈ log, ¬Breaks e) :
    c'.IsOpen ∧ c'.pending = c.pending ++ bytes ∧ replies log = [] ∨
      ∃ answer, replies log = [answer] ∧ (answer = none ∨ answer = some (.ok text)) := by
  have hwritten : ∀ payload reachable,
      IsOpen { c with connection := (c.connection.write payload reachable).2 } ∧
        pending { c with connection := (c.connection.write payload reachable).2 } =
          c.pending ++ [] := by
    intro payload reachable
    obtain ⟨unsent, hwrite⟩ := exists_write_eq c.connection payload reachable
    rw [hwrite, List.append_nil]
    exact ⟨⟨⟨h.intact.sound, h.intact.working, h.intact.looked⟩, h.connection, h.inlet⟩, rfl⟩
  cases hmoves with
  | arrive => exact .inl ⟨h.receive _, pending_receive _ _, rfl⟩
  | finish => cases hend
  | wait hlook =>
      rcases h.look_cases hframe hlook with hsome | ⟨-, hopen, hsame⟩
      · cases hsome
      · exact .inl ⟨hopen, by rw [hsame, List.append_nil], rfl⟩
  | read hlook =>
      rcases h.look_cases hframe hlook with hsome | ⟨hnone, -⟩
      · exact .inr ⟨_, rfl, .inr hsome⟩
      · cases hnone
  | readWithin _ hlook =>
      rcases h.look_cases hframe hlook with hsome | ⟨hnone, -⟩
      · exact .inr ⟨_, rfl, .inr hsome⟩
      · cases hnone
  | giveUp _ _ => exact .inr ⟨none, rfl, .inl rfl⟩
  | lose limit fault _ => exact absurd ⟨fault, rfl⟩ (hcalm _ List.mem_cons_self)
  | @write connection payload reachable written hwrite =>
      obtain ⟨hopen, hsame⟩ := hwritten payload reachable
      rw [hwrite] at hopen hsame
      exact .inl ⟨hopen, hsame, rfl⟩
  | refuse fault _ => exact absurd ⟨fault, rfl⟩ (hcalm _ List.mem_cons_self)
  | shutdown => exact .inl ⟨h, (List.append_nil _).symm, rfl⟩

/-- The next read on an open channel finds the text that comes first, unless its time is over. -/
theorem IsOpen.head_replies {text : String} {rest : Bytes} (h : c.IsOpen)
    (hpasses : c.Passes bytes log c') (hend : c'.inlet.ended = false)
    (hframe : firstFrame? (c.pending ++ bytes) = some (.ofText text, rest))
    (hcalm : ∀ e ∈ log, ¬Breaks e) :
    ∀ answer ∈ (replies log).head?, answer = none ∨ answer = some (.ok text) := by
  induction hpasses with
  | refl => exact fun _ hanswer => absurd hanswer (by simp [replies])
  | @cons c c₁ c₂ bytes bytes' log log' hmoves hpasses ih =>
      have hend₁ := goes_of_passes hpasses hend
      rw [replies, List.filterMap_append]
      rcases h.moves hmoves hend₁ hframe fun e he => hcalm e (List.mem_append_left _ he) with
        ⟨hopen, hpending, hnone⟩ | ⟨answer, hone, hanswer⟩
      · rw [replies] at hnone
        rw [hnone]
        rw [← List.append_assoc, ← hpending] at hframe
        exact ih hopen hend hframe fun e he => hcalm e (List.mem_append_right _ he)
      · rw [replies] at hone
        rw [hone]
        intro answer' hanswer'
        rwa [← Option.some.inj hanswer']

end Channel

end QueryGateway
