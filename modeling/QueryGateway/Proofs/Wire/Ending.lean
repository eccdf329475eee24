import QueryGateway.Proofs.Wire.Channel
import QueryGateway.Proofs.Wire.Reading

/-! # Connections that end

The bytes of a connection are frames, and perhaps a part of one more frame behind which nothing
comes. Reads return the frames and then report the end. A decoder that has read a count holds no
byte of it any more, so an end right behind a count is reported as if no frame had begun.
-/

namespace QueryGateway

/-! ## The parts of a frame -/

/-- How the end is reported when `part` is left behind the last complete frame. -/
def endReport (part : Bytes) : WireError :=
  if part.length = 0 ∨ part.length = 2 then .closed
  else .truncated (if part.length = 1 then 1 else part.length - 2)

theorem endReport_eq_closed_iff {part : Bytes} :
    endReport part = .closed ↔ part = [] ∨ part.length = 2 := by
  rw [endReport, ← List.length_eq_zero_iff]
  split
  · next hclean => simpa using hclean
  · next hclean => simpa using hclean

theorem endReport_ne_closed_iff {part : Bytes} :
    endReport part ≠ .closed ↔ ∃ remaining, endReport part = .truncated remaining := by
  rw [endReport]
  split
  · simp
  · simp

/-- A frame that is cut short is not complete. -/
theorem firstFrame?_of_prefix {payload part : Bytes} (hlength : payload.length ≤ maxFrameLength)
    (hpart : part <+: frameBytes payload) (hproper : part ≠ frameBytes payload) :
    firstFrame? part = none := by
  obtain ⟨missing, hmissing⟩ := hpart
  cases hframe : firstFrame? part with
  | none => rfl
  | some found =>
      obtain ⟨payload', rest⟩ := found
      have hwhole := firstFrame?_append hframe missing
      have hframe' := firstFrame?_frameBytes hlength []
      rw [List.append_nil, ← hmissing, hwhole] at hframe'
      have hnil := (Prod.mk.inj (Option.some.inj hframe')).2
      rw [(List.append_eq_nil_iff.mp hnil).2, List.append_nil] at hmissing
      exact absurd hmissing hproper

namespace FrameDecoder

/-- Without a complete frame, what a decoder says at the end depends on what it holds. -/
theorem nextAtEnd_eq {d : FrameDecoder} (h : d.Sound) (hframe : firstFrame? d.held = none) :
    d.nextAtEnd.1 =
      if endReport d.held = .closed then none else some (.error (endReport d.held)) := by
  have hnext : d.next = (none, holding d.held) := by
    rw [next_eq h, holding_held h, hframe]
  rw [nextAtEnd, hnext]
  rcases d.held with _ | ⟨high, _ | ⟨low, _ | ⟨byte, rest⟩⟩⟩
  · rfl
  · rfl
  · rfl
  · simp [holding, takeLength, endReport]

end FrameDecoder

/-! ## Reads before and after the end -/

namespace Connection

variable {c : Connection}

/-- The end of the input matters to a read only if it would have to wait. -/
theorem read_ended (c : Connection) (waiting : Bytes) :
    c.read ⟨waiting, true⟩ =
      match c.read ⟨waiting, false⟩ with
      | (some result, c', inlet) => (some result, c', { inlet with ended := true })
      | (none, c', _) =>
        match c'.receiveEnd.poll with
        | (some result, c'') => (some result, c'', ⟨[], true⟩)
        | (none, c'') => (some (.error .closed), c'', ⟨[], true⟩) := by
  simp only [read]
  rcases c.poll with ⟨_ | result, c₁⟩
  · simp only
    generalize (if waiting.isEmpty then (none, c₁) else (c₁.receive waiting).poll) = again
    rcases again with ⟨_ | result, c₂⟩
    · rfl
    · rfl
  · rfl

/-- A connection that has just seen the end of its input reports it. -/
theorem poll_receiveEnd (h : c.Intact) (hended : c.ended = false)
    (hframe : firstFrame? c.decoder.held = none) :
    c.receiveEnd.poll.1 = some (.error (endReport c.decoder.held)) ∧
      c.receiveEnd.poll.2.ended = true ∧
      (c.receiveEnd.poll.2.failed = false → c.receiveEnd.poll.2.readable = false) := by
  have hstart : c.receiveEnd = { c with readable := true, ended := true } := by
    rw [receiveEnd, hended]
    rfl
  have hreport := FrameDecoder.nextAtEnd_eq h.sound hframe
  rw [hstart, poll]
  simp only [h.working, Bool.false_eq_true, if_false, Bool.not_true, if_true]
  rcases hnext : c.decoder.nextAtEnd with ⟨_ | found, d⟩
  · rw [hnext] at hreport
    have hclosed : endReport c.decoder.held = .closed := by
      split at hreport
      · next hclosed => exact hclosed
      · cases hreport
    rw [hclosed]
    exact ⟨rfl, rfl, fun _ => rfl⟩
  · rw [hnext] at hreport
    have hfound : found = .error (endReport c.decoder.held) := by
      split at hreport
      · cases hreport
      · exact Option.some.inj hreport
    subst hfound
    exact ⟨rfl, rfl, fun hworking => by cases hworking⟩

end Connection

namespace Channel

variable {c : Channel} {texts : List String} {part payload : Bytes}

/-- The end was reported. -/
structure IsOver (c : Channel) : Prop where
  inlet : c.inlet = ⟨[], true⟩
  ended : c.connection.ended = true
  idle : c.connection.failed = false → c.connection.readable = false

/-- After the end was reported, every read reports that the connection is closed. -/
theorem IsOver.look (h : c.IsOver) :
    ∃ c', c.look = (some (.error .closed), c') ∧ c'.IsOver := by
  cases hfailed : c.connection.failed with
  | true =>
      have hpoll : c.connection.poll = (some (.error .closed),
          { c.connection with failed := false, readable := false }) := by
        rw [Connection.poll, if_pos hfailed]
      refine ⟨⟨{ c.connection with failed := false, readable := false }, c.inlet⟩, ?_,
        h.inlet, h.ended, fun _ => rfl⟩
      rw [Channel.look, Connection.read, hpoll]
  | false =>
      have hpoll : c.connection.poll = (none, c.connection) := by
        simp [Connection.poll, hfailed, h.idle hfailed]
      have hend : c.connection.receiveEnd = c.connection := by
        rw [Connection.receiveEnd, if_pos h.ended]
      refine ⟨c, ?_, h⟩
      simp only [Channel.look, Connection.read, hpoll, h.inlet, List.isEmpty_nil, if_true,
        Bool.not_true, Bool.false_eq_true, if_false, hend]
      rw [← h.inlet]

theorem read_finish (h : c.IsOpen) :
    c.finish.connection.read c.finish.inlet = c.connection.read ⟨c.inlet.waiting, true⟩ ∧
      c.connection.read ⟨c.inlet.waiting, false⟩ = c.connection.read c.inlet := by
  refine ⟨rfl, ?_⟩
  rw [← h.inlet]

/-- Frames that arrived before the end are still read after it. -/
theorem IsOpen.look_finish_text {text : String} {rest : Bytes} (h : c.IsOpen)
    (hframe : firstFrame? c.pending = some (.ofText text, rest)) :
    ∃ c' : Channel, c.finish.look = (some (.ok text), c'.finish) ∧ c'.IsOpen ∧ c'.pending = rest := by
  obtain ⟨c', hlook, hopen, hrest⟩ := h.look_text hframe
  refine ⟨c', ?_, hopen, hrest⟩
  obtain ⟨hfinish, hread⟩ := read_finish h
  have hfound : c.connection.read c.inlet = (some (.ok text), c'.connection, c'.inlet) := by
    obtain ⟨hresult, rfl⟩ := Prod.mk.inj hlook
    exact Prod.ext hresult rfl
  rw [Channel.look, hfinish, Connection.read_ended, hread, hfound]
  rfl

/-- When no complete frame is left, the end is reported. -/
theorem IsOpen.look_finish_none (h : c.IsOpen) (hframe : firstFrame? c.pending = none) :
    ∃ c', c.finish.look = (some (.error (endReport c.pending)), c') ∧ c'.IsOver := by
  obtain ⟨c', hlook, hopen, hpending⟩ := h.look_none hframe
  have hheld : c'.connection.decoder.held = c.pending := by
    have hwaiting : c'.inlet.waiting = [] := by
      have hcalm := restless_of_look_none hlook
      have hzero : (!c'.inlet.waiting.isEmpty).toNat = 0 := by
        rw [restless] at hcalm
        omega
      simpa using hzero
    rw [← hpending, pending, Connection.pending, hwaiting, List.append_nil]
  obtain ⟨hreport, hended, hidle⟩ :=
    Connection.poll_receiveEnd hopen.intact hopen.connection (hheld ▸ hframe)
  obtain ⟨hfinish, hread⟩ := read_finish h
  have hfound : c.connection.read c.inlet = (none, c'.connection, c'.inlet) := by
    obtain ⟨hresult, rfl⟩ := Prod.mk.inj hlook
    exact Prod.ext hresult rfl
  rw [hheld] at hreport
  rcases hpoll : c'.connection.receiveEnd.poll with ⟨_ | found, connection⟩
  · rw [hpoll] at hreport
    cases hreport
  · rw [hpoll] at hreport hended hidle
    obtain rfl := Option.some.inj hreport
    refine ⟨⟨connection, ⟨[], true⟩⟩, ?_, rfl, hended, hidle⟩
    rw [Channel.look, hfinish, Connection.read_ended, hread, hfound]
    simp only [hpoll]

/-! ## Connections without frames -/

/-- Nothing comes on the channel any more but its end. -/
inductive Dry : Channel → Prop where
  | quiet {c : Channel} : c.Flows [] [] → Dry c
  | ending {c : Channel} : c.Flows [] [] → Dry c.finish
  | ended {c : Channel} : c.IsOver → Dry c

namespace Dry

/-- A look finds nothing until the end has come, and then nothing but the end. -/
theorem look (h : c.Dry) :
    (c.IsOpen ∧ ∃ c', c.look = (none, c') ∧ c'.Dry ∧ c'.inlet.ended = false) ∨
      (c.inlet.ended = true ∧
        ∃ e c', c.look = (some (.error e), c') ∧ c'.Dry ∧ c'.inlet.ended = true) := by
  cases h with
  | quiet hflows =>
      rcases hflows.look with ⟨c', hlook, hflows', -⟩ | ⟨text, rest, c', hnone, -⟩
      · exact .inl ⟨hflows.isOpen, c', hlook, .quiet hflows', hflows'.isOpen.inlet⟩
      · cases hnone
  | @ending c₁ hflows =>
      have hpending : c₁.pending = [] := by
        simpa [framesOf_nil] using hflows.carries.bytes
      obtain ⟨c', hlook, hover⟩ := hflows.isOpen.look_finish_none (hpending ▸ rfl)
      exact .inr ⟨rfl, _, c', hlook, .ended hover, by rw [hover.inlet]⟩
  | ended hover =>
      obtain ⟨c', hlook, hover'⟩ := hover.look
      exact .inr ⟨by rw [hover.inlet], _, c', hlook, .ended hover', by rw [hover'.inlet]⟩

theorem write (h : c.Dry) (payload : String) (reachable : Bool) :
    Dry { c with connection := (c.connection.write payload reachable).2 } := by
  cases h with
  | quiet hflows => exact .quiet (hflows.write payload reachable)
  | ending hflows => exact .ending (hflows.write payload reachable)
  | ended hover =>
      obtain ⟨unsent, hwrite⟩ := exists_write_eq c.connection payload reachable
      rw [hwrite]
      exact .ended ⟨hover.inlet, hover.ended, hover.idle⟩

theorem finish (h : c.Dry) : c.finish.Dry := by
  cases h with
  | quiet hflows => exact .ending hflows
  | @ending c₁ hflows => exact (Dry.ending hflows : c₁.finish.Dry)
  | ended hover => exact .ended ⟨by rw [Channel.finish, hover.inlet], hover.ended, hover.idle⟩

end Dry

/-! ## Reading until the end -/

/-- What happens on a connection that is only read. -/
inductive Step where
  | arrive (piece : Bytes)
  | finish
  /-- A read looks for a frame. If it finds none it waits, and looks again later. -/
  | look

/-- Performs one step. -/
def step (c : Channel) : Step → Option (Except WireError String) × Channel
  | .arrive piece => (none, c.receive piece)
  | .finish => (none, c.finish)
  | .look => c.look

/-- The results of the reads, in order. -/
def results (steps : List Step) (c : Channel) : List (Except WireError String) :=
  (Simulation.runSteps step steps c).1.filterMap id

/-- What a read returns that `k` reads came before: one of the texts, then the end behind a part of a
frame, and then only that the connection is closed. -/
def reading (texts : List String) (part : Bytes) (k : Nat) : Except WireError String :=
  match texts[k]? with
  | some text => .ok text
  | none => .error (if k = texts.length then endReport part else .closed)

/-- The bytes that arrive. -/
def arriving : List Step → Bytes
  | [] => []
  | .arrive piece :: rest => piece ++ arriving rest
  | .finish :: rest | .look :: rest => arriving rest

theorem results_cons (s : Step) (rest : List Step) (c : Channel) :
    results (s :: rest) c = (c.step s).1.toList ++ results rest (c.step s).2 := by
  rw [results, Simulation.runSteps]
  cases hstep : (c.step s).1 with
  | none => simp [hstep, results]
  | some result => simp [hstep, results]

theorem reading_append (got rest : List String) (part : Bytes) (k : Nat) :
    reading (got ++ rest) part (got.length + k) = reading rest part k := by
  rw [reading, reading, List.getElem?_append_right (Nat.le_add_right _ _),
    Nat.add_sub_cancel_left, List.length_append]
  simp

theorem map_reading_append (got rest : List String) (part : Bytes) :
    (List.range got.length).map (reading (got ++ rest) part) = got.map .ok := by
  apply List.ext_getElem
  · simp
  · intro k hk _
    have hlt : k < got.length := by simpa using hk
    simp [reading, List.getElem?_append_left hlt, List.getElem?_eq_getElem hlt]

/-- Before the end, reads return the texts whose frames have arrived. -/
theorem IsOpen.results_of_arriving (h : c.IsOpen) (hpart : firstFrame? part = none)
    (hfits : ∀ text ∈ texts, Fits text) {steps : List Step} (hsteps : .finish ∉ steps)
    (hbytes : c.pending ++ arriving steps = framesOf texts ++ part) :
    ∃ got rest c', texts = got ++ rest ∧ c'.IsOpen ∧ c'.pending = framesOf rest ++ part ∧
      ∀ later, results (steps ++ later) c = got.map .ok ++ results later c' := by
  induction steps generalizing c texts with
  | nil =>
      rw [arriving, List.append_nil] at hbytes
      exact ⟨[], texts, c, rfl, h, hbytes, fun later => rfl⟩
  | cons s rest ih =>
      have hmore : Step.finish ∉ rest := fun hmem => hsteps (List.mem_cons_of_mem s hmem)
      cases s with
      | finish => exact absurd List.mem_cons_self hsteps
      | arrive piece =>
          have hnext : (c.receive piece).pending ++ arriving rest = framesOf texts ++ part := by
            rw [pending_receive, List.append_assoc]
            exact hbytes
          obtain ⟨got, left, c', htexts, hopen, hpending, hresults⟩ :=
            ih (h.receive piece) hfits hmore hnext
          refine ⟨got, left, c', htexts, hopen, hpending, fun later => ?_⟩
          rw [List.cons_append, results_cons]
          exact hresults later
      | look =>
          cases hframe : firstFrame? c.pending with
          | none =>
              obtain ⟨c₁, hlook, hopen₁, hsame⟩ := h.look_none hframe
              obtain ⟨got, left, c', htexts, hopen, hpending, hresults⟩ :=
                ih hopen₁ hfits hmore (by rw [hsame]; exact hbytes)
              refine ⟨got, left, c', htexts, hopen, hpending, fun later => ?_⟩
              rw [List.cons_append, results_cons, step, hlook]
              exact hresults later
          | some found =>
              obtain ⟨payload, left⟩ := found
              have hwhole := firstFrame?_append hframe (arriving rest)
              cases texts with
              | nil =>
                  rw [arriving] at hbytes
                  rw [hbytes, framesOf_nil, List.nil_append, hpart] at hwhole
                  cases hwhole
              | cons text more =>
                  have hlength : (Bytes.ofText text).length ≤ maxFrameLength := by
                    rw [Bytes.length_ofText]
                    exact hfits text List.mem_cons_self
                  rw [arriving] at hbytes
                  rw [hbytes, framesOf_cons, List.append_assoc, firstFrame?_frameBytes hlength]
                    at hwhole
                  obtain ⟨rfl, hleft⟩ := Prod.mk.inj (Option.some.inj hwhole)
                  obtain ⟨c₁, hlook, hopen₁, hrest⟩ := h.look_text hframe
                  obtain ⟨got, left', c', htexts, hopen, hpending, hresults⟩ :=
                    ih hopen₁ (fun t ht => hfits t (List.mem_cons_of_mem _ ht)) hmore
                      (by rw [hrest]; exact hleft.symm)
                  refine ⟨text :: got, left', c', ?_, hopen, hpending, fun later => ?_⟩
                  · rw [htexts, List.cons_append]
                  · rw [List.cons_append, results_cons, step, hlook]
                    exact congrArg (Except.ok text :: ·) (hresults later)

theorem IsOver.results (h : c.IsOver) (reads : Nat) :
    Channel.results (List.replicate reads .look) c = List.replicate reads (.error .closed) := by
  induction reads generalizing c with
  | zero => rfl
  | succ reads ih =>
      obtain ⟨c', hlook, hover⟩ := h.look
      rw [List.replicate_succ, results_cons, step, hlook, List.replicate_succ]
      exact congrArg (Except.error WireError.closed :: ·) (ih hover)

/-- After the end every read has a result: the texts that are left, the end, and that it is over. -/
theorem IsOpen.results_finish (h : c.IsOpen) (hpart : firstFrame? part = none)
    (hfits : ∀ text ∈ texts, Fits text) (hbytes : c.pending = framesOf texts ++ part)
    (reads : Nat) :
    results (List.replicate reads .look) c.finish =
      (List.range reads).map (reading texts part) := by
  induction reads generalizing c texts with
  | zero => rfl
  | succ reads ih =>
      rw [List.replicate_succ, results_cons, step, List.range_succ_eq_map, List.map_cons,
        List.map_map]
      cases texts with
      | nil =>
          rw [framesOf_nil, List.nil_append] at hbytes
          obtain ⟨c', hlook, hover⟩ := h.look_finish_none (hbytes ▸ hpart)
          have hrest : (List.range reads).map (reading [] part ∘ Nat.succ) =
              List.replicate reads (.error .closed) := by
            simp [reading, Function.comp_def, List.map_const']
          rw [hlook, hover.results, hbytes, hrest]
          rfl
      | cons text more =>
          have hlength : (Bytes.ofText text).length ≤ maxFrameLength := by
            rw [Bytes.length_ofText]
            exact hfits text List.mem_cons_self
          have hframe := firstFrame?_frameBytes hlength (framesOf more ++ part)
          rw [← List.append_assoc, ← framesOf_cons, ← hbytes] at hframe
          obtain ⟨c', hlook, hopen, hrest⟩ := h.look_finish_text hframe
          have hnext : reading (text :: more) part ∘ Nat.succ = reading more part := by
            funext k
            rw [Function.comp_apply, Nat.succ_eq_one_add]
            exact reading_append [text] more part k
          rw [hlook, ih hopen (fun t ht => hfits t (List.mem_cons_of_mem _ ht)) hrest, hnext]
          rfl

/-- Whatever the pieces in which they come, the frames of a connection are read in their order, and
then its end is reported: as a cut exactly if part of a frame is left that is not its count alone. -/
theorem end_reported (hfits : ∀ text ∈ texts, Fits text) (hpayload : payload.length ≤ maxFrameLength)
    (hpart : part <+: frameBytes payload) (hproper : part ≠ frameBytes payload) {steps : List Step}
    (hsteps : .finish ∉ steps) (hbytes : arriving steps = framesOf texts ++ part) (reads : Nat) :
    (∃ early ≤ texts.length, (results steps opened).length = early ∧
      results (steps ++ .finish :: List.replicate reads .look) opened =
        (List.range (early + reads)).map (reading texts part)) ∧
      (endReport part = .closed ↔ part = [] ∨ part.length = 2) ∧
      (endReport part ≠ .closed ↔ ∃ remaining, endReport part = .truncated remaining) := by
  refine ⟨?_, endReport_eq_closed_iff, endReport_ne_closed_iff⟩
  have hnone := firstFrame?_of_prefix hpayload hpart hproper
  obtain ⟨got, rest, c, rfl, hopen, hpending, hresults⟩ :=
    isOpen_opened.results_of_arriving hnone hfits hsteps hbytes
  have hearly : results steps opened = got.map .ok := by
    have hall := hresults []
    rwa [List.append_nil, show results [] c = [] from rfl, List.append_nil] at hall
  have hlater := hopen.results_finish hnone (fun t ht => hfits t (List.mem_append_right _ ht))
    hpending reads
  refine ⟨got.length, by simp, by simp [hearly], ?_⟩
  rw [hresults, results_cons, step, Option.toList_none, List.nil_append, hlater, List.range_add,
    List.map_append, map_reading_append, List.map_map]
  congr 1
  apply List.map_congr_left
  intro k _
  exact (reading_append got rest part k).symm

/-- The third frame is cut behind the first byte of its payload. The first one is read before the
end has arrived, and the second one after it. -/
theorem end_reported_of_cut_payload :
    results ([.arrive [0], .look, .arrive [2, 104, 105, 0], .look, .arrive [0, 0, 3, 97]] ++
        .finish :: List.replicate 4 .look) opened =
      [.ok "hi", .ok "", .error (.truncated 1), .error .closed, .error .closed] := by
  have hfits : ∀ text ∈ ["hi", ""], Fits text := by
    decide
  have hpart : [0, 3, 97] <+: frameBytes [97, 98, 99] := by
    decide
  have hsteps : Step.finish ∉
      [.arrive [0], .look, .arrive [2, 104, 105, 0], .look, .arrive [0, 0, 3, 97]] := by
    simp
  have hbytes : arriving
      [.arrive [0], .look, .arrive [2, 104, 105, 0], .look, .arrive [0, 0, 3, 97]] =
        framesOf ["hi", ""] ++ [0, 3, 97] := by
    decide
  obtain ⟨⟨early, -, hearly, hresults⟩, -, -⟩ :=
    end_reported hfits (by decide) hpart (by decide) hsteps hbytes 4
  have hone : early = 1 := by
    rw [← hearly]
    rfl
  rw [hresults, hone]
  rfl

/-- A frame that is cut right behind its count is not reported as cut, though more of it than
nothing has arrived, and less than all. -/
theorem cut_unreported_behind_count :
    [0, 3] <+: frameBytes [97, 98, 99] ∧ ([0, 3] : Bytes) ≠ [] ∧
      ([0, 3] : Bytes) ≠ frameBytes [97, 98, 99] ∧
      results [.arrive [0, 3], .finish, .look] opened = [.error .closed] := by
  refine ⟨by decide, by decide, by decide, ?_⟩
  rfl

end Channel

end QueryGateway
