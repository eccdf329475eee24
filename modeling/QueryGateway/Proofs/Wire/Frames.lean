import QueryGateway.Wire.Connection

/-! # Frames in a stream of bytes

What a connection reads depends on the bytes that have arrived and not on the pieces in which they
came. The bytes that a decoder has taken in are those it holds and those it has already read as a
count.
-/

namespace QueryGateway

/-! ## The first frame of a stream -/

/-- The payload of the first frame and what follows it, if the frame is complete. -/
def firstFrame? : Bytes → Option (Bytes × Bytes)
  | high :: low :: rest =>
    let n := high.toNat * 256 + low.toNat
    if n ≤ rest.length then some (rest.take n, rest.drop n) else none
  | _ => none

/-- The two bytes of a count say how much it is. -/
theorem count_lengthBytes {n : Nat} (h : n ≤ maxFrameLength) :
    (UInt8.ofNat (n / 256)).toNat * 256 + (UInt8.ofNat n).toNat = n := by
  rw [maxFrameLength] at h
  simp only [UInt8.toNat_ofNat']
  omega

theorem firstFrame?_lengthBytes {n : Nat} (h : n ≤ maxFrameLength) (buffer : Bytes) :
    firstFrame? (lengthBytes n ++ buffer) =
      if n ≤ buffer.length then some (buffer.take n, buffer.drop n) else none := by
  simp only [lengthBytes, List.cons_append, List.nil_append, firstFrame?, count_lengthBytes h]

theorem firstFrame?_frameBytes {payload : Bytes} (h : payload.length ≤ maxFrameLength)
    (rest : Bytes) : firstFrame? (frameBytes payload ++ rest) = some (payload, rest) := by
  rw [frameBytes, List.append_assoc, firstFrame?_lengthBytes h,
    if_pos (by rw [List.length_append]; omega), List.take_left, List.drop_left]

/-- A count that was read is written by the bytes it was read from. -/
theorem lengthBytes_count (high low : UInt8) :
    lengthBytes (high.toNat * 256 + low.toNat) = [high, low] := by
  have hhigh := high.toNat_lt
  have hlow := low.toNat_lt
  have hfirst : UInt8.ofNat ((high.toNat * 256 + low.toNat) / 256) = high := by
    rw [show (high.toNat * 256 + low.toNat) / 256 = high.toNat by omega, UInt8.ofNat_toNat]
  have hsecond : UInt8.ofNat (high.toNat * 256 + low.toNat) = low := by
    apply UInt8.toNat_inj.mp
    rw [UInt8.toNat_ofNat']
    omega
  rw [lengthBytes, hfirst, hsecond]

theorem firstFrame?_eq_some_iff {bytes payload rest : Bytes} :
    firstFrame? bytes = some (payload, rest) ↔
      bytes = frameBytes payload ++ rest ∧ payload.length ≤ maxFrameLength := by
  constructor
  · intro h
    match bytes with
    | [] => cases h
    | [_] => cases h
    | high :: low :: more =>
        rw [firstFrame?] at h
        by_cases hlength : high.toNat * 256 + low.toNat ≤ more.length
        · rw [if_pos hlength] at h
          obtain ⟨rfl, rfl⟩ := Prod.mk.inj (Option.some.inj h)
          have htake : (more.take (high.toNat * 256 + low.toNat)).length =
              high.toNat * 256 + low.toNat := List.length_take_of_le hlength
          constructor
          · rw [frameBytes, htake, lengthBytes_count, List.append_assoc, List.take_append_drop]
            rfl
          · have hhigh := high.toNat_lt
            have hlow := low.toNat_lt
            rw [htake, maxFrameLength]
            omega
        · rw [if_neg hlength] at h
          cases h
  · rintro ⟨rfl, hlength⟩
    exact firstFrame?_frameBytes hlength rest

/-- Bytes that arrive later do not change a frame that is complete. -/
theorem firstFrame?_append {bytes payload rest : Bytes}
    (h : firstFrame? bytes = some (payload, rest)) (more : Bytes) :
    firstFrame? (bytes ++ more) = some (payload, rest ++ more) := by
  obtain ⟨rfl, hlength⟩ := firstFrame?_eq_some_iff.mp h
  rw [List.append_assoc]
  exact firstFrame?_frameBytes hlength _

/-- The bytes of texts sent as one frame each. -/
def framesOf (texts : List String) : Bytes :=
  texts.flatMap fun text => frameBytes (.ofText text)

@[simp] theorem framesOf_nil : framesOf [] = [] := rfl

theorem framesOf_cons (text : String) (rest : List String) :
    framesOf (text :: rest) = frameBytes (.ofText text) ++ framesOf rest :=
  List.flatMap_cons

theorem framesOf_append (first second : List String) :
    framesOf (first ++ second) = framesOf first ++ framesOf second :=
  List.flatMap_append

theorem frameBytes_ne_nil (payload : Bytes) : frameBytes payload ≠ [] :=
  List.cons_ne_nil _ _

/-- A text fits into a frame. -/
def Fits (text : String) : Prop :=
  text.utf8ByteSize ≤ maxFrameLength

instance : DecidablePred Fits := fun _ => inferInstanceAs (Decidable (_ ≤ _))

theorem encodeFrame_of_fits {text : String} (h : Fits text) :
    encodeFrame text = .ok (frameBytes (.ofText text)) :=
  if_pos h

/-- A complete frame among the bytes of texts is the first of these texts. -/
theorem firstFrame?_of_framesOf {bytes later payload rest : Bytes} {texts : List String}
    (hfits : ∀ text ∈ texts, Fits text) (hbytes : bytes ++ later = framesOf texts)
    (hframe : firstFrame? bytes = some (payload, rest)) :
    ∃ text more, texts = text :: more ∧ payload = .ofText text ∧ rest ++ later = framesOf more := by
  have hall := firstFrame?_append hframe later
  cases texts with
  | nil =>
      rw [hbytes] at hall
      cases hall
  | cons text more =>
      have hlength : (Bytes.ofText text).length ≤ maxFrameLength := by
        rw [Bytes.length_ofText]
        exact hfits text List.mem_cons_self
      rw [hbytes, framesOf_cons, firstFrame?_frameBytes hlength] at hall
      obtain ⟨rfl, hrest⟩ := Prod.mk.inj (Option.some.inj hall)
      exact ⟨text, more, rfl, rfl, hrest.symm⟩

/-! ## Decoders -/

namespace FrameDecoder

variable {d : FrameDecoder}

/-- The bytes that a decoder has taken in and not given out as frames. -/
def held (d : FrameDecoder) : Bytes :=
  d.expected.elim [] lengthBytes ++ d.buffer

/-- The count that a decoder has read is one that two bytes can write. -/
def Sound (d : FrameDecoder) : Prop :=
  ∀ n ∈ d.expected, n ≤ maxFrameLength

theorem sound_of_expected_eq_none (h : d.expected = none) : d.Sound := by
  intro n hn
  rw [h] at hn
  cases hn

@[simp] theorem held_append (d : FrameDecoder) (bytes : Bytes) :
    (d.append bytes).held = d.held ++ bytes := by
  simp [held, append]

theorem sound_append (h : d.Sound) (bytes : Bytes) : (d.append bytes).Sound := h

theorem held_takeLength (d : FrameDecoder) : d.takeLength.held = d.held := by
  match d with
  | ⟨some n, buffer⟩ => rfl
  | ⟨none, []⟩ => rfl
  | ⟨none, [_]⟩ => rfl
  | ⟨none, high :: low :: rest⟩ =>
      simp only [takeLength, held, Option.elim, lengthBytes_count]
      rfl

theorem sound_takeLength (h : d.Sound) : d.takeLength.Sound := by
  match d with
  | ⟨some n, buffer⟩ => exact h
  | ⟨none, []⟩ => exact h
  | ⟨none, [_]⟩ => exact h
  | ⟨none, high :: low :: rest⟩ =>
      intro n hn
      obtain rfl := Option.some.inj hn
      have hhigh := high.toNat_lt
      have hlow := low.toNat_lt
      rw [maxFrameLength]
      omega

/-- The text that a payload is read as. -/
def textOf (payload : Bytes) : Except WireError String :=
  (Bytes.text? payload).elim (.error .invalidUtf8) .ok

/-- The only failure of a decoder is a payload that is no text. -/
theorem eq_invalidUtf8_of_next {e : WireError} (h : d.next.1 = some (.error e)) :
    e = .invalidUtf8 := by
  rw [next] at h
  split at h
  · split at h
    · cases htext : Bytes.text? (List.take _ _) with
      | none =>
          rw [htext] at h
          cases h
          rfl
      | some text =>
          rw [htext] at h
          cases h
    · cases h
  · cases h

/-- A decoder gives out the first frame of what it has taken in. -/
theorem next_eq (h : d.Sound) :
    d.next = match firstFrame? d.held with
      | some (payload, rest) => (some (textOf payload), ⟨none, rest⟩)
      | none => (none, d.takeLength) := by
  rw [← held_takeLength]
  have hsound := sound_takeLength h
  have hcount : ∀ high low rest, d.takeLength ≠ ⟨none, high :: low :: rest⟩ := by
    intro high low rest
    match d with
    | ⟨some n, buffer⟩ => simp [takeLength]
    | ⟨none, []⟩ => simp [takeLength]
    | ⟨none, [_]⟩ => simp [takeLength]
    | ⟨none, _ :: _ :: _⟩ => simp [takeLength]
  rw [next]
  match hlength : d.takeLength with
  | ⟨some n, buffer⟩ =>
      have hframe : firstFrame? (held ⟨some n, buffer⟩) =
          if n ≤ buffer.length then some (buffer.take n, buffer.drop n) else none :=
        firstFrame?_lengthBytes (hsound n (by rw [hlength]; rfl)) buffer
      by_cases hcomplete : n ≤ buffer.length
      · simp only [hframe, if_pos hcomplete]
        rfl
      · simp only [hframe, if_neg hcomplete]
  | ⟨none, []⟩ => rfl
  | ⟨none, [_]⟩ => rfl
  | ⟨none, high :: low :: rest⟩ => exact absurd hlength (hcount high low rest)

end FrameDecoder

/-! ## Connections -/

namespace Connection

variable {c c' : Connection} {inlet inlet' : Inlet}

/-- Nothing on a connection has failed, and it has looked at all that it holds. -/
structure Intact (c : Connection) : Prop where
  sound : c.decoder.Sound
  working : c.failed = false
  looked : c.readable = false → firstFrame? c.decoder.held = none

theorem intact_opened : opened.Intact :=
  ⟨FrameDecoder.sound_of_expected_eq_none rfl, rfl, fun _ => rfl⟩

/-- The bytes that have arrived and were not read as frames. -/
def pending (c : Connection) (inlet : Inlet) : Bytes :=
  c.decoder.held ++ inlet.waiting

@[simp] theorem pending_of_waiting_nil (c : Connection) (ended : Bool) :
    c.pending ⟨[], ended⟩ = c.decoder.held := by
  simp [pending]

/-- What a read makes of the bytes that have arrived. -/
inductive Finds (bytes : Bytes) (ended : Bool) :
    Option (Except WireError String) → Connection → Inlet → Prop where
  | text {text : String} {c : Connection} {inlet : Inlet} :
      firstFrame? bytes = some (.ofText text, c.pending inlet) → c.Intact →
        Finds bytes ended (some (.ok text)) c inlet
  | garbled {payload rest : Bytes} {c : Connection} {inlet : Inlet} :
      firstFrame? bytes = some (payload, rest) → payload.text? = none →
        Finds bytes ended (some (.error .invalidUtf8)) c inlet
  /-- The frame is not complete yet. -/
  | nothing {c : Connection} {inlet : Inlet} :
      firstFrame? bytes = none → c.pending inlet = bytes → c.Intact → Finds bytes ended none c inlet
  | stop {e : WireError} {c : Connection} {inlet : Inlet} :
      ended = true → e.endsStream = true → Finds bytes ended (some (.error e)) c inlet

theorem finds_settle_next (h : c.Intact) (hreadable : c.readable = true) (ended seen : Bool) :
    Finds c.decoder.held ended (c.settle c.decoder.next).1 (c.settle c.decoder.next).2
      ⟨[], seen⟩ := by
  have hnext := FrameDecoder.next_eq h.sound
  cases hframe : firstFrame? c.decoder.held with
  | none =>
      simp only [hframe] at hnext
      rw [hnext]
      refine .nothing hframe ?_ ⟨FrameDecoder.sound_takeLength h.sound, h.working, fun _ => ?_⟩
      · simp [settle, FrameDecoder.held_takeLength]
      · simpa [settle, FrameDecoder.held_takeLength] using hframe
  | some frame =>
      obtain ⟨payload, rest⟩ := frame
      simp only [hframe] at hnext
      rw [hnext]
      cases htext : payload.text? with
      | none =>
          simp only [FrameDecoder.textOf, htext, Option.elim]
          exact .garbled hframe htext
      | some text =>
          simp only [FrameDecoder.textOf, htext, Option.elim]
          obtain rfl := Bytes.eq_ofText_of_text? htext
          refine .text ?_ ⟨FrameDecoder.sound_of_expected_eq_none rfl, h.working, ?_⟩
          · simpa [settle, FrameDecoder.held] using hframe
          · intro hidle
            rw [settle, hreadable] at hidle
            cases hidle

theorem finds_poll (h : c.Intact) (seen : Bool) :
    Finds c.decoder.held c.ended c.poll.1 c.poll.2 ⟨[], seen⟩ := by
  rw [poll, if_neg (by simp [h.working])]
  cases hreadable : c.readable with
  | false => exact .nothing (h.looked hreadable) (by simp) h
  | true =>
      have hfinds := finds_settle_next h hreadable c.ended seen
      cases hended : c.ended with
      | false =>
          rw [hended] at hfinds
          exact hfinds
      | true =>
          rw [hended] at hfinds
          simp only [Bool.not_true, Bool.false_eq_true, if_false, if_true]
          match hnext : c.decoder.next with
          | (some (.ok text), d) =>
              have hend : c.decoder.nextAtEnd = (some (.ok text), d) := by
                rw [FrameDecoder.nextAtEnd, hnext]
              rw [hnext] at hfinds
              rw [hend]
              exact hfinds
          | (some (.error e), d) =>
              have hend : c.decoder.nextAtEnd = (some (.error e), d) := by
                rw [FrameDecoder.nextAtEnd, hnext]
              rw [hnext] at hfinds
              rw [hend]
              exact hfinds
          | (none, d) =>
              by_cases hempty : d.buffer.isEmpty
              · have hend : c.decoder.nextAtEnd = (none, d) := by
                  rw [FrameDecoder.nextAtEnd, hnext]
                  exact if_pos hempty
                rw [hend]
                exact .stop rfl rfl
              · have hend : c.decoder.nextAtEnd =
                    (some (.error (.truncated d.buffer.length)), d) := by
                  rw [FrameDecoder.nextAtEnd, hnext]
                  exact if_neg hempty
                rw [hend]
                exact .stop rfl rfl

theorem intact_receive (h : c.Intact) (bytes : Bytes) : (c.receive bytes).Intact :=
  ⟨FrameDecoder.sound_append h.sound bytes, h.working, fun hidle => by cases hidle⟩

theorem intact_receiveEnd (h : c.Intact) : c.receiveEnd.Intact := by
  rw [receiveEnd]
  split
  · exact h
  · exact ⟨h.sound, h.working, fun hidle => by cases hidle⟩

theorem decoder_receiveEnd (c : Connection) : c.receiveEnd.decoder = c.decoder := by
  rw [receiveEnd]
  split
  · rfl
  · rfl

namespace Finds

variable {bytes : Bytes} {ended ended' seen : Bool} {result : Option (Except WireError String)}

/-- A frame that was found is found in spite of what comes after it. -/
theorem append {found : Except WireError String} (h : Finds bytes ended (some found) c ⟨[], seen⟩)
    (inlet : Inlet) (hended : ended = true → ended' = true) :
    Finds (bytes ++ inlet.waiting) ended' (some found) c inlet := by
  cases h with
  | text hframe hintact =>
      rw [pending_of_waiting_nil] at hframe
      exact .text (firstFrame?_append hframe inlet.waiting) hintact
  | garbled hframe htext => exact .garbled (firstFrame?_append hframe inlet.waiting) htext
  | stop hend hstop => exact .stop (hended hend) hstop

theorem of_held (h : Finds bytes ended result c ⟨[], seen⟩) (seen' : Bool)
    (hended : ended = true → ended' = true) : Finds bytes ended' result c ⟨[], seen'⟩ := by
  cases h with
  | text hframe hintact => exact .text (by simpa using hframe) hintact
  | garbled hframe htext => exact .garbled hframe htext
  | nothing hframe hpending hintact => exact .nothing hframe (by simpa using hpending) hintact
  | stop hend hstop => exact .stop (hended hend) hstop

end Finds

/-- A read finds the first frame of what has arrived, as soon as it is complete. -/
theorem finds_read (h : c.Intact) (inlet : Inlet) :
    Finds (c.pending inlet) (c.ended || inlet.ended) (c.read inlet).1 (c.read inlet).2.1
      (c.read inlet).2.2 := by
  have hpoll := finds_poll h inlet.ended
  rw [read]
  match hlook : c.poll with
  | (some found, c₁) =>
      rw [hlook] at hpoll
      exact hpoll.append inlet (by simp +contextual)
  | (none, c₁) =>
      rw [hlook] at hpoll
      cases hpoll with
      | nothing hframe hheld hintact =>
          rw [pending_of_waiting_nil] at hheld
          -- What is waiting comes into the decoder before the connection looks again.
          have hagain : ∀ result c₂,
              (if inlet.waiting.isEmpty then (none, c₁) else (c₁.receive inlet.waiting).poll) =
                (result, c₂) →
              Finds (c.pending inlet) (c.ended || inlet.ended) result c₂ ⟨[], inlet.ended⟩ := by
            intro result c₂ heq
            by_cases hempty : inlet.waiting.isEmpty
            · rw [if_pos hempty] at heq
              obtain ⟨rfl, rfl⟩ := Prod.mk.inj heq
              have hbytes : c.pending inlet = c₁.decoder.held := by
                rw [pending, List.isEmpty_iff.mp hempty, List.append_nil, hheld]
              rw [hbytes]
              exact .nothing (hheld ▸ hframe) (by simp) hintact
            · rw [if_neg hempty] at heq
              have hfinds := finds_poll (intact_receive hintact inlet.waiting) inlet.ended
              have hbytes : (c₁.receive inlet.waiting).decoder.held = c.pending inlet := by
                rw [receive, FrameDecoder.held_append, hheld, pending]
              rw [heq, hbytes] at hfinds
              exact hfinds.of_held _ (fun hend => by cases hend)
          match hsecond : (if inlet.waiting.isEmpty then ((none, c₁) :
              Option (Except WireError String) × Connection)
              else (c₁.receive inlet.waiting).poll) with
          | (some found, c₂) =>
              have hfinds := hagain _ _ hsecond
              simp only [hsecond]
              exact hfinds
          | (none, c₂) =>
              have hfinds := hagain _ _ hsecond
              simp only [hsecond]
              cases hended : inlet.ended with
              | false =>
                  rw [hended] at hfinds
                  simpa [hended] using hfinds
              | true =>
                  rw [hended] at hfinds
                  cases hfinds with
                  | nothing _ hheld₂ hintact₂ =>
                      rw [pending_of_waiting_nil] at hheld₂
                      have hend := finds_poll (intact_receiveEnd hintact₂) true
                      rw [decoder_receiveEnd, hheld₂] at hend
                      match hthird : c₂.receiveEnd.poll with
                      | (some found, c₃) =>
                          rw [hthird] at hend
                          simpa [hended] using hend.of_held _ (by simp)
                      | (none, c₃) =>
                          simpa [hended] using Finds.stop (by simp) rfl

/-! ### Failures -/

/-- A read fails because the input has ended or because a payload is no text. -/
def ReadFailure (e : WireError) : Prop :=
  e.endsStream = true ∨ e = .invalidUtf8

theorem readFailure_of_next {d d' : FrameDecoder} {e : WireError}
    (h : d.next = (some (.error e), d')) : ReadFailure e :=
  .inr (FrameDecoder.eq_invalidUtf8_of_next (congrArg Prod.fst h))

theorem readFailure_of_nextAtEnd {d d' : FrameDecoder} {e : WireError}
    (h : d.nextAtEnd = (some (.error e), d')) : ReadFailure e := by
  rw [FrameDecoder.nextAtEnd] at h
  match hnext : d.next with
  | (some found, d₁) =>
      rw [hnext] at h
      cases h
      exact readFailure_of_next hnext
  | (none, d₁) =>
      simp only [hnext] at h
      split at h
      · cases h
      · cases h
        exact .inl rfl

theorem settle_fst (c : Connection) (found : Option (Except WireError String) × FrameDecoder) :
    (c.settle found).1 = found.1 := by
  match found with
  | (some (.ok _), _) => rfl
  | (some (.error _), _) => rfl
  | (none, _) => rfl

theorem readFailure_of_poll {e : WireError} (h : c.poll.1 = some (.error e)) : ReadFailure e := by
  rw [poll] at h
  split at h
  · cases h
    exact .inl rfl
  · split at h
    · cases h
    · split at h
      · split at h
        · cases h
          exact .inl rfl
        · rw [settle_fst] at h
          exact readFailure_of_nextAtEnd (Prod.ext h rfl)
      · rw [settle_fst] at h
        exact readFailure_of_next (Prod.ext h rfl)

theorem readFailure_of_read {e : WireError} (h : (c.read inlet).1 = some (.error e)) :
    ReadFailure e := by
  rw [read] at h
  split at h
  · next found c₁ hpoll =>
      cases h
      exact readFailure_of_poll (congrArg Prod.fst hpoll)
  · next c₁ hpoll =>
      simp only at h
      split at h
      · next found c₂ hagain =>
          cases h
          split at hagain
          · cases hagain
          · exact readFailure_of_poll (congrArg Prod.fst hagain)
      · next c₂ hagain =>
          split at h
          · cases h
          · split at h
            · next found c₃ hend =>
                cases h
                exact readFailure_of_poll (congrArg Prod.fst hend)
            · cases h
              exact .inl rfl

/-! ### Connections whose input goes on -/

theorem ended_settle (c : Connection) (found : Option (Except WireError String) × FrameDecoder) :
    (c.settle found).2.ended = c.ended := by
  match found with
  | (some (.ok _), _) => rfl
  | (some (.error _), _) => rfl
  | (none, _) => rfl

theorem ended_poll (h : c.ended = false) : c.poll.2.ended = false := by
  rw [poll]
  split
  · exact h
  · split
    · exact h
    · rw [if_neg (by simp [h]), ended_settle, h]

/-- A read ends no input by itself. -/
theorem ended_read (h : c.ended = false) (hinlet : inlet.ended = false) :
    (c.read inlet).2.1.ended = false ∧ (c.read inlet).2.2.ended = false := by
  have hpoll := ended_poll h
  rw [read]
  match hlook : c.poll with
  | (some found, c₁) =>
      rw [hlook] at hpoll
      exact ⟨hpoll, hinlet⟩
  | (none, c₁) =>
      rw [hlook] at hpoll
      have hagain : (if inlet.waiting.isEmpty then ((none, c₁) :
          Option (Except WireError String) × Connection)
          else (c₁.receive inlet.waiting).poll).2.ended = false := by
        split
        · exact hpoll
        · exact ended_poll rfl
      match hsecond : (if inlet.waiting.isEmpty then ((none, c₁) :
          Option (Except WireError String) × Connection)
          else (c₁.receive inlet.waiting).poll) with
      | (some found, c₂) =>
          rw [hsecond] at hagain
          simp only [hsecond]
          exact ⟨hagain, hinlet⟩
      | (none, c₂) =>
          rw [hsecond] at hagain
          simp only [hsecond, hinlet]
          exact ⟨hagain, rfl⟩

end Connection

end QueryGateway
