import QueryGateway.Proofs.Wire.Frames
import QueryGateway.Simulation.Steps

/-! # Streams of frames in pieces

A stream of bytes has one reading: its frames one after the other, and what is left behind the last
one that is complete. A decoder that gets the stream in pieces comes to this reading wherever the
stream was cut, be it between the two bytes of a count.
-/

namespace QueryGateway

/-! ## The reading of a stream -/

theorem length_lt_of_firstFrame? {bytes payload rest : Bytes}
    (h : firstFrame? bytes = some (payload, rest)) : rest.length < bytes.length := by
  obtain ⟨rfl, -⟩ := firstFrame?_eq_some_iff.mp h
  simp only [frameBytes, lengthBytes, List.length_append, List.length_cons, List.length_nil]
  omega

/-- The payloads of the frames of a stream, and what follows the last of them. -/
def payloadsOf (bytes : Bytes) : List Bytes × Bytes :=
  match _hframe : firstFrame? bytes with
  | none => ([], bytes)
  | some (payload, rest) =>
    let (payloads, left) := payloadsOf rest
    (payload :: payloads, left)
termination_by bytes.length
decreasing_by exact length_lt_of_firstFrame? _hframe

theorem payloadsOf_of_none {bytes : Bytes} (h : firstFrame? bytes = none) :
    payloadsOf bytes = ([], bytes) := by
  rw [payloadsOf]
  split
  · rfl
  · next hframe =>
      rw [h] at hframe
      cases hframe

theorem payloadsOf_of_some {bytes payload rest : Bytes}
    (h : firstFrame? bytes = some (payload, rest)) :
    payloadsOf bytes = (payload :: (payloadsOf rest).1, (payloadsOf rest).2) := by
  rw [payloadsOf]
  split
  · next hframe =>
      rw [h] at hframe
      cases hframe
  · next hframe =>
      rw [h] at hframe
      cases hframe
      rfl

/-- What is left over holds no complete frame. -/
theorem firstFrame?_left (bytes : Bytes) : firstFrame? (payloadsOf bytes).2 = none := by
  fun_induction payloadsOf bytes with
  | case1 bytes hframe => exact hframe
  | case2 bytes payload rest hframe payloads left hrest ih =>
      rw [hrest] at ih
      exact ih

/-- A stream is read by reading its first part, and then its second part behind what was left. -/
theorem payloadsOf_append (bytes more : Bytes) :
    payloadsOf (bytes ++ more) =
      ((payloadsOf bytes).1 ++ (payloadsOf ((payloadsOf bytes).2 ++ more)).1,
        (payloadsOf ((payloadsOf bytes).2 ++ more)).2) := by
  fun_induction payloadsOf bytes with
  | case1 bytes hframe => rfl
  | case2 bytes payload rest hframe payloads left hrest ih =>
      rw [hrest] at ih
      rw [payloadsOf_of_some (firstFrame?_append hframe more), ih]
      rfl

theorem payloadsOf_framesOf {texts : List String} (h : ∀ text ∈ texts, Fits text) :
    payloadsOf (framesOf texts) = (texts.map Bytes.ofText, []) := by
  induction texts with
  | nil => exact payloadsOf_of_none rfl
  | cons text rest ih =>
      have hlength : (Bytes.ofText text).length ≤ maxFrameLength := by
        rw [Bytes.length_ofText]
        exact h text List.mem_cons_self
      have hrest := ih fun t ht => h t (List.mem_cons_of_mem _ ht)
      rw [framesOf_cons, payloadsOf_of_some (firstFrame?_frameBytes hlength _), hrest]
      rfl

/-! ## Decoding piece by piece -/

namespace FrameDecoder

variable {d : FrameDecoder}

/-- The decoder that holds some bytes. -/
def holding (bytes : Bytes) : FrameDecoder :=
  takeLength ⟨none, bytes⟩

theorem sound_holding (bytes : Bytes) : (holding bytes).Sound :=
  sound_takeLength (sound_of_expected_eq_none rfl)

@[simp] theorem held_holding (bytes : Bytes) : (holding bytes).held = bytes :=
  held_takeLength _

theorem holding_held (h : d.Sound) : holding d.held = d.takeLength := by
  match d with
  | ⟨none, buffer⟩ => rfl
  | ⟨some n, buffer⟩ =>
      have hcount := count_lengthBytes (h n rfl)
      simp only [holding, held, Option.elim, lengthBytes, List.cons_append, List.nil_append,
        takeLength, hcount]

/-- A decoder gives out the complete frames of what it has taken in, and keeps the rest. -/
theorem drain_eq (h : d.Sound) :
    d.drain = ((payloadsOf d.held).1.map textOf, holding (payloadsOf d.held).2) := by
  fun_induction drain d with
  | case1 d frame rest hnext frames last hrest ih =>
      rw [next_eq h] at hnext
      cases hframe : firstFrame? d.held with
      | none =>
          rw [hframe] at hnext
          cases hnext
      | some found =>
          obtain ⟨payload, left⟩ := found
          rw [hframe] at hnext
          cases hnext
          have hheld : held ⟨none, left⟩ = left := rfl
          have hinner := ih (sound_of_expected_eq_none rfl)
          rw [hrest, hheld] at hinner
          obtain ⟨rfl, rfl⟩ := Prod.mk.inj hinner
          rw [payloadsOf_of_some hframe]
          rfl
  | case2 d rest hnext =>
      rw [next_eq h] at hnext
      cases hframe : firstFrame? d.held with
      | none =>
          rw [hframe] at hnext
          cases hnext
          rw [payloadsOf_of_none hframe, holding_held h]
          rfl
      | some found =>
          rw [hframe] at hnext
          cases hnext

/-- A piece of the stream arrives. -/
def feed (d : FrameDecoder) (piece : Bytes) : List (Except WireError String) × FrameDecoder :=
  (d.append piece).drain

/-- Everything that is decoded from a stream that arrives in pieces, and the decoder after it. -/
def decode (pieces : List Bytes) : List (Except WireError String) × FrameDecoder :=
  let (items, d) := Simulation.runSteps feed pieces empty
  (items.flatten, d)

/-- A decoder that holds no complete frame reads the pieces behind what it holds. -/
theorem runSteps_feed {bytes : Bytes} (h : firstFrame? bytes = none) (pieces : List Bytes) :
    (Simulation.runSteps feed pieces (holding bytes)).1.flatten =
        (payloadsOf (bytes ++ pieces.flatten)).1.map textOf ∧
      (Simulation.runSteps feed pieces (holding bytes)).2 =
        holding (payloadsOf (bytes ++ pieces.flatten)).2 := by
  induction pieces generalizing bytes with
  | nil =>
      rw [List.flatten_nil, List.append_nil, payloadsOf_of_none h]
      exact ⟨rfl, rfl⟩
  | cons piece rest ih =>
      have hfeed : feed (holding bytes) piece = ((payloadsOf (bytes ++ piece)).1.map textOf,
          holding (payloadsOf (bytes ++ piece)).2) := by
        rw [feed, drain_eq (sound_append (sound_holding bytes) piece), held_append, held_holding]
      obtain ⟨hitems, hleft⟩ := ih (firstFrame?_left (bytes ++ piece))
      rw [List.flatten_cons, ← List.append_assoc, payloadsOf_append (bytes ++ piece)]
      simp only [Simulation.runSteps, hfeed, List.flatten_cons, hitems, hleft, List.map_append]
      exact ⟨trivial, trivial⟩

/-- However a stream is cut, decoding comes to its reading. -/
theorem decode_eq (pieces : List Bytes) :
    decode pieces =
      ((payloadsOf pieces.flatten).1.map textOf, holding (payloadsOf pieces.flatten).2) := by
  have hnone : firstFrame? [] = none := rfl
  obtain ⟨hitems, hleft⟩ := runSteps_feed hnone pieces
  exact Prod.ext hitems hleft

end FrameDecoder

/-! ## Encoding one text after the other -/

/-- Encodes a text into a buffer, behind what is there. -/
def encodeInto (buffer : Bytes) (text : String) : Except WireError Unit × Bytes :=
  match encodeFrame text with
  | .ok bytes => (.ok (), buffer ++ bytes)
  | .error e => (.error e, buffer)

theorem encodeInto_of_fits {text : String} (h : Fits text) (buffer : Bytes) :
    encodeInto buffer text = (.ok (), buffer ++ frameBytes (.ofText text)) := by
  rw [encodeInto, encodeFrame_of_fits h]

theorem encodeInto_of_not_fits {text : String} (h : ¬Fits text) (buffer : Bytes) :
    encodeInto buffer text =
      (.error (.frameTooLarge text.utf8ByteSize maxFrameLength), buffer) := by
  have hframe : encodeFrame text = .error (.frameTooLarge text.utf8ByteSize maxFrameLength) :=
    if_neg h
  rw [encodeInto, hframe]

/-- Encodes texts one after the other into an empty buffer. -/
def encode (texts : List String) : List (Except WireError Unit) × Bytes :=
  Simulation.runSteps encodeInto texts []

theorem snd_runSteps_encodeInto (texts : List String) (buffer : Bytes) :
    (Simulation.runSteps encodeInto texts buffer).2 =
      buffer ++ framesOf (texts.filter Fits) := by
  induction texts generalizing buffer with
  | nil => simp [Simulation.runSteps]
  | cons text rest ih =>
      by_cases hfits : Fits text
      · simp only [Simulation.runSteps, encodeInto_of_fits hfits, ih]
        rw [List.filter_cons_of_pos (by simpa using hfits), framesOf_cons, List.append_assoc]
      · simp only [Simulation.runSteps, encodeInto_of_not_fits hfits, ih]
        rw [List.filter_cons_of_neg (by simpa using hfits)]

/-- Of the texts that were encoded, the ones that fit are decoded again. -/
theorem decode_of_encode {texts : List String} {pieces : List Bytes}
    (h : (encode texts).2 = pieces.flatten) :
    FrameDecoder.decode pieces = ((texts.filter Fits).map .ok, .empty) := by
  have hbytes : pieces.flatten = framesOf (texts.filter Fits) := by
    rw [← h, encode, snd_runSteps_encodeInto, List.nil_append]
  have hreading : payloadsOf pieces.flatten = ((texts.filter Fits).map Bytes.ofText, []) := by
    rw [hbytes]
    exact payloadsOf_framesOf fun text htext => by simpa using (List.mem_filter.mp htext).2
  have htexts : ((texts.filter Fits).map Bytes.ofText).map FrameDecoder.textOf =
      (texts.filter Fits).map .ok := by
    simp [FrameDecoder.textOf]
  rw [FrameDecoder.decode_eq, hreading, htexts]
  rfl

/-- The laws of frames, for a stream that comes in pieces and for texts that are encoded. -/
structure FrameLaw (pieces : List Bytes) (texts : List String) : Prop where
  /-- Every frame of the stream is read once and in order; one whose payload is no text is reported
  as such. -/
  items : (FrameDecoder.decode pieces).1 =
    (payloadsOf pieces.flatten).1.map fun payload =>
      (Bytes.text? payload).elim (.error .invalidUtf8) .ok
  /-- The decoder keeps what is left over. It has taken out the count that is in front, if both
  bytes of it are there. -/
  left : (FrameDecoder.decode pieces).2 =
    FrameDecoder.takeLength ⟨none, (payloadsOf pieces.flatten).2⟩
  /-- In no state does a decoder report anything else. -/
  errors : ∀ (d : FrameDecoder) (e : WireError), d.next.1 = some (.error e) → e = .invalidUtf8
  accepts : ∀ (buffer : Bytes) (text : String), text.utf8ByteSize ≤ 65535 →
    ∃ high low : UInt8, high.toNat * 256 + low.toNat = text.utf8ByteSize ∧
      encodeInto buffer text = (.ok (), buffer ++ high :: low :: Bytes.ofText text)
  refuses : ∀ (buffer : Bytes) (text : String), 65535 < text.utf8ByteSize →
    encodeInto buffer text = (.error (.frameTooLarge text.utf8ByteSize 65535), buffer)
  /-- What was encoded is decoded, in whatever pieces it comes. -/
  decodes : pieces.flatten = (encode texts).2 →
    FrameDecoder.decode pieces =
      ((texts.filter fun text => text.utf8ByteSize ≤ 65535).map .ok, .empty)

theorem frames_exact (pieces : List Bytes) (texts : List String) : FrameLaw pieces texts := by
  refine ⟨?_, ?_, fun d e => FrameDecoder.eq_invalidUtf8_of_next, ?_, ?_, ?_⟩
  · rw [FrameDecoder.decode_eq]
    rfl
  · rw [FrameDecoder.decode_eq]
    rfl
  · intro buffer text hfits
    refine ⟨UInt8.ofNat (text.utf8ByteSize / 256), UInt8.ofNat text.utf8ByteSize,
      count_lengthBytes hfits, ?_⟩
    rw [encodeInto_of_fits hfits, frameBytes, lengthBytes, Bytes.length_ofText]
    rfl
  · intro buffer text hlarge
    exact encodeInto_of_not_fits (Nat.not_le.mpr hlarge) buffer
  · intro hbytes
    exact decode_of_encode hbytes.symm

/-- The stream is cut inside a count, one of its payloads is no text, and another one is empty. -/
example : FrameDecoder.decode [[0], [2, 104], [105, 0, 1, 255, 0], [0, 0]] =
    ([.ok "hi", .error .invalidUtf8, .ok ""], ⟨none, [0]⟩) := by
  cbv

end QueryGateway
