import QueryGateway.Proofs.Client.Batches

/-! # Calls of a batcher

Records are put into a batcher and batches are taken out of it in any order. However it is used, the
batches and the records that still wait are the records that it took, and each batch fits into a
frame behind every header that room was kept for.
-/

namespace QueryGateway.Batcher

/-- What may be asked of a batcher. -/
inductive Call where
  | push (record : String)
  | finish

/-- A batcher, and what has come of the calls of it. -/
structure Ledger where
  /-- The records that were not refused, in the order of the calls. -/
  taken : List String
  /-- The batches that were given out. -/
  given : List (List String)
  batcher : Batcher

namespace Ledger

/-- Nothing was asked yet. -/
def start (b : Batcher) : Ledger := ⟨[], [], b⟩

/-- Makes a call. -/
def call (s : Ledger) : Call → Ledger
  | .push record =>
    match s.batcher.push record with
    | (.ok flushed, b) => ⟨s.taken ++ [record], s.given ++ flushed.toList, b⟩
    | (.error _, b) => { s with batcher := b }
  | .finish => ⟨s.taken, s.given ++ s.batcher.finish.1.toList, s.batcher.finish.2⟩

/-- Makes one call after the other. -/
def run (s : Ledger) (calls : List Call) : Ledger :=
  calls.foldl call s

end Ledger

variable {b : Batcher} {s : Ledger}

/-! ## What a run keeps -/

/-- What holds of a ledger whose batcher was `b` at first. -/
structure Ledger.Sound (b : Batcher) (s : Ledger) : Prop where
  batcher : s.batcher.Sound
  maxRecords : s.batcher.maxRecords = b.maxRecords
  maxBytes : s.batcher.maxBytes = b.maxBytes
  lossless : s.given.flatten ++ s.batcher.pending = s.taken
  batches : ∀ batch ∈ s.given, b.IsBatch batch

/-- The pending records are taken out, if there are any. -/
theorem Sound.finish_eq (hb : b.Sound) :
    ∃ flushed, b.finish = (flushed, b.holding []) ∧ flushed.toList.flatten = b.pending ∧
      ∀ batch ∈ flushed, b.IsBatch batch := by
  by_cases hnil : b.pending = []
  · have hheld : b.holding [] = b := by
      rw [holding, ← hnil, ← hb.bytes]
    refine ⟨none, ?_, ?_, by simp⟩
    · rw [finish, if_pos hnil, hheld]
    · rw [hnil]
      rfl
  · refine ⟨some b.pending, ?_, by simp, ?_⟩
    · rw [finish, if_neg hnil]
      rfl
    · intro batch hbatch
      obtain rfl := Option.some.inj hbatch
      exact hb.isBatch hnil

namespace Ledger.Sound

theorem start (hb : b.Sound) (hnil : b.pending = []) : (Ledger.start b).Sound b :=
  ⟨hb, rfl, rfl, hnil, fun _ hmem => absurd hmem List.not_mem_nil⟩

theorem isBatch (hs : s.Sound b) {batch : List String} (h : s.batcher.IsBatch batch) :
    b.IsBatch batch :=
  ⟨h.some, hs.maxRecords ▸ h.count, hs.maxBytes ▸ h.fits⟩

/-- Some batches are given out, and what was pending besides is kept. -/
theorem give (hs : s.Sound b) {flushed : Option (List String)} {kept added : List String}
    (hkept : (s.batcher.holding kept).Sound)
    (hall : s.batcher.pending ++ added = flushed.toList.flatten ++ kept)
    (hbatch : ∀ batch ∈ flushed, s.batcher.IsBatch batch) :
    Sound b ⟨s.taken ++ added, s.given ++ flushed.toList, s.batcher.holding kept⟩ := by
  refine ⟨hkept, hs.maxRecords, hs.maxBytes, ?_, ?_⟩
  · rw [List.flatten_append, List.append_assoc, pending_holding, ← hall, ← List.append_assoc,
      hs.lossless]
  · intro batch hmem
    rcases List.mem_append.mp hmem with hmem | hmem
    · exact hs.batches batch hmem
    · exact hs.isBatch (hbatch batch (Option.mem_toList.mp hmem))

theorem call (hs : s.Sound b) (call : Call) : (s.call call).Sound b := by
  cases call with
  | push record =>
      by_cases hfit : cost record ≤ s.batcher.maxBytes
      · obtain ⟨flushed, kept, hkept, hall, hbatch, hpush⟩ := hs.batcher.push_of_fits hfit
        rw [Ledger.call, hpush]
        exact hs.give hkept hall hbatch
      · rw [Ledger.call, push_of_large (Nat.lt_of_not_le hfit)]
        exact hs
  | finish =>
      obtain ⟨flushed, hfinish, hall, hbatch⟩ := hs.batcher.finish_eq
      have hempty : (s.batcher.holding []).Sound :=
        ⟨hs.batcher.limit, rfl, Nat.zero_le _, Nat.zero_le _⟩
      have hnone : s.batcher.pending ++ [] = flushed.toList.flatten ++ [] := by simp [hall]
      have hgiven := hs.give hempty hnone hbatch
      rw [List.append_nil] at hgiven
      rw [Ledger.call, hfinish]
      exact hgiven

theorem run (hs : s.Sound b) (calls : List Call) : (s.run calls).Sound b := by
  induction calls generalizing s with
  | nil => exact hs
  | cons first rest ih => exact ih (hs.call first)

end Ledger.Sound

/-! ## The answers of a push -/

/-- A record is refused exactly if it does not fit into any batch. -/
theorem push_fst_eq_error_iff {record : String} {e : ClientError} :
    (b.push record).1 = .error e ↔
      b.maxBytes < cost record ∧ e = .recordTooLarge record.utf8ByteSize (b.maxBytes - 1) := by
  by_cases hlarge : b.maxBytes < cost record
  · rw [push_of_large hlarge]
    simp [hlarge, eq_comm]
  · simp [push, hlarge]

/-- The pending batch is given out exactly if a record that is not refused would break one of its
bounds. -/
theorem Sound.push_fst_eq_some_iff (hb : b.Sound) {record : String} {batch : List String} :
    (b.push record).1 = .ok (some batch) ↔
      cost record ≤ b.maxBytes ∧ batch = b.pending ∧
        (b.maxRecords < (batch ++ [record]).length ∨ b.maxBytes < load (batch ++ [record])) := by
  by_cases hfit : cost record ≤ b.maxBytes
  · have hfull : b.isFullFor (cost record) = true ↔
        b.maxRecords < (b.pending ++ [record]).length ∨
          b.maxBytes < load (b.pending ++ [record]) := by
      rw [isFullFor, Bool.or_eq_true, decide_eq_true_iff, decide_eq_true_iff,
        hb.load_concat record, List.length_append, List.length_singleton, Nat.lt_succ_iff]
    cases hroom : b.isFullFor (cost record) with
    | false =>
        rw [hroom] at hfull
        rw [(hb.push_of_room hfit hroom).1]
        constructor
        · intro h
          cases h
        · rintro ⟨-, rfl, hbreaks⟩
          cases hfull.mpr hbreaks
    | true =>
        rw [(hb.push_of_full hfit hroom).2.1]
        constructor
        · intro h
          cases h
          exact ⟨hfit, rfl, hfull.mp hroom⟩
        · rintro ⟨-, rfl, -⟩
          rfl
  · rw [push_of_large (Nat.lt_of_not_le hfit)]
    simp [hfit]

/-! ## Every sequence of calls -/

/-- The law of a batcher for batches of at most `maxRecords` records that keeps `headerReserve`
bytes free in each frame. -/
structure Ledger.Exact (maxRecords headerReserve : Nat) (s : Ledger) : Prop where
  /-- No record that was taken is lost, repeated or out of order. -/
  lossless : s.given.flatten ++ s.batcher.pending = s.taken
  bounded : ∀ batch ∈ s.given, batch ≠ [] ∧ batch.length ≤ max maxRecords 1
  fits : ∀ batch ∈ s.given, ∀ header : Header, header.text.utf8ByteSize ≤ headerReserve →
    (Batch.encode header batch).utf8ByteSize ≤ maxFrameLength
  /-- A record is refused if it and its line break do not fit into a frame with the bytes that are
  kept free. -/
  refused_iff : ∀ record, (∃ e, (s.batcher.push record).1 = .error e) ↔
    maxFrameLength ≤ headerReserve ∨ maxFrameLength < headerReserve + (record.utf8ByteSize + 1)
  /-- A record that is refused changes nothing. -/
  refused : ∀ record e, (s.batcher.push record).1 = .error e →
    e = .recordTooLarge record.utf8ByteSize (maxFrameLength - headerReserve - 1) ∧
      s.batcher.push record = (.error e, s.batcher)
  /-- A batch is given out for a record that would break one of its bounds. -/
  flushed : ∀ record batch, (s.batcher.push record).1 = .ok (some batch) →
    batch = s.batcher.pending ∧ (max maxRecords 1 < (batch ++ [record]).length ∨
      maxFrameLength - headerReserve < load (batch ++ [record]))
  /-- The pending records are within the bounds too. -/
  waiting : s.batcher.pending ≠ [] → s.batcher.pending.length ≤ max maxRecords 1 ∧
    ∀ header : Header, header.text.utf8ByteSize ≤ headerReserve →
      (Batch.encode header s.batcher.pending).utf8ByteSize ≤ maxFrameLength
  /-- In the end the pending records are given out. -/
  finished : s.batcher.finish.1.toList.flatten = s.batcher.pending ∧
    s.batcher.finish.2.pending = []

/-- Whatever calls are made of a new batcher, it loses no record and gives out no batch that is
empty, too long, or too large for a frame; and the bytes that a producer keeps free are enough for
each of its headers. -/
theorem grouping_exact (maxRecords headerReserve : Nat) (calls : List Call) :
    ((Ledger.start (new maxRecords headerReserve)).run calls).Exact maxRecords headerReserve ∧
      ∀ (p : Producer) (queries : List QueryId) (marker : Marker),
        (p.header queries marker).text.utf8ByteSize ≤ p.headerReserve queries := by
  refine ⟨?_, Producer.utf8ByteSize_header_le⟩
  have hsound := (Ledger.Sound.start (sound_new maxRecords headerReserve) rfl).run calls
  generalize (Ledger.start (new maxRecords headerReserve)).run calls = s at hsound
  have hrecords : s.batcher.maxRecords = max maxRecords 1 := hsound.maxRecords
  have hbytes : s.batcher.maxBytes = maxFrameLength - headerReserve := hsound.maxBytes
  refine ⟨hsound.lossless, ?_, ?_, ?_, ?_, ?_, ?_, ?_⟩
  · intro batch hbatch
    exact ⟨(hsound.batches batch hbatch).some, (hsound.batches batch hbatch).count⟩
  · intro batch hbatch header hheader
    exact (hsound.batches batch hbatch).fits_encode hheader
  · intro record
    simp only [push_fst_eq_error_iff, hbytes, cost, exists_eq_right]
    omega
  · intro record e hrefused
    obtain ⟨hlarge, he⟩ := push_fst_eq_error_iff.mp hrefused
    refine ⟨hbytes ▸ he, ?_⟩
    rw [push_of_large hlarge, ← he]
  · intro record batch hflushed
    obtain ⟨-, hbatch, hbreaks⟩ := hsound.batcher.push_fst_eq_some_iff.mp hflushed
    rw [hrecords, hbytes] at hbreaks
    exact ⟨hbatch, hbreaks⟩
  · intro hsome
    have hbatch := hsound.isBatch (hsound.batcher.isBatch hsome)
    exact ⟨hbatch.count, fun header hheader => hbatch.fits_encode hheader⟩
  · obtain ⟨flushed, hfinish, hall, -⟩ := hsound.batcher.finish_eq
    rw [hfinish]
    exact ⟨hall, rfl⟩

/-- The second record fits to the first one by bytes but not by count, and the third one fits
nowhere. -/
example : ((Ledger.start (new 1 65530)).run [.push "ab", .push "cd", .push "efghi", .finish]).given =
    [["ab"], ["cd"]] := by
  decide

end QueryGateway.Batcher
