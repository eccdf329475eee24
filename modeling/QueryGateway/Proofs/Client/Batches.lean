import QueryGateway.Client.Batcher
import QueryGateway.Proofs.Wire.ProducerFrames

/-! # The batches of a batcher

A batcher gives its records out again in the order in which they came, in batches that are neither
empty nor too large for a frame. A record that is too large for every frame is refused.
-/

namespace QueryGateway

open Text

/-! ## Sizes of frames -/

theorem Text.utf8ByteSize_of_forall_isDigit {s : String} (h : ∀ c ∈ s.toList, c.isDigit = true) :
    s.utf8ByteSize = s.toList.length := by
  suffices hlist : ∀ cs : List Char, (∀ c ∈ cs, c.isDigit = true) →
      (String.ofList cs).utf8ByteSize = cs.length by
    rw [← hlist s.toList h, String.ofList_toList]
  intro cs
  induction cs with
  | nil => intro _; rfl
  | cons c cs ih =>
      intro hdigits
      obtain ⟨hc, hcs⟩ := List.forall_mem_cons.mp hdigits
      have hsize : c.utf8Size = 1 := by
        simp only [Char.isDigit, Bool.and_eq_true, decide_eq_true_eq] at hc
        exact Char.utf8Size_eq_one_iff.mpr (UInt32.le_trans hc.2 (by decide))
      rw [String.ofList_cons, String.utf8ByteSize_append, String.utf8ByteSize_singleton, hsize,
        ih hcs, List.length_cons]
      omega

/-- A number of 64 bits has at most twenty digits. -/
theorem Marker.utf8ByteSize_text_le (m : Marker) : m.text.utf8ByteSize ≤ 20 := by
  cases m with
  | batch id =>
      have hsize := utf8ByteSize_of_forall_isDigit (s := toString id.toNat)
        fun c hc => isDigit_of_mem_toString hc
      have hlength : (Nat.toDigits 10 id.toNat).length ≤ 20 := by
        apply (Nat.length_toDigits_le_iff (by decide) (by decide)).mpr
        exact Nat.lt_trans id.toNat_lt (by decide)
      rw [Marker.text, hsize, toList_toString_nat]
      exact hlength
  | endOfStream => decide

/-- No header line of a producer is longer than the one that room is kept for. -/
theorem Producer.utf8ByteSize_header_le (p : Producer) (queries : List QueryId) (marker : Marker) :
    (p.header queries marker).text.utf8ByteSize ≤ p.headerReserve queries := by
  have hlongest : (Marker.batch (UInt64.ofNat maxWord64)).text.utf8ByteSize = 20 := by
    decide
  have hmarker := marker.utf8ByteSize_text_le
  simp only [headerReserve, Header.text, String.utf8ByteSize_append]
  simp only [header, Header.queryList] at hlongest ⊢
  omega

namespace Batcher

/-- The bytes that records take in a frame. -/
def load : List String → Nat
  | [] => 0
  | record :: rest => cost record + load rest

@[simp] theorem load_nil : load [] = 0 := rfl

@[simp] theorem load_cons (record : String) (rest : List String) :
    load (record :: rest) = cost record + load rest := rfl

@[simp] theorem load_append (first second : List String) :
    load (first ++ second) = load first + load second := by
  induction first with
  | nil => simp
  | cons record rest ih => simp [ih, Nat.add_assoc]

theorem load_singleton (record : String) : load [record] = cost record := by
  rw [load_cons, load_nil, Nat.add_zero]

theorem load_pos {records : List String} (h : records ≠ []) : 0 < load records := by
  cases records with
  | nil => exact absurd rfl h
  | cons record rest =>
      rw [load_cons, cost]
      omega

end Batcher

theorem Batch.utf8ByteSize_encode (h : Header) (records : List String) :
    (encode h records).utf8ByteSize = h.text.utf8ByteSize + Batcher.load records := by
  have hbody : (String.join (records.map ("\n" ++ ·))).utf8ByteSize = Batcher.load records := by
    induction records with
    | nil => rfl
    | cons record rest ih =>
        have hbreak : "\n".utf8ByteSize = 1 := rfl
        rw [List.map_cons, String.join_cons, String.utf8ByteSize_append, ih,
          String.utf8ByteSize_append, hbreak, Batcher.load_cons, Batcher.cost]
        omega
  rw [encode, String.utf8ByteSize_append, hbody]

namespace Batcher

variable {b : Batcher} {record : String} {records batch : List String}

/-! ## Batchers -/

/-- What holds of a batcher at all times. -/
structure Sound (b : Batcher) : Prop where
  limit : 1 ≤ b.maxRecords
  bytes : b.bytes = load b.pending
  count : b.pending.length ≤ b.maxRecords
  fits : load b.pending ≤ b.maxBytes

/-- A batch that a batcher may give out. -/
structure IsBatch (b : Batcher) (batch : List String) : Prop where
  some : batch ≠ []
  count : batch.length ≤ b.maxRecords
  fits : load batch ≤ b.maxBytes

/-- The batcher when these records are pending. -/
def holding (b : Batcher) (records : List String) : Batcher :=
  { b with pending := records, bytes := load records }

@[simp] theorem maxRecords_holding : (b.holding records).maxRecords = b.maxRecords := rfl

@[simp] theorem maxBytes_holding : (b.holding records).maxBytes = b.maxBytes := rfl

@[simp] theorem pending_holding : (b.holding records).pending = records := rfl

theorem sound_new (maxRecords headerReserve : Nat) : (new maxRecords headerReserve).Sound :=
  ⟨Nat.le_max_right _ _, rfl, Nat.zero_le _, Nat.zero_le _⟩

theorem Sound.isBatch (hb : b.Sound) (h : b.pending ≠ []) : b.IsBatch b.pending :=
  ⟨h, hb.count, hb.fits⟩

theorem push_of_large (h : b.maxBytes < cost record) :
    b.push record = (.error (.recordTooLarge record.utf8ByteSize (b.maxBytes - 1)), b) := by
  rw [push]
  exact if_pos h

theorem Sound.load_concat (hb : b.Sound) (record : String) :
    load (b.pending ++ [record]) = b.bytes + cost record := by
  rw [hb.bytes, load_append, load_singleton]

/-- A record that fits to the pending ones joins them. -/
theorem Sound.push_of_room (hb : b.Sound) (hfit : cost record ≤ b.maxBytes)
    (hroom : b.isFullFor (cost record) = false) :
    b.push record = (.ok none, b.holding (b.pending ++ [record])) ∧
      (b.holding (b.pending ++ [record])).Sound := by
  have hload := hb.load_concat record
  constructor
  · rw [push]
    simp only [Nat.not_lt.mpr hfit, if_false, hroom, Bool.false_eq_true, holding, hload]
  · simp only [isFullFor, Bool.or_eq_false_iff, decide_eq_false_iff_not] at hroom
    refine ⟨hb.limit, rfl, ?_, ?_⟩
    · simp only [pending_holding, maxRecords_holding, List.length_append, List.length_singleton]
      omega
    · rw [pending_holding, maxBytes_holding, hload]
      omega

/-- A record that fits to no other one is held alone, and the pending ones are given out. There are
some, for an empty batch has room for it. -/
theorem Sound.push_of_full (hb : b.Sound) (hfit : cost record ≤ b.maxBytes)
    (hfull : b.isFullFor (cost record) = true) :
    b.pending ≠ [] ∧ b.push record = (.ok (some b.pending), b.holding [record]) ∧
      (b.holding [record]).Sound := by
  have hsome : b.pending ≠ [] := by
    intro hnil
    have hbytes := hb.bytes
    have hone := hb.limit
    simp only [isFullFor, Bool.or_eq_true, decide_eq_true_eq] at hfull
    rw [hnil] at hfull hbytes
    rw [load_nil] at hbytes
    rw [List.length_nil] at hfull
    omega
  refine ⟨hsome, ?_, hb.limit, rfl, hb.limit, ?_⟩
  · rw [push]
    simp [Nat.not_lt.mpr hfit, hfull, finish, hsome, holding]
  · rw [pending_holding, maxBytes_holding, load_singleton]
    exact hfit

/-- A record that fits is kept, and all that was pending before is given out or kept with it. -/
theorem Sound.push_of_fits (hb : b.Sound) (hfit : cost record ≤ b.maxBytes) :
    ∃ flushed kept, (b.holding kept).Sound ∧
      b.pending ++ [record] = flushed.toList.flatten ++ kept ∧
      (∀ batch ∈ flushed, b.IsBatch batch) ∧ b.push record = (.ok flushed, b.holding kept) := by
  cases hfull : b.isFullFor (cost record) with
  | false =>
      obtain ⟨hpush, hsound⟩ := hb.push_of_room hfit hfull
      exact ⟨none, b.pending ++ [record], hsound, rfl, by simp, hpush⟩
  | true =>
      obtain ⟨hsome, hpush, hsound⟩ := hb.push_of_full hfit hfull
      refine ⟨some b.pending, [record], hsound, by simp, ?_, hpush⟩
      intro batch hbatch
      obtain rfl := Option.some.inj hbatch
      exact hb.isBatch hsome

/-! ## The batches that are made of records -/

/-- The batches that are made of records, up to one that is refused. If none is, what is pending at
last is a batch too. -/
def plan (b : Batcher) : List String → List (List String) × Option ClientError
  | [] => (b.finish.1.toList, none)
  | record :: rest =>
    match b.push record with
    | (.error e, _) => ([], some e)
    | (.ok flushed, b) => (flushed.toList ++ (b.plan rest).1, (b.plan rest).2)

theorem plan_nil : b.plan [] = (if b.pending = [] then [] else [b.pending], none) := by
  rw [plan, finish]
  split <;> rfl

theorem plan_of_large (h : b.maxBytes < cost record) (rest : List String) :
    b.plan (record :: rest) =
      ([], some (.recordTooLarge record.utf8ByteSize (b.maxBytes - 1))) := by
  rw [plan, push_of_large h]

/-- A record that fits is kept, behind a batch that is given out or behind none. -/
theorem Sound.plan_cons (hb : b.Sound) (hfit : cost record ≤ b.maxBytes) (rest : List String) :
    ∃ flushed kept, (b.holding kept).Sound ∧ b.pending ++ [record] = flushed.flatten ++ kept ∧
      (∀ batch ∈ flushed, b.IsBatch batch) ∧
      b.plan (record :: rest) =
        (flushed ++ ((b.holding kept).plan rest).1, ((b.holding kept).plan rest).2) := by
  obtain ⟨flushed, kept, hsound, hall, hbatch, hpush⟩ := hb.push_of_fits hfit
  refine ⟨flushed.toList, kept, hsound, hall, ?_, ?_⟩
  · intro batch hmem
    exact hbatch batch (Option.mem_toList.mp hmem)
  · rw [plan, hpush]

theorem Sound.isBatch_of_mem_plan (hb : b.Sound) (h : batch ∈ (b.plan records).1) :
    b.IsBatch batch := by
  induction records generalizing b with
  | nil =>
      rw [plan_nil] at h
      by_cases hnil : b.pending = []
      · simp [hnil] at h
      · simp only [hnil, if_false, List.mem_singleton] at h
        rw [h]
        exact hb.isBatch hnil
  | cons record rest ih =>
      by_cases hfit : cost record ≤ b.maxBytes
      · obtain ⟨flushed, kept, hsound, -, hflushed, hplan⟩ := hb.plan_cons hfit rest
        rw [hplan] at h
        rcases List.mem_append.mp h with hmem | hmem
        · exact hflushed batch hmem
        · obtain ⟨hsome, hcount, hfits⟩ := ih hsound hmem
          exact ⟨hsome, hcount, hfits⟩
      · rw [plan_of_large (Nat.lt_of_not_le hfit)] at h
        cases h

/-- Records that all fit come out again, behind the ones that are pending. -/
theorem Sound.plan_of_fits (hb : b.Sound) (hfits : ∀ record ∈ records, cost record ≤ b.maxBytes) :
    (b.plan records).2 = none ∧ (b.plan records).1.flatten = b.pending ++ records := by
  induction records generalizing b with
  | nil =>
      rw [plan_nil]
      by_cases hnil : b.pending = []
      · simp [hnil]
      · simp [hnil]
  | cons record rest ih =>
      obtain ⟨hfit, hrest⟩ := List.forall_mem_cons.mp hfits
      obtain ⟨flushed, kept, hsound, hkept, -, hplan⟩ := hb.plan_cons hfit rest
      obtain ⟨hnone, hflatten⟩ := ih hsound hrest
      rw [hplan]
      refine ⟨hnone, ?_⟩
      rw [List.flatten_append, hflatten, pending_holding, ← List.append_assoc, ← hkept,
        List.append_assoc]
      rfl

/-- At the first record that fits nowhere it is refused. What was given out by then are records
before it. -/
theorem Sound.plan_of_refused (hb : b.Sound) (hfits : ∀ record ∈ records, cost record ≤ b.maxBytes)
    (hlarge : b.maxBytes < cost record) (after : List String) :
    (b.plan (records ++ record :: after)).2 =
        some (.recordTooLarge record.utf8ByteSize (b.maxBytes - 1)) ∧
      (b.plan (records ++ record :: after)).1.flatten <+: b.pending ++ records := by
  induction records generalizing b with
  | nil =>
      rw [List.nil_append, plan_of_large hlarge]
      exact ⟨rfl, List.nil_prefix⟩
  | cons first rest ih =>
      obtain ⟨hfit, hrest⟩ := List.forall_mem_cons.mp hfits
      obtain ⟨flushed, kept, hsound, hkept, -, hplan⟩ := hb.plan_cons hfit (rest ++ record :: after)
      obtain ⟨hrefused, hprefix⟩ := ih hsound hrest hlarge
      rw [List.cons_append, hplan]
      refine ⟨hrefused, ?_⟩
      have hall : b.pending ++ first :: rest = flushed.flatten ++ (kept ++ rest) := by
        rw [← List.append_assoc, ← hkept, List.append_assoc]
        rfl
      rw [hall, List.flatten_append]
      exact (List.prefix_append_right_inj _).mpr hprefix

/-- Either every record fits to some batch, or there is a first one that does not. -/
theorem fits_or_large (b : Batcher) (records : List String) :
    (∀ record ∈ records, cost record ≤ b.maxBytes) ∨
      ∃ before record after, records = before ++ record :: after ∧
        (∀ earlier ∈ before, cost earlier ≤ b.maxBytes) ∧ b.maxBytes < cost record := by
  induction records with
  | nil => exact .inl fun _ hmem => absurd hmem List.not_mem_nil
  | cons first rest ih =>
      by_cases hfit : cost first ≤ b.maxBytes
      · rcases ih with hfits | ⟨before, record, after, rfl, hbefore, hlarge⟩
        · exact .inl (List.forall_mem_cons.mpr ⟨hfit, hfits⟩)
        · exact .inr ⟨first :: before, record, after, rfl,
            List.forall_mem_cons.mpr ⟨hfit, hbefore⟩, hlarge⟩
      · exact .inr ⟨[], first, rest, rfl, fun _ hmem => absurd hmem List.not_mem_nil,
          Nat.lt_of_not_le hfit⟩

/-- Nothing is given out that was not put in, and nothing out of order. -/
theorem Sound.isPrefix_plan (hb : b.Sound) (records : List String) :
    (b.plan records).1.flatten <+: b.pending ++ records := by
  rcases b.fits_or_large records with hfits | ⟨before, record, after, rfl, hbefore, hlarge⟩
  · simp only [(hb.plan_of_fits hfits).2, List.prefix_rfl]
  · apply (hb.plan_of_refused hbefore hlarge after).2.trans
    rw [← List.append_assoc]
    exact List.prefix_append _ _

/-- A batch fits into a frame behind every header that room was kept for. -/
theorem IsBatch.fits_encode {maxRecords headerReserve : Nat}
    (h : (new maxRecords headerReserve).IsBatch batch) {header : Header}
    (hheader : header.text.utf8ByteSize ≤ headerReserve) : Fits (Batch.encode header batch) := by
  have hload := h.fits
  have hpos := load_pos h.some
  rw [Fits, Batch.utf8ByteSize_encode]
  simp only [new] at hload
  omega

/-- The last record does not fit to the first two. -/
example : (new 5 65526).plan ["ab", "cd", "e f"] = ([["ab", "cd"], ["e f"]], none) := by
  decide

end Batcher

end QueryGateway
