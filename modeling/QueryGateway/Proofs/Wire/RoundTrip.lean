import QueryGateway.Proofs.Wire.ProducerFrames

/-! # Batches that are read as they were written

A frame says what its producer meant exactly if its header is writable and none of its records is
changed by the reader. What a reader finds in any payload is of this kind, so that it can be passed
on in a frame of its own.
-/

namespace QueryGateway

open Text

/-! ## Headers -/

namespace Header

variable {line field : String} {entity : Entity} {h : Header}

/-- The fields of a line are trimmed, and none of them holds a comma. -/
theorem field_of_mem {name : String} (hbreak : '\n' ∉ line.toList)
    (hname : name ∈ (splitOn ',' (trim line)).map trim) (hne : name ≠ "") : IsName name := by
  obtain ⟨piece, hpiece, rfl⟩ := List.mem_map.mp hname
  obtain ⟨hcomma, hsub⟩ := notMem_of_mem_splitOn hpiece
  refine ⟨hne, trim_trim piece, ?_, ?_⟩
  · exact fun hmem => hcomma (trim_subset piece hmem)
  · exact fun hmem => hbreak (trim_subset line (hsub (trim_subset piece hmem)))

/-- The texts that a field is cut into, before they are trimmed. -/
theorem exists_of_mem_queriesOf {query : QueryId} (h : query ∈ queriesOf entity field) :
    ∃ piece, query.text = trim piece ∧ query.text ≠ "" ∧ piece.toList ⊆ field.toList ∧
      (entity.isPrimary = true → '|' ∉ piece.toList) := by
  have hne := text_ne_of_mem_queriesOf h
  rw [queriesOf, mem_distinct] at h
  obtain ⟨name, hname, rfl⟩ := List.mem_map.mp h
  obtain ⟨piece, hpiece, rfl⟩ := List.mem_map.mp (List.mem_filter.mp hname).1
  refine ⟨piece, rfl, hne, ?_⟩
  cases hprimary : entity.isPrimary with
  | true =>
      rw [hprimary, if_pos rfl] at hpiece
      obtain ⟨hbar, hsub⟩ := notMem_of_mem_splitOn hpiece
      exact ⟨hsub, fun _ => hbar⟩
  | false =>
      rw [hprimary, if_neg Bool.false_ne_true] at hpiece
      obtain rfl := List.mem_singleton.mp hpiece
      exact ⟨List.Subset.refl _, fun h => by cases h⟩

theorem length_queriesOf_le (h : entity.isPrimary = false) :
    (queriesOf entity field).length ≤ 1 := by
  rw [queriesOf, h]
  by_cases hfield : trim field = ""
  · simp [hfield, distinct]
  · simp [hfield, distinct]

/-- Every header that is read from a line can be written again. -/
theorem isWritable_of_parse (hbreak : '\n' ∉ line.toList) (hparse : parse line = .ok h) :
    h.IsWritable := by
  have hfields := ofFields_of_parse hparse
  obtain ⟨queries, entity, client, rest, heq, hclient, -, -, hqueries, hsome, hid⟩ :=
    ofFields_eq_ok hfields
  have hmem : ∀ name ∈ [queries, client], name ∈ (splitOn ',' (trim line)).map trim := by
    intro name hname
    rw [heq]
    simp only [List.mem_cons, List.not_mem_nil, or_false] at hname ⊢
    rcases hname with rfl | rfl
    · exact .inl rfl
    · exact .inr (.inr (.inl rfl))
  have hpieces : ∀ query ∈ h.queries, ∃ piece, query.text = trim piece ∧ query.text ≠ "" ∧
      piece.toList ⊆ queries.toList ∧ (h.entity.isPrimary = true → '|' ∉ piece.toList) := by
    rw [hqueries]
    exact fun query hquery => exists_of_mem_queriesOf hquery
  refine ⟨hsome, nodup_queries hparse, ?_, ?_, ?_, ?_⟩
  · intro query hquery
    obtain ⟨piece, htext, hne, hsub, -⟩ := hpieces query hquery
    have hfield : queries ≠ "" := by
      rintro rfl
      have hnil : piece.toList = [] := List.subset_nil.mp hsub
      rw [htext, trim, hnil] at hne
      exact hne rfl
    have hname := field_of_mem hbreak (hmem queries List.mem_cons_self) hfield
    have hchars : query.text.toList ⊆ queries.toList := by
      rw [htext]
      exact List.Subset.trans (trim_subset piece) hsub
    refine ⟨hne, ?_, fun hc => hname.noComma (hchars hc), fun hc => hname.noBreak (hchars hc)⟩
    rw [htext, trim_trim]
  · rw [hid]
    exact field_of_mem hbreak (hmem client (by simp)) hclient
  · intro hprimary query hquery
    obtain ⟨piece, htext, -, -, hbar⟩ := hpieces query hquery
    rw [htext]
    exact fun hc => hbar hprimary (trim_subset piece hc)
  · intro hprimary
    have hle : h.queries.length ≤ 1 := by
      rw [hqueries]
      exact length_queriesOf_le hprimary
    have hpos : 0 < h.queries.length := List.length_pos_iff.mpr hsome
    omega

end Header

/-! ## Records -/

namespace Batch

variable {h : Header} {records : List String} {payload : String} {batch : Batch}

/-- A text that is read as the record it was written for. -/
structure IsRecord (record : String) : Prop where
  oneLine : '\n' ∉ record.toList
  notBlank : isBlankText record = false
  noReturn : record.toList.getLast? ≠ some '\r'

instance : DecidablePred IsRecord := fun record =>
  decidable_of_iff ('\n' ∉ record.toList ∧ isBlankText record = false ∧
    record.toList.getLast? ≠ some '\r')
    ⟨fun ⟨h₁, h₂, h₃⟩ => ⟨h₁, h₂, h₃⟩, fun ⟨h₁, h₂, h₃⟩ => ⟨h₁, h₂, h₃⟩⟩

theorem trimEnd_eq_self {record : String} (h : record.toList.getLast? ≠ some '\r') :
    trimEnd (· = '\r') record = record := by
  have hkept : dropEndWhile (· = '\r') record.toList = record.toList := by
    rw [dropEndWhile_eq_self_iff]
    intro c hc
    rw [decide_eq_false_iff_not]
    rintro rfl
    exact h hc
  rw [trimEnd, hkept, String.ofList_toList]

theorem legible_eq_self (hrecords : ∀ record ∈ records, IsRecord record) :
    legible records = records := by
  have hmap : records.map (trimEnd (· = '\r')) = records := by
    rw [List.map_congr_left fun record hmem => trimEnd_eq_self (hrecords record hmem).noReturn,
      List.map_id']
  rw [legible, hmap, List.filter_eq_self]
  intro record hmem
  rw [(hrecords record hmem).notBlank]
  rfl

theorem isRecord_of_mem_records {record : String} (hmem : record ∈ batch.records) :
    IsRecord record := by
  obtain ⟨hline, hblank⟩ := List.mem_filter.mp hmem
  obtain ⟨line, hpiece, rfl⟩ := List.mem_map.mp hline
  obtain ⟨hbreak, -⟩ := notMem_of_mem_splitOn hpiece
  refine ⟨?_, by simpa using hblank, ?_⟩
  · rw [trimEnd, String.toList_ofList]
    exact fun hc => hbreak (dropEndWhile_subset _ _ hc)
  · rw [trimEnd, String.toList_ofList]
    intro hlast
    have hnot := getLast?_dropEndWhile hlast
    simp at hnot

/-! ## The round trip -/

/-- A header and records that a frame can carry. -/
structure IsFaithful (h : Header) (records : List String) : Prop where
  header : h.IsWritable
  records : ∀ record ∈ records, IsRecord record

instance (h : Header) : DecidablePred (IsFaithful h) := fun records =>
  decidable_of_iff (h.IsWritable ∧ ∀ record ∈ records, IsRecord record)
    ⟨fun ⟨h₁, h₂⟩ => ⟨h₁, h₂⟩, fun ⟨h₁, h₂⟩ => ⟨h₁, h₂⟩⟩

/-- A payload is read as this header and these records. -/
def Reads (payload : String) (h : Header) (records : List String) : Prop :=
  ∃ batch, parse payload = .ok batch ∧ batch.header = h ∧ batch.records = records

/-- The line that the header of a payload is read from. -/
theorem header_of_first_line (hparse : parse payload = .ok batch) :
    ∃ line, '\n' ∉ line.toList ∧ Header.parse line = .ok batch.header := by
  simp only [parse, Success.bind_eq_ok, Success.pure_eq_ok] at hparse
  obtain ⟨h, hline, rfl⟩ := hparse
  cases hcut : (cut '\n' payload).getD (payload, "") with
  | mk first body =>
      obtain ⟨hbreak, -⟩ := getD_cut_eq_iff.mp hcut
      rw [hcut] at hline
      exact ⟨first, hbreak, hline⟩

theorem isFaithful_of_parse (hparse : parse payload = .ok batch) :
    IsFaithful batch.header batch.records := by
  obtain ⟨line, hbreak, hheader⟩ := header_of_first_line hparse
  exact ⟨Header.isWritable_of_parse hbreak hheader, fun _ hmem => isRecord_of_mem_records hmem⟩

theorem reads_encode (hfaithful : IsFaithful h records) : Reads (encode h records) h records := by
  refine ⟨_, parse_encode hfaithful.header records, rfl, ?_⟩
  rw [records_eq fun record hmem => (hfaithful.records record hmem).oneLine,
    legible_eq_self hfaithful.records]

end Batch

/-- A frame is read as it was written exactly if its header and its records are faithful. What is
read of any payload is faithful, whatever its marker is changed to. -/
theorem batch_roundTrip_iff (h : Header) (records : List String) :
    (Batch.Reads (Batch.encode h records) h records ↔ Batch.IsFaithful h records) ∧
      ∀ payload batch, Batch.parse payload = .ok batch →
        Batch.IsFaithful batch.header batch.records ∧
          ∀ marker, Batch.Reads (Batch.encode { batch.header with marker } batch.records)
            { batch.header with marker } batch.records := by
  refine ⟨⟨?_, Batch.reads_encode⟩, ?_⟩
  · rintro ⟨found, hfound, rfl, rfl⟩
    exact Batch.isFaithful_of_parse hfound
  · intro payload batch hparse
    have hfaithful := Batch.isFaithful_of_parse hparse
    obtain ⟨hsome, hnodup, hnames, hclient, hbar, hsingle⟩ := hfaithful.header
    refine ⟨hfaithful, fun marker => ?_⟩
    exact Batch.reads_encode ⟨⟨hsome, hnodup, hnames, hclient, hbar, hsingle⟩, hfaithful.records⟩

/-- A line with blanks, a repeated query, a plus sign and a field too many is read as a header that
can be written, and so is the end of that client's stream. -/
theorem batch_roundTrip_of_untidy_payload :
    Batch.parse " q1 | q1||q2 , movies, c ,+007,x\n a|b\r\r\n\r\n" =
        .ok ⟨⟨[⟨"q1"⟩, ⟨"q2"⟩], .movies, ⟨"c"⟩, .batch 7⟩, " a|b\r\r\n\r\n"⟩ ∧
      Batch.Reads (Batch.encode ⟨[⟨"q1"⟩, ⟨"q2"⟩], .movies, ⟨"c"⟩, .endOfStream⟩ [" a|b"])
        ⟨[⟨"q1"⟩, ⟨"q2"⟩], .movies, ⟨"c"⟩, .endOfStream⟩ [" a|b"] := by
  have hparse : Batch.parse " q1 | q1||q2 , movies, c ,+007,x\n a|b\r\r\n\r\n" =
      .ok ⟨⟨[⟨"q1"⟩, ⟨"q2"⟩], .movies, ⟨"c"⟩, .batch 7⟩, " a|b\r\r\n\r\n"⟩ := by
    decide +kernel
  have hrecords : ∀ h : Header, Batch.records ⟨h, " a|b\r\r\n\r\n"⟩ = [" a|b"] := by
    intro h
    cbv
  have hreads := ((batch_roundTrip_iff ⟨[⟨"q1"⟩], .movies, ⟨"c"⟩, .endOfStream⟩ []).2 _ _ hparse).2
    .endOfStream
  rw [hrecords] at hreads
  exact ⟨hparse, hreads⟩

/-- A query of the secondary kinds may hold a bar, and a record a carriage return that is not at its
end. -/
example : Batch.IsFaithful ⟨[⟨"q3|q4"⟩], .ratings, ⟨"c 1"⟩, .batch 7⟩ ["1|2\r|5|0", " x "] := by
  decide

end QueryGateway
