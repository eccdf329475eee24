import QueryGateway.Client.Producer
import QueryGateway.Proofs.Wire.Frames
import QueryGateway.Proofs.Wire.ResultFrame
import QueryGateway.Proofs.Wire.WrittenHeader
import QueryGateway.Records.Projection

/-! # What a producer writes, and what it is answered

A batch is read back as its header and its lines. Some lines are not the records that were written:
blank ones are gone, and carriage returns at their ends too. Workers do not see the difference.
-/

namespace QueryGateway

open Text

/-! ## Batches -/

namespace Batch

variable {h : Header} {records : List String}

theorem join_breaks (record : String) (rest : List String) :
    String.join ((record :: rest).map ("\n" ++ ·)) = "\n" ++ "\n".intercalate (record :: rest) := by
  induction rest generalizing record with
  | nil => simp
  | cons next more ih =>
      rw [List.map_cons, String.join_cons, ih next, String.intercalate_cons_cons]
      simp [String.append_assoc]

/-- The first line of a batch is its header, and after it come the records. -/
theorem cut_encode (hbreak : '\n' ∉ h.text.toList) (records : List String) :
    (cut '\n' (encode h records)).getD (encode h records, "") =
      (h.text, "\n".intercalate records) := by
  rw [getD_cut_eq_iff]
  refine ⟨hbreak, ?_⟩
  cases records with
  | nil =>
      right
      simp [encode]
  | cons record rest =>
      left
      rw [encode, join_breaks, String.append_assoc]
      rfl

/-- The header of a batch and its lines are read back. -/
theorem parse_encode (hw : h.IsWritable) (records : List String) :
    parse (encode h records) = .ok ⟨h, "\n".intercalate records⟩ := by
  rw [parse, cut_encode hw.noBreak_text]
  simp only [hw.parse_text]
  rfl

/-- The records that a reader finds in the lines that were written. -/
def legible (records : List String) : List String :=
  (records.map (trimEnd (· = '\r'))).filter (!isBlankText ·)

theorem records_eq (hbreak : ∀ record ∈ records, '\n' ∉ record.toList) :
    Batch.records ⟨h, "\n".intercalate records⟩ = legible records := by
  cases records with
  | nil => rfl
  | cons record rest =>
      have hsplit : splitOn '\n' ("\n".intercalate (record :: rest)) = record :: rest :=
        splitOn_intercalate (List.cons_ne_nil _ _) hbreak
      rw [Batch.records, hsplit, legible]

end Batch

/-! ## Rows for the workers -/

namespace Schema

/-- Carriage returns at the end of a record are blanks of its last field. -/
theorem fields_trimEnd (record : String) :
    fields (trimEnd (· = '\r') record) = fields record := by
  obtain ⟨dropped, hrecord, hdropped⟩ :=
    exists_dropEndWhile_append (· = '\r') record.toList
  have hbar : '|' ∉ dropped := by
    intro hmem
    cases of_decide_eq_true (hdropped '|' hmem)
  have hpieces := splitList_append_forall₂ hbar (dropEndWhile (· = '\r') record.toList)
  rw [← hrecord] at hpieces
  have hsame : List.Forall₂ (· = ·)
      ((splitList '|' record.toList).map trimList)
      ((splitList '|' (dropEndWhile (· = '\r') record.toList)).map trimList) := by
    rw [List.forall₂_map_left_iff, List.forall₂_map_right_iff]
    apply hpieces.imp
    rintro _ piece ⟨blanks, hsub, rfl⟩
    apply trimList_append_blanks
    intro c hc
    rw [of_decide_eq_true (hdropped c (hsub hc))]
    decide
  rw [List.forall₂_eq_eq_eq] at hsame
  have hfields : ∀ s, fields s = ((splitList '|' s.toList).map trimList).map String.ofList := by
    intro s
    simp [fields, splitOn, trim, Function.comp_def]
  rw [hfields, hfields, trimEnd, String.toList_ofList, hsame]

/-- A blank record has too few fields. -/
theorem not_accepts_of_blank {record : String} (h : isBlankText record = true) (entity : Entity) :
    (Schema.of entity).accepts (fields record) = false := by
  have hblank : ∀ c ∈ record.toList, isBlank c = true := List.all_eq_true.mp h
  have hbar : '|' ∉ record.toList := fun hmem => absurd (hblank '|' hmem) (by decide)
  have hfields : fields record = [""] := by
    rw [fields, splitOn_of_notMem hbar, List.map_singleton, trim, trimList_of_forall hblank]
  rw [hfields]
  cases entity <;> rfl

end Schema

theorem projectRows_legible (entity : Entity) (records : List String) :
    projectRows entity (Batch.legible records) = projectRows entity records := by
  have hkept : ((Batch.legible records).map Schema.fields).filter (Schema.of entity).accepts =
      (records.map Schema.fields).filter (Schema.of entity).accepts := by
    induction records with
    | nil => rfl
    | cons record rest ih =>
        have hfields := Schema.fields_trimEnd record
        rw [Batch.legible, List.map_cons, List.filter_cons]
        -- A record that the reader drops as blank is one that the schema would not accept.
        by_cases hblank : isBlankText (trimEnd (· = '\r') record) = true
        · have hdropped := Schema.not_accepts_of_blank hblank entity
          rw [hfields] at hdropped
          simp only [hblank, Bool.not_true, Bool.false_eq_true, if_false, List.map_cons,
            List.filter_cons, hdropped]
          exact ih
        · simp only [hblank, Bool.not_false, if_true, List.map_cons, hfields, List.filter_cons]
          split
          · exact congrArg _ ih
          · exact ih
  rw [projectRows, projectRows, hkept]

/-- Workers get the same rows whether the records are taken as written or as read. -/
theorem body_project_legible (entity : Entity) (records : List String) :
    (project entity (Batch.legible records)).body = (project entity records).body := by
  rw [project, project, projectRows_legible]

/-! ## Acknowledgements -/

namespace Ack

theorem dropEnding?_eq_none (s : String) (n : Nat) :
    dropEnding? "_EOF_ACK" (s ++ toString n) = none := by
  obtain ⟨front, digit, hdigits⟩ := List.eq_nil_or_concat' (toString n).toList |>.resolve_left
    fun hnil => toString_nat_ne_empty n (String.toList_eq_nil_iff.mp hnil)
  have hmem : digit ∈ (toString n).toList := by
    rw [hdigits]
    simp
  have hdigit := isDigit_of_mem_toString hmem
  have hne : digit ≠ 'K' := by
    rintro rfl
    cases hdigit
  rw [dropEnding?, String.toList_append, hdigits]
  simp [List.isSuffixOf?, List.isPrefixOf?, hne.symm]

theorem cutAt_text (entity : Entity) (s : String) :
    cutAt "_ACK:" (entity.name ++ "_ACK:" ++ s) = some (entity.name, s) := by
  have hlist : cutListAt "_ACK:".toList (entity.name.toList ++ "_ACK:".toList ++ s.toList) =
      some (entity.name.toList, s.toList) := by
    cases entity <;> rfl
  rw [cutAt, String.toList_append, String.toList_append, hlist]
  simp

/-- An acknowledgement is read back. -/
theorem parse_text (a : Ack) : parse a.text = .ok a := by
  obtain ⟨entity, marker⟩ := a
  cases marker with
  | endOfStream => cases entity <;> rfl
  | batch id =>
      have hne : entity.name ≠ "" := by cases entity <;> decide
      have htrim : trim (entity.name ++ "_ACK:" ++ toString id.toNat) =
          entity.name ++ "_ACK:" ++ toString id.toNat :=
        trim_append (Header.trim_name entity) (Marker.trim_text (.batch id)) hne
          (toString_nat_ne_empty id.toNat) _
      simp only [parse, text, htrim, dropEnding?_eq_none, cutAt_text, Entity.parse_name,
        batchId?_toString]
      rfl

/-- The answer to a frame is no longer than the header of the frame. -/
theorem utf8ByteSize_text_le {h : Header} (hw : h.IsWritable) :
    (ofHeader h).text.utf8ByteSize ≤ h.text.utf8ByteSize := by
  have hqueries : h.queryList.utf8ByteSize ≠ 0 := by
    simpa using hw.queryList_ne_empty
  have hclient : h.client.text.utf8ByteSize ≠ 0 := by
    simpa using hw.client.ne_empty
  have hcomma : ",".utf8ByteSize = 1 := rfl
  obtain ⟨queries, entity, client, marker⟩ := h
  cases marker with
  | batch id =>
      have hword : "_ACK:".utf8ByteSize = 5 := rfl
      simp only [ofHeader, text, Header.text, Marker.text, String.utf8ByteSize_append] at *
      omega
  | endOfStream =>
      have hword : "_EOF_ACK".utf8ByteSize = 8 := rfl
      have hend : endWord.utf8ByteSize = 3 := rfl
      simp only [ofHeader, text, Header.text, Marker.text, String.utf8ByteSize_append] at *
      omega

theorem fits_text {h : Header} (hw : h.IsWritable) {records : List String}
    (hfits : Fits (Batch.encode h records)) : Fits (ofHeader h).text := by
  rw [Fits, Batch.encode, String.utf8ByteSize_append] at hfits
  have hheader := utf8ByteSize_text_le hw
  rw [Fits]
  omega

end Ack

/-! ## What a producer checks -/

namespace Producer

variable {p : Producer}

theorem checkQueries_eq_ok {queries : List QueryId}
    (h : p.entity.isPrimary = false → queries.length = 1) : p.checkQueries queries = .ok () := by
  rw [checkQueries]
  cases hprimary : p.entity.isPrimary with
  | true => rfl
  | false => rw [h hprimary]; rfl

theorem checkAck_eq_ok_iff {expected : Ack} {received : String} :
    checkAck expected received = .ok () ↔ Ack.parse received = .ok expected := by
  rw [checkAck]
  cases hparse : Ack.parse received with
  | error e => simp
  | ok ack =>
      by_cases heq : ack = expected
      · simp [heq]
      · simp [heq]

theorem checkAck_text (a : Ack) : checkAck a a.text = .ok () :=
  checkAck_eq_ok_iff.mpr (Ack.parse_text a)

/-! ## What a producer does -/

theorem send_eq (h : Header) (records : List String) :
    send h records =
      .perform (I := Wire) (.write (Batch.encode h records)) fun
        | .error e => .done (.error (.wire e))
        | .ok () => .perform (I := Wire) .read fun
          | .error e => .done (.error (.wire e))
          | .ok received => .done (checkAck (.ofHeader h) received) := by
  refine congrArg (Program.perform (I := Wire) _) (funext fun answer => ?_)
  cases answer with
  | error e => rfl
  | ok _ =>
      refine congrArg (Program.perform (I := Wire) _) (funext fun answer => ?_)
      cases answer <;> rfl

end Producer

end QueryGateway
