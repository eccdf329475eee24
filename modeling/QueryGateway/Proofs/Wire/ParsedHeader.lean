import QueryGateway.Proofs.Program.Success
import QueryGateway.Wire.Batch

/-! # Headers that were read

A line that is a header names at least one query, names none twice, and has no empty name.
-/

namespace QueryGateway

theorem mem_distinct [DecidableEq α] {a : α} {as : List α} : a ∈ distinct as ↔ a ∈ as := by
  induction as with
  | nil => simp [distinct]
  | cons b rest ih =>
      by_cases h : a = b
      · simp [distinct, h]
      · simp [distinct, h, ih]

theorem nodup_distinct [DecidableEq α] (as : List α) : (distinct as).Nodup := by
  induction as with
  | nil => simp [distinct]
  | cons a rest ih =>
      rw [distinct, List.nodup_cons]
      exact ⟨by simp, ih.filter _⟩

namespace Header

theorem nodup_queriesOf (entity : Entity) (field : String) : (queriesOf entity field).Nodup :=
  nodup_distinct _

theorem text_ne_of_mem_queriesOf {entity : Entity} {field : String} {query : QueryId}
    (h : query ∈ queriesOf entity field) : query.text ≠ "" := by
  rw [queriesOf, mem_distinct] at h
  obtain ⟨name, hname, rfl⟩ := List.mem_map.mp h
  simpa using (List.mem_filter.mp hname).2

/-- The fields of a header are its queries, its entity, its client and what the marker is read
from. -/
theorem ofFields_eq_ok {fields : List String} {h : Header} (hok : ofFields fields = .ok h) :
    ∃ queries entity client rest, fields = queries :: entity :: client :: rest ∧
      client ≠ "" ∧ Entity.parse entity = .ok h.entity ∧ markerOf rest = .ok h.marker ∧
      h.queries = queriesOf h.entity queries ∧ h.queries ≠ [] ∧ h.client = ⟨client⟩ := by
  match fields with
  | [] => cases hok
  | [_] => cases hok
  | [queries, entity] => simp [ofFields] at hok
  | queries :: entity :: client :: rest =>
      simp only [ofFields, Success.throw_eq_error, Success.error_bind, Success.guard_eq_ok,
        Success.bind_eq_ok, Success.mapError_eq_ok, Success.pure_eq_ok] at hok
      obtain ⟨-, kind, hkind, hclient, marker, hmarker, hids, rfl⟩ := hok
      exact ⟨queries, entity, client, rest, rfl, hclient, hkind, hmarker, rfl, hids, rfl⟩

variable {line : String} {h : Header}

/-- A header is read from the fields of its line. -/
theorem ofFields_of_parse (hparse : parse line = .ok h) :
    ofFields ((Text.splitOn ',' (Text.trim line)).map Text.trim) = .ok h := by
  rw [parse] at hparse
  by_cases hline : Text.trim line = ""
  · simp [hline] at hparse
  · simpa [hline] using hparse

theorem parse_eq_ok (hparse : parse line = .ok h) : ∃ fields, ofFields fields = .ok h :=
  ⟨_, ofFields_of_parse hparse⟩

theorem nodup_queries (hparse : parse line = .ok h) : h.queries.Nodup := by
  obtain ⟨fields, hok⟩ := parse_eq_ok hparse
  obtain ⟨queries, -, -, -, -, -, -, -, hqueries, -⟩ := ofFields_eq_ok hok
  rw [hqueries]
  exact nodup_queriesOf _ _

theorem query_text_ne (hparse : parse line = .ok h) {query : QueryId} (hquery : query ∈ h.queries) :
    query.text ≠ "" := by
  obtain ⟨fields, hok⟩ := parse_eq_ok hparse
  obtain ⟨queries, -, -, -, -, -, -, -, hqueries, -⟩ := ofFields_eq_ok hok
  rw [hqueries] at hquery
  exact text_ne_of_mem_queriesOf hquery

theorem client_text_ne (hparse : parse line = .ok h) : h.client.text ≠ "" := by
  obtain ⟨fields, hok⟩ := parse_eq_ok hparse
  obtain ⟨-, -, client, -, -, hclient, -, -, -, -, hid⟩ := ofFields_eq_ok hok
  rw [hid]
  exact hclient

end Header

/-- The header of a batch is one that was read. -/
theorem Batch.header_of_parse {payload : String} {batch : Batch}
    (hparse : Batch.parse payload = .ok batch) : ∃ line, Header.parse line = .ok batch.header := by
  simp only [Batch.parse, Success.bind_eq_ok, Success.pure_eq_ok] at hparse
  obtain ⟨h, hline, rfl⟩ := hparse
  exact ⟨_, hline⟩

end QueryGateway
