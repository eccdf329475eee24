import Mathlib.Data.List.Forall2
import QueryGateway.Proofs.Text.CsvReader
import QueryGateway.Proofs.Text.Pieces
import QueryGateway.Records.Projection

/-! # What workers read

Whatever producers put into their records, a reader of comma-separated rows finds the column names
and then one row for every complete record, with the fields that the schema names.
-/

namespace QueryGateway

namespace Schema

/-- A record with all fields, none of the required ones blank. -/
def Complete (s : Schema) (record : String) : Prop :=
  s.width ≤ (Text.splitOn '|' record).length ∧
    ∀ i ∈ s.required, ∃ source ∈ (Text.splitOn '|' record)[i]?, Text.isBlankText source = false

instance (s : Schema) : DecidablePred s.Complete :=
  fun _ => inferInstanceAs (Decidable (_ ∧ _))

/-- A row has the fields of a record that the columns name, trimmed. -/
def Carries (s : Schema) (record : String) (row : List String) : Prop :=
  List.Forall₂ (fun column field => ∃ source, (Text.splitOn '|' record)[column.position]? =
    some source ∧ field = Text.trim source) s.columns row

/-- The columns and the required fields are among the fields that a record has at least. -/
structure Sound (s : Schema) : Prop where
  columns : ∀ column ∈ s.columns, column.position < s.width
  required : ∀ i ∈ s.required, i < s.width
  some_column : s.columns ≠ []

theorem sound_of (entity : Entity) : (Schema.of entity).Sound := by
  cases entity with
  | movies => exact ⟨by decide, by decide, by decide⟩
  | credits => exact ⟨by decide, by decide, by decide⟩
  | ratings => exact ⟨by decide, by decide, by decide⟩

variable {s : Schema} {record : String}

theorem getElem?_fields (record : String) (i : Nat) :
    (fields record)[i]? = (Text.splitOn '|' record)[i]?.map Text.trim := by
  rw [fields, List.getElem?_map]

theorem accepts_fields_iff (hsound : s.Sound) :
    s.accepts (fields record) = true ↔ s.Complete record := by
  simp only [accepts, Complete, Bool.and_eq_true, decide_eq_true_eq, List.all_eq_true]
  have hlength : (fields record).length = (Text.splitOn '|' record).length := List.length_map _
  rw [hlength]
  apply and_congr_right
  intro hwidth
  apply forall₂_congr
  intro i hi
  have hbound := Nat.lt_of_lt_of_le (hsound.required i hi) hwidth
  rw [getElem?_fields, List.getElem?_eq_getElem hbound]
  simp [Text.trim_eq_empty_iff]

theorem carries_select (hsound : s.Sound) (h : s.Complete record) :
    s.Carries record (s.select (fields record)) := by
  rw [Carries, select, List.forall₂_map_right_iff, List.forall₂_same]
  intro column hcolumn
  have hbound := Nat.lt_of_lt_of_le (hsound.columns column hcolumn) h.1
  refine ⟨_, List.getElem?_eq_getElem hbound, ?_⟩
  rw [getElem?_fields, List.getElem?_eq_getElem hbound]
  rfl

end Schema

theorem projectRows_eq (entity : Entity) (records : List String) :
    projectRows entity records =
      (records.filter fun record => (Schema.of entity).Complete record).map fun record =>
        (Schema.of entity).select (Schema.fields record) := by
  have hsame : (Schema.of entity).accepts ∘ Schema.fields =
      fun record => decide ((Schema.of entity).Complete record) := by
    funext record
    rw [Bool.eq_iff_iff, decide_eq_true_eq]
    exact Schema.accepts_fields_iff (Schema.sound_of entity)
  rw [projectRows, List.filter_map, List.map_map, hsame]
  rfl

theorem project_faithful (entity : Entity) (records : List String) :
    ∃ rows,
      Text.Csv.read? (project entity records).body = some (columnNames entity :: rows) ∧
      List.Forall₂ (Schema.of entity).Carries
        (records.filter fun record => (Schema.of entity).Complete record) rows ∧
      (project entity records).kept = rows.length ∧
      (project entity records).kept + (project entity records).dropped = records.length := by
  have hsound := Schema.sound_of entity
  have hrows := projectRows_eq entity records
  have hsome : ∀ row ∈ columnNames entity :: projectRows entity records, row ≠ [] := by
    intro row hrow
    have hcolumns := hsound.some_column
    rcases List.mem_cons.mp hrow with rfl | hrow
    · simpa [columnNames, Schema.names] using hcolumns
    · rw [hrows] at hrow
      obtain ⟨record, -, rfl⟩ := List.mem_map.mp hrow
      simpa [Schema.select] using hcolumns
  have hfew : (projectRows entity records).length ≤ records.length := by
    rw [hrows, List.length_map]
    exact List.length_filter_le _ _
  refine ⟨projectRows entity records, Text.Csv.read?_rows (List.cons_ne_nil _ _) hsome, ?_, rfl,
    Nat.add_sub_cancel' hfew⟩
  rw [hrows, List.forall₂_map_right_iff, List.forall₂_same]
  intro record hrecord
  have hcomplete : (Schema.of entity).Complete record := by
    simpa using (List.mem_filter.mp hrecord).2
  exact Schema.carries_select hsound hcomplete

/-- Separators, quotes and line breaks in a record do not move what stands behind them. -/
example :
    Text.Csv.read? (project .credits ["7| \"a,\"\r\nb |x", "8|y", " |c|z"]).body =
      some [["id", "cast"], ["7", "\"a,\"\r\nb"]] := by
  decide

end QueryGateway
