import QueryGateway.Proofs.Text.Pieces
import QueryGateway.Proofs.Wire.ParsedHeader

/-! # Headers that were written

A header is read back from its line if no name in it can be taken for more or for less than it is:
names have no blanks around them and hold none of the separators.
-/

namespace QueryGateway

open Text

/-! ## Numbers -/

theorem Text.isDigit_of_mem_toString {n : Nat} {c : Char} (h : c ∈ (toString n).toList) :
    c.isDigit = true := by
  rw [toList_toString_nat] at h
  exact Nat.isDigit_of_mem_toDigits (by omega) (by omega) h

theorem Text.isBlank_of_isDigit {c : Char} (h : c.isDigit = true) : isBlank c = false := by
  simp only [Char.isDigit, Bool.and_eq_true, decide_eq_true_eq] at h
  have hlow : 48 ≤ c.toNat := UInt32.le_iff_toNat_le.mp h.1
  have hhigh : c.toNat ≤ 57 := UInt32.le_iff_toNat_le.mp h.2
  simp only [isBlank, Bool.or_eq_false_iff, Bool.and_eq_false_iff, decide_eq_false_iff_not,
    beq_eq_false_iff_ne]
  omega

theorem Text.toString_nat_ne_empty (n : Nat) : toString n ≠ "" := by
  have hdigits : Nat.toDigits 10 n ≠ [] := Nat.toDigits_ne_nil
  rw [← toList_toString_nat] at hdigits
  rintro hempty
  exact hdigits (congrArg String.toList hempty)

@[simp] theorem batchId?_toString (id : UInt64) : batchId? (toString id.toNat) = some id := by
  have hbound : id.toNat ≤ maxWord64 := Nat.le_of_lt_succ id.toNat_lt
  rw [batchId?, decimal?_toString hbound]
  simp

namespace Marker

theorem text_ne_empty (m : Marker) : m.text ≠ "" := by
  cases m with
  | batch id => exact toString_nat_ne_empty id.toNat
  | endOfStream => decide

theorem notMem_text {c : Char} (hdigit : c.isDigit = false) (hword : c ∉ endWord.toList)
    (m : Marker) : c ∉ m.text.toList := by
  cases m with
  | batch id =>
      intro hc
      rw [isDigit_of_mem_toString hc] at hdigit
      cases hdigit
  | endOfStream => exact hword

theorem trim_text (m : Marker) : trim m.text = m.text := by
  cases m with
  | batch id =>
      apply trim_eq_self_of_forall
      intro c hc
      exact isBlank_of_isDigit (isDigit_of_mem_toString hc)
  | endOfStream => rfl

end Marker

/-! ## Headers -/

/-- A name that a field of a header can carry. -/
structure Header.IsName (s : String) : Prop where
  ne_empty : s ≠ ""
  trimmed : trim s = s
  noComma : ',' ∉ s.toList
  noBreak : '\n' ∉ s.toList

instance : DecidablePred Header.IsName := fun s =>
  decidable_of_iff (s ≠ "" ∧ trim s = s ∧ ',' ∉ s.toList ∧ '\n' ∉ s.toList)
    ⟨fun ⟨h₁, h₂, h₃, h₄⟩ => ⟨h₁, h₂, h₃, h₄⟩, fun ⟨h₁, h₂, h₃, h₄⟩ => ⟨h₁, h₂, h₃, h₄⟩⟩

/-- A header whose line says what it is. -/
structure Header.IsWritable (h : Header) : Prop where
  some : h.queries ≠ []
  nodup : h.queries.Nodup
  names : ∀ query ∈ h.queries, IsName query.text
  client : IsName h.client.text
  noBar : h.entity.isPrimary = true → ∀ query ∈ h.queries, '|' ∉ query.text.toList
  single : h.entity.isPrimary = false → h.queries.length = 1

instance : DecidablePred Header.IsWritable := fun h =>
  decidable_of_iff (h.queries ≠ [] ∧ h.queries.Nodup ∧
    (∀ query ∈ h.queries, Header.IsName query.text) ∧ Header.IsName h.client.text ∧
    (h.entity.isPrimary = true → ∀ query ∈ h.queries, '|' ∉ query.text.toList) ∧
    (h.entity.isPrimary = false → h.queries.length = 1))
    ⟨fun ⟨h₁, h₂, h₃, h₄, h₅, h₆⟩ => ⟨h₁, h₂, h₃, h₄, h₅, h₆⟩,
      fun ⟨h₁, h₂, h₃, h₄, h₅, h₆⟩ => ⟨h₁, h₂, h₃, h₄, h₅, h₆⟩⟩

/-- Queries that a header of this kind of records can name. -/
structure Header.CanName (entity : Entity) (queries : List QueryId) : Prop where
  some : queries ≠ []
  nodup : queries.Nodup
  names : ∀ query ∈ queries, IsName query.text
  noBar : entity.isPrimary = true → ∀ query ∈ queries, '|' ∉ query.text.toList
  single : entity.isPrimary = false → queries.length = 1

theorem Header.CanName.isWritable {h : Header} (hqueries : CanName h.entity h.queries)
    (hclient : IsName h.client.text) : h.IsWritable :=
  ⟨hqueries.some, hqueries.nodup, hqueries.names, hclient, hqueries.noBar, hqueries.single⟩

namespace Header

theorem distinct_of_nodup [DecidableEq α] {as : List α} (h : as.Nodup) : distinct as = as := by
  induction as with
  | nil => rfl
  | cons a rest ih =>
      obtain ⟨hnot, hrest⟩ := List.nodup_cons.mp h
      rw [distinct, ih hrest, List.filter_eq_self.mpr]
      intro b hb
      simp only [ne_eq, decide_eq_true_eq]
      rintro rfl
      exact hnot hb

theorem trim_name (e : Entity) : trim e.name = e.name := by
  cases e <;> decide

theorem notMem_name {c : Char} (h : c.isUpper = false) (e : Entity) : c ∉ e.name.toList := by
  have hupper : e.name.toList.all Char.isUpper = true := by
    cases e <;> decide
  intro hc
  rw [List.all_eq_true.mp hupper c hc] at h
  cases h

variable {h : Header}

theorem queryList_eq (h : Header) :
    h.queryList = (String.singleton '|').intercalate (h.queries.map QueryId.text) := rfl

namespace IsWritable

theorem forall_texts (hw : h.IsWritable) : ∀ name ∈ h.queries.map QueryId.text, IsName name := by
  intro name hname
  obtain ⟨query, hquery, rfl⟩ := List.mem_map.mp hname
  exact hw.names query hquery

theorem texts_ne_nil (hw : h.IsWritable) : h.queries.map QueryId.text ≠ [] := by
  simpa using hw.some

theorem queryList_ne_empty (hw : h.IsWritable) : h.queryList ≠ "" := by
  rw [queryList_eq]
  exact intercalate_ne_empty hw.texts_ne_nil fun name hname => (hw.forall_texts name hname).ne_empty

theorem trim_queryList (hw : h.IsWritable) : trim h.queryList = h.queryList := by
  rw [queryList_eq]
  exact trim_intercalate (fun name hname => (hw.forall_texts name hname).ne_empty)
    fun name hname => (hw.forall_texts name hname).trimmed

/-- The names that the first field of a line is split into. -/
theorem queriesOf_queryList (hw : h.IsWritable) : queriesOf h.entity h.queryList = h.queries := by
  have hnames : (if h.entity.isPrimary then splitOn '|' h.queryList else [h.queryList]) =
      h.queries.map QueryId.text := by
    cases hprimary : h.entity.isPrimary with
    | true =>
        rw [if_pos rfl, queryList_eq]
        apply splitOn_intercalate hw.texts_ne_nil
        intro name hname
        obtain ⟨query, hquery, rfl⟩ := List.mem_map.mp hname
        exact hw.noBar hprimary query hquery
    | false =>
        obtain ⟨query, hquery⟩ := List.length_eq_one_iff.mp (hw.single hprimary)
        simp [queryList, hquery]
  have htrim : (h.queries.map QueryId.text).map trim = h.queries.map QueryId.text := by
    rw [List.map_congr_left fun name hname => (hw.forall_texts name hname).trimmed, List.map_id']
  have hkeep : (h.queries.map QueryId.text).filter (· ≠ "") = h.queries.map QueryId.text := by
    rw [List.filter_eq_self]
    intro name hname
    simpa using (hw.forall_texts name hname).ne_empty
  rw [queriesOf, hnames, htrim, hkeep, List.map_map]
  exact (congrArg distinct (List.map_id' h.queries)).trans (distinct_of_nodup hw.nodup)

theorem markerOf_text (m : Marker) : markerOf [m.text] = .ok m := by
  cases m with
  | batch id =>
      have hword : toString id.toNat ≠ endWord := by
        intro heq
        have hletter : 'E' ∈ (toString id.toNat).toList := by
          rw [heq]
          decide
        cases isDigit_of_mem_toString hletter
      simp only [markerOf, Marker.text, List.getLast?_singleton, Option.some.injEq, hword, if_false,
        batchId?_toString]
      rfl
  | endOfStream => rfl

theorem ofFields_eq (hw : h.IsWritable) :
    ofFields [h.queryList, h.entity.name, h.client.text, h.marker.text] = .ok h := by
  have hname : h.entity.name ≠ "" := by cases h.entity <;> decide
  simp [ofFields, hname, Entity.parse_name, hw.client.ne_empty, markerOf_text,
    hw.queriesOf_queryList, hw.some]

theorem noComma_queryList (hw : h.IsWritable) : ',' ∉ h.queryList.toList := by
  rw [queryList_eq]
  exact notMem_intercalate (by decide) fun name hname => (hw.forall_texts name hname).noComma

theorem splitOn_text (hw : h.IsWritable) :
    splitOn ',' h.text = [h.queryList, h.entity.name, h.client.text, h.marker.text] := by
  have hfields : h.text = (String.singleton ',').intercalate
      [h.queryList, h.entity.name, h.client.text, h.marker.text] := by
    simp only [text, String.intercalate_cons_cons, String.intercalate_singleton]
    simp [String.append_assoc]
  rw [hfields]
  apply splitOn_intercalate (List.cons_ne_nil _ _)
  simp only [List.forall_mem_cons, List.not_mem_nil, false_implies, implies_true, and_true]
  exact ⟨hw.noComma_queryList, notMem_name (by decide) _, hw.client.noComma,
    Marker.notMem_text (by decide) (by decide) _⟩

theorem trim_text (hw : h.IsWritable) : trim h.text = h.text := by
  have hparts : h.text = h.queryList ++ ("," ++ h.entity.name ++ "," ++ h.client.text ++ ",") ++
      h.marker.text := by
    simp [text, String.append_assoc]
  rw [hparts]
  exact trim_append hw.trim_queryList h.marker.trim_text hw.queryList_ne_empty
    h.marker.text_ne_empty _

/-- The header is read back from its line. -/
theorem parse_text (hw : h.IsWritable) : parse h.text = .ok h := by
  have hne : h.text ≠ "" := by
    simp [text]
  have hfields : [h.queryList, h.entity.name, h.client.text, h.marker.text].map trim =
      [h.queryList, h.entity.name, h.client.text, h.marker.text] := by
    simp [hw.trim_queryList, trim_name, hw.client.trimmed, h.marker.trim_text]
  rw [parse, hw.trim_text]
  simp only [hne, if_false, hw.splitOn_text, hfields, hw.ofFields_eq]

theorem noBreak_text (hw : h.IsWritable) : '\n' ∉ h.text.toList := by
  have hqueries : '\n' ∉ h.queryList.toList := by
    rw [queryList_eq]
    exact notMem_intercalate (by decide) fun name hname => (hw.forall_texts name hname).noBreak
  have hmarker := Marker.notMem_text (c := '\n') (by decide) (by decide) h.marker
  have hname := notMem_name (c := '\n') (by decide) h.entity
  simp only [text, String.toList_append, List.mem_append, not_or]
  exact ⟨⟨⟨⟨⟨⟨hqueries, by decide⟩, hname⟩, by decide⟩, hw.client.noBreak⟩, by decide⟩, hmarker⟩

end IsWritable

end Header

end QueryGateway
