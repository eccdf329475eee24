import QueryGateway.Proofs.Text.Pieces
import QueryGateway.Wire.ResultFrame

/-! # Result frames as they are read

The reader of a result frame goes by the text alone. It finds the query and the rows that were
written, but rows that say `EOF` are taken for the end of the query. What it finds in any payload
has none of the faults that would change it on the way back.
-/

namespace QueryGateway

/-- A name that a result frame can carry. -/
structure QueryId.IsClean (query : QueryId) : Prop where
  ne_empty : query.text ≠ ""
  trimmed : Text.trim query.text = query.text
  oneLine : '\n' ∉ query.text.toList

instance : DecidablePred QueryId.IsClean := fun query =>
  decidable_of_iff (query.text ≠ "" ∧ Text.trim query.text = query.text ∧ '\n' ∉ query.text.toList)
    ⟨fun ⟨h₁, h₂, h₃⟩ => ⟨h₁, h₂, h₃⟩, fun ⟨h₁, h₂, h₃⟩ => ⟨h₁, h₂, h₃⟩⟩

/-- Rows that do not say that their query has ended, or its end. -/
def ResultBody.IsPlain : ResultBody → Prop
  | .rows text => Text.trim text ≠ endWord
  | .endOfStream => True

instance : DecidablePred ResultBody.IsPlain
  | .rows text => inferInstanceAs (Decidable (Text.trim text ≠ endWord))
  | .endOfStream => inferInstanceAs (Decidable True)

/-- A frame that holds nothing its reader would change. -/
structure ResultFrame.IsFaithful (f : ResultFrame) : Prop where
  query : f.query.IsClean
  body : f.body.IsPlain

instance : DecidablePred ResultFrame.IsFaithful := fun f =>
  decidable_of_iff (f.query.IsClean ∧ f.body.IsPlain)
    ⟨fun ⟨h₁, h₂⟩ => ⟨h₁, h₂⟩, fun ⟨h₁, h₂⟩ => ⟨h₁, h₂⟩⟩

namespace ResultFrame

variable {payload : String} {f : ResultFrame}

/-- What a reader makes of the body of a frame. -/
def bodyRead : ResultBody → ResultBody
  | .rows rows => if Text.trim rows = endWord then .endOfStream else .rows rows
  | .endOfStream => .endOfStream

theorem bodyRead_endWord : bodyRead (.rows endWord) = .endOfStream := by
  decide

theorem parse?_of_cut {first rest : String}
    (hcut : (Text.cut '\n' payload).getD (payload, "") = (first, rest)) :
    parse? payload =
      if Text.trim first = "" then none
      else some ⟨⟨Text.trim first⟩, bodyRead (.rows rest)⟩ := by
  rw [parse?, hcut]
  rfl

/-- The query is the first line without the blanks around it, and there has to be one. -/
theorem parse?_eq_some_iff :
    parse? payload = some f ↔
      ∃ first rest, '\n' ∉ first.toList ∧
        (payload = first ++ "\n" ++ rest ∨ payload = first ∧ rest = "") ∧
        f.query.text = Text.trim first ∧ f.query.text ≠ "" ∧ f.body = bodyRead (.rows rest) := by
  obtain ⟨⟨query⟩, body⟩ := f
  constructor
  · intro hparse
    cases hcut : (Text.cut '\n' payload).getD (payload, "") with
    | mk first rest =>
        obtain ⟨hline, hpayload⟩ := Text.getD_cut_eq_iff.mp hcut
        rw [parse?_of_cut hcut] at hparse
        by_cases hnone : Text.trim first = ""
        · rw [if_pos hnone] at hparse
          cases hparse
        · simp only [if_neg hnone, Option.some.injEq, mk.injEq, QueryId.mk.injEq] at hparse
          obtain ⟨rfl, hbody⟩ := hparse
          exact ⟨first, rest, hline, hpayload, rfl, hnone, hbody.symm⟩
  · rintro ⟨first, rest, hline, hpayload, hquery, hne, hbody⟩
    have hcut := Text.getD_cut_eq_iff.mpr ⟨hline, hpayload⟩
    have hsome : Text.trim first ≠ "" := hquery ▸ hne
    rw [parse?_of_cut hcut, if_neg hsome, ← hquery, ← hbody]

theorem parse?_line {query : QueryId} (h : query.IsClean) (rest : String) :
    parse? (query.text ++ "\n" ++ rest) = some ⟨query, bodyRead (.rows rest)⟩ := by
  obtain ⟨hne, htrim, hline⟩ := h
  have hcut := Text.getD_cut_eq_iff.mpr ⟨hline, .inl (Eq.refl (query.text ++ "\n" ++ rest))⟩
  rw [parse?_of_cut hcut, htrim, if_neg hne]

/-- The query is read back; the body is read back unless its rows say `EOF`. -/
theorem parse?_text (h : f.query.IsClean) :
    parse? f.text = some ⟨f.query, bodyRead f.body⟩ := by
  obtain ⟨query, body⟩ := f
  cases body with
  | rows rows => exact parse?_line h rows
  | endOfStream =>
      rw [text, parse?_line h, bodyRead_endWord, bodyRead]

/-- A frame is read as the end of a query if it is one, or if its rows say `EOF`. -/
theorem parse?_text_eq_end_iff (h : f.query.IsClean) {query : QueryId} :
    parse? f.text = some ⟨query, .endOfStream⟩ ↔
      f.query = query ∧ (f.body = .endOfStream ∨
        ∃ rows, f.body = .rows rows ∧ Text.trim rows = endWord) := by
  rw [parse?_text h]
  obtain ⟨query', body⟩ := f
  cases body with
  | rows rows =>
      by_cases htrim : Text.trim rows = endWord
      · simp [bodyRead, htrim]
      · simp [bodyRead, htrim]
  | endOfStream => simp [bodyRead]

/-! ## Frames that are read as they were written -/

theorem bodyRead_eq_self {body : ResultBody} (h : body.IsPlain) : bodyRead body = body := by
  cases body with
  | rows rows => rw [bodyRead, if_neg h]
  | endOfStream => rw [bodyRead]

theorem isPlain_bodyRead (body : ResultBody) : (bodyRead body).IsPlain := by
  cases body with
  | rows rows =>
      rw [bodyRead]
      split
      · trivial
      · next htrim => exact htrim
  | endOfStream => trivial

theorem isFaithful_of_parse? (hparse : parse? payload = some f) : f.IsFaithful := by
  obtain ⟨first, rest, hline, -, hquery, hne, hbody⟩ := parse?_eq_some_iff.mp hparse
  refine ⟨⟨hne, ?_, ?_⟩, ?_⟩
  · rw [hquery, Text.trim_trim]
  · rw [hquery]
    exact fun hmem => hline (Text.trim_subset first hmem)
  · rw [hbody]
    exact isPlain_bodyRead _

theorem parse?_text_of_isFaithful (h : f.IsFaithful) : parse? f.text = some f := by
  rw [parse?_text h.query, bodyRead_eq_self h.body]

end ResultFrame

end QueryGateway
