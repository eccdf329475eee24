import QueryGateway.Proofs.Wire.ResultFrame
import QueryGateway.Wire.Announcement

/-! # The texts of a result connection

A client announces itself on its result connection, and is sent frames of results. Either text is
read as it was written exactly if it holds what its reader can find in some payload: a name in one
line without blanks around it, and rows that do not say `EOF`.
-/

namespace QueryGateway

open Text

/-! ## Announced names -/

/-- A name that an announcement can give. -/
structure ClientId.IsClean (client : ClientId) : Prop where
  ne_empty : client.text ≠ ""
  trimmed : trim client.text = client.text
  oneLine : '\n' ∉ client.text.toList

instance : DecidablePred ClientId.IsClean := fun client =>
  decidable_of_iff (client.text ≠ "" ∧ trim client.text = client.text ∧ '\n' ∉ client.text.toList)
    ⟨fun ⟨h₁, h₂, h₃⟩ => ⟨h₁, h₂, h₃⟩, fun ⟨h₁, h₂, h₃⟩ => ⟨h₁, h₂, h₃⟩⟩

namespace Announcement

variable {payload : String} {a : Announcement}

/-- The line that an announcement is read from. -/
def line (payload : String) : String :=
  trimEnd (fun c => c = '\r' || c = '\n') payload

theorem parse?_eq (payload : String) :
    parse? payload =
      if '\n' ∈ (line payload).toList then none
      else (cut ',' (line payload)).bind fun parts =>
        if trim parts.1 = tag ∧ trim parts.2 ≠ "" then some ⟨⟨trim parts.2⟩⟩ else none := by
  rw [parse?, line]
  split
  · rfl
  · simp

/-- The name is all that follows the first comma, without the blanks around it. -/
theorem parse?_eq_some_iff :
    parse? payload = some a ↔
      ∃ word id, line payload = word ++ "," ++ id ∧ '\n' ∉ (line payload).toList ∧
        ',' ∉ word.toList ∧ trim word = tag ∧ a.client.text = trim id ∧ a.client.text ≠ "" := by
  rw [parse?_eq]
  constructor
  · intro hparse
    by_cases hbreak : '\n' ∈ (line payload).toList
    · rw [if_pos hbreak] at hparse
      cases hparse
    · rw [if_neg hbreak, Option.bind_eq_some_iff] at hparse
      obtain ⟨⟨word, id⟩, hcut, hfound⟩ := hparse
      obtain ⟨hline, hcomma⟩ := cut_eq_some_iff.mp hcut
      by_cases hgood : trim word = tag ∧ trim id ≠ ""
      · rw [if_pos hgood] at hfound
        obtain rfl := Option.some.inj hfound
        exact ⟨word, id, hline, hbreak, hcomma, hgood.1, rfl, hgood.2⟩
      · rw [if_neg hgood] at hfound
        cases hfound
  · rintro ⟨word, id, hline, hbreak, hcomma, hword, hclient, hne⟩
    have hcut : cut ',' (line payload) = some (word, id) :=
      cut_eq_some_iff.mpr ⟨hline, hcomma⟩
    have hsome : trim id ≠ "" := hclient ▸ hne
    rw [if_neg hbreak, hcut, Option.bind_some, if_pos ⟨hword, hsome⟩, ← hclient]

theorem isClean (hparse : parse? payload = some a) : a.client.IsClean := by
  obtain ⟨word, id, hline, hbreak, -, -, hclient, hne⟩ := parse?_eq_some_iff.mp hparse
  have hid : '\n' ∉ id.toList := by
    intro hmem
    apply hbreak
    rw [hline, String.toList_append]
    exact List.mem_append_right _ hmem
  refine ⟨hne, ?_, ?_⟩
  · rw [hclient, trim_trim]
  · rw [hclient]
    exact fun hmem => hid (trim_subset id hmem)

/-- The reader drops line breaks from the end of a payload. They are blanks, and a clean name does
not end in one. -/
theorem line_text (h : a.client.IsClean) : line a.text = a.text := by
  have hblank : ∀ c : Char, (c = '\r' || c = '\n') = true → isBlank c = true := by
    intro c hc
    simp only [Bool.or_eq_true, decide_eq_true_eq] at hc
    rcases hc with rfl | rfl
    · decide
    · decide
  have htag : trim tag = tag := by decide
  exact trimEnd_of_trim hblank (trim_append htag h.trimmed (by decide) h.ne_empty ",")

theorem parse?_text (h : a.client.IsClean) : parse? a.text = some a := by
  have hbreak : '\n' ∉ (line a.text).toList := by
    rw [line_text h]
    simp only [text, String.toList_append, List.mem_append, not_or]
    exact ⟨⟨by decide, by decide⟩, h.oneLine⟩
  rw [parse?_eq_some_iff]
  exact ⟨tag, a.client.text, line_text h, hbreak, by decide, by decide, h.trimmed.symm, h.ne_empty⟩

end Announcement

/-! ## The round trip -/

/-- A frame of results is read as it was written exactly if it is faithful, and an announcement
exactly if its name is clean. What is read of any payload is of this kind. -/
theorem resultTexts_roundTrip :
    (∀ f : ResultFrame, ResultFrame.parse? f.text = some f ↔ f.IsFaithful) ∧
      (∀ payload f, ResultFrame.parse? payload = some f → f.IsFaithful) ∧
      (∀ client : ClientId,
        Announcement.parse? (Announcement.text ⟨client⟩) = some ⟨client⟩ ↔ client.IsClean) ∧
      ∀ payload a, Announcement.parse? payload = some a → a.client.IsClean := by
  refine ⟨fun f => ⟨?_, ?_⟩, ?_, fun client => ⟨?_, ?_⟩, ?_⟩
  · exact ResultFrame.isFaithful_of_parse?
  · exact ResultFrame.parse?_text_of_isFaithful
  · exact fun _ _ hparse => ResultFrame.isFaithful_of_parse? hparse
  · exact fun hparse => Announcement.isClean hparse
  · exact fun hclean => Announcement.parse?_text hclean
  · exact fun _ _ hparse => Announcement.isClean hparse

/-- Blanks and line breaks around a query or a name are gone when it is read, and rows that only
start with `EOF` stay rows. -/
theorem resultTexts_roundTrip_of_untidy_payloads :
    ResultFrame.parse? "\t q 1 \r\nEOF \nEOF" = some ⟨⟨"q 1"⟩, .rows "EOF \nEOF"⟩ ∧
      ResultFrame.parse? "q 1\nEOF \nEOF" = some ⟨⟨"q 1"⟩, .rows "EOF \nEOF"⟩ ∧
      Announcement.parse? " CLIENT_ID , a,b \r\n\n" = some ⟨⟨"a,b"⟩⟩ ∧
      Announcement.parse? "CLIENT_ID,a,b" = some ⟨⟨"a,b"⟩⟩ := by
  have hframe : ResultFrame.parse? "\t q 1 \r\nEOF \nEOF" =
      some ⟨⟨"q 1"⟩, .rows "EOF \nEOF"⟩ := by
    decide +kernel
  have hannounced : Announcement.parse? " CLIENT_ID , a,b \r\n\n" = some ⟨⟨"a,b"⟩⟩ := by
    decide +kernel
  have htext : ResultFrame.text ⟨⟨"q 1"⟩, .rows "EOF \nEOF"⟩ = "q 1\nEOF \nEOF" := by decide
  have hline : Announcement.text ⟨⟨"a,b"⟩⟩ = "CLIENT_ID,a,b" := by decide
  obtain ⟨hframes, hread, hnames, hgiven⟩ := resultTexts_roundTrip
  have hback := (hframes _).mpr (hread _ _ hframe)
  have hagain := (hnames _).mpr (hgiven _ _ hannounced)
  rw [htext] at hback
  rw [hline] at hagain
  exact ⟨hframe, hback, hannounced, hagain⟩

/-- Rows that say `EOF` are lost with the blanks around them, while a name may hold commas. -/
example : ¬ ResultFrame.IsFaithful ⟨⟨"q"⟩, .rows " EOF\r\n"⟩ ∧ ClientId.IsClean ⟨"a, b"⟩ := by
  decide

end QueryGateway
