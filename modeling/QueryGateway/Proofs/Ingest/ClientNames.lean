import QueryGateway.Proofs.Ingest.Blocks
import QueryGateway.Proofs.Wire.ProducerFrames
import QueryGateway.Proofs.Wire.ResultChannel
import QueryGateway.Client.Producer

/-! # The names of clients on both sides

A client announces its name on its result connection and writes it into the headers of its frames.
An announcement takes all that follows its first comma as the name, while a header is cut at every
comma. So a name with a comma in it is announced as a whole, and its frames are read as those of
another client.
-/

namespace QueryGateway

open Ingest Text

/-! ## Headers under an announced name -/

namespace Header

variable {h h' : Header} {before after : String}

/-- The header as some client without a comma in its name would write it. -/
theorem CanName.isWritable_under_letter (hqueries : CanName h.entity h.queries) :
    IsWritable { h with client := ⟨"c"⟩ } :=
  have hletter : IsName "c" := by decide
  CanName.isWritable (h := { h with client := ⟨"c"⟩ }) hqueries hletter

theorem CanName.splitOn_text (hqueries : CanName h.entity h.queries) :
    splitOn ',' h.text =
      h.queryList :: h.entity.name :: (splitOn ',' h.client.text ++ [h.marker.text]) := by
  have hlist : ',' ∉ h.queryList.toList := hqueries.isWritable_under_letter.noComma_queryList
  have hname := notMem_name (c := ',') (by decide) h.entity
  have hmarker := Marker.notMem_text (c := ',') (by decide) (by decide) h.marker
  have htext : h.text = h.queryList ++ "," ++ h.entity.name ++ "," ++ h.client.text ++ "," ++
      h.marker.text := rfl
  have hcomma : "," = String.singleton ',' := rfl
  rw [htext, hcomma, splitOn_append, splitOn_append, splitOn_append, splitOn_of_notMem hlist,
    splitOn_of_notMem hname, splitOn_of_notMem hmarker]
  rfl

theorem CanName.trim_text (hqueries : CanName h.entity h.queries) : trim h.text = h.text := by
  have hw := hqueries.isWritable_under_letter
  have hparts : h.text = h.queryList ++ ("," ++ h.entity.name ++ "," ++ h.client.text ++ ",") ++
      h.marker.text := by
    simp [text, String.append_assoc]
  rw [hparts]
  exact trim_append hw.trim_queryList h.marker.trim_text hw.queryList_ne_empty
    h.marker.text_ne_empty _

theorem CanName.noBreak_text (hqueries : CanName h.entity h.queries)
    (hclient : '\n' ∉ h.client.text.toList) : '\n' ∉ h.text.toList := by
  have hletter : '\n' ∉ (text { h with client := ⟨"c"⟩ }).toList :=
    hqueries.isWritable_under_letter.noBreak_text
  simp only [text, String.toList_append, List.mem_append, not_or] at hletter ⊢
  obtain ⟨⟨⟨⟨⟨⟨hlist, hcomma⟩, hname⟩, -⟩, -⟩, -⟩, hmarker⟩ := hletter
  exact ⟨⟨⟨⟨⟨⟨hlist, hcomma⟩, hname⟩, hcomma⟩, hclient⟩, hcomma⟩, hmarker⟩

/-- The fields that a header is read from if there is a comma in the name of its client. -/
theorem CanName.parse_of_comma (hqueries : CanName h.entity h.queries)
    (hcut : cut ',' h.client.text = Option.some (before, after)) :
    parse h.text = ofFields (h.queryList :: h.entity.name :: trim before ::
      ((splitOn ',' after).map trim ++ [h.marker.text])) := by
  have hw := hqueries.isWritable_under_letter
  have hlist : trim h.queryList = h.queryList := hw.trim_queryList
  obtain ⟨hclient, hnot⟩ := cut_eq_some_iff.mp hcut
  have hne : h.text ≠ "" := by
    simp [text]
  rw [parse, hqueries.trim_text]
  simp only [hne, if_false, hqueries.splitOn_text]
  rw [hclient, splitOn_append, splitOn_of_notMem hnot]
  simp [hlist, trim_name, h.marker.trim_text]

/-- A header with a comma in the name of its client is read under what stands before the comma. -/
theorem CanName.client_of_comma (hqueries : CanName h.entity h.queries)
    (hcut : cut ',' h.client.text = Option.some (before, after)) (hparse : parse h.text = .ok h') :
    h'.queries = h.queries ∧ h'.entity = h.entity ∧ h'.client = ⟨trim before⟩ := by
  have hlist : queriesOf h.entity h.queryList = h.queries :=
    hqueries.isWritable_under_letter.queriesOf_queryList
  rw [hqueries.parse_of_comma hcut] at hparse
  obtain ⟨queries, entity, client, rest, hfields, -, hentity, -, hread, -, hid⟩ :=
    ofFields_eq_ok hparse
  simp only [List.cons.injEq] at hfields
  obtain ⟨hfirst, rfl, rfl, -⟩ := hfields
  rw [Entity.parse_name] at hentity
  have hkind : h.entity = h'.entity := Except.ok.inj hentity
  rw [← hkind, ← hfirst, hlist] at hread
  exact ⟨hread, hkind.symm, hid⟩

/-- The end of a stream is taken for the end of that other client's stream. -/
theorem CanName.parse_end_of_comma (hqueries : CanName h.entity h.queries)
    (hcut : cut ',' h.client.text = Option.some (before, after)) (hend : h.marker = .endOfStream)
    (hne : trim before ≠ "") : parse h.text = .ok { h with client := ⟨trim before⟩ } := by
  have hlist : queriesOf h.entity h.queryList = h.queries :=
    hqueries.isWritable_under_letter.queriesOf_queryList
  have hname : h.entity.name ≠ "" := by cases h.entity <;> decide
  have hmarker : ∀ fields : List String,
      markerOf (fields ++ [Marker.endOfStream.text]) = .ok .endOfStream := by
    intro fields
    cases fields with
    | nil => rfl
    | cons field rest =>
        have hlast : (field :: (rest ++ [Marker.endOfStream.text])).getLast? =
            Option.some endWord := by
          rw [← List.cons_append, List.getLast?_concat]
          rfl
        rw [List.cons_append, markerOf, if_pos hlast]
  rw [hqueries.parse_of_comma hcut]
  simp [ofFields, hname, Entity.parse_name, hne, hmarker, hlist, hqueries.some, hend]

theorem ne_of_comma {client : ClientId} (hcut : cut ',' client.text = Option.some (before, after)) :
    (⟨trim before⟩ : ClientId) ≠ client := by
  obtain ⟨hclient, hnot⟩ := cut_eq_some_iff.mp hcut
  rintro rfl
  apply hnot
  apply trim_subset before
  rw [show trim before = before ++ String.singleton ',' ++ after from hclient]
  simp

end Header

namespace Batch

variable {h : Header}

/-- The header of a frame is what its first line is read as. -/
theorem parse_encode_eq_ok_iff (hbreak : '\n' ∉ h.text.toList) (records : List String)
    {h' : Header} :
    (∃ batch, parse (encode h records) = .ok batch ∧ batch.header = h') ↔
      Header.parse h.text = .ok h' := by
  simp only [parse, cut_encode hbreak, Success.bind_eq_ok, Success.pure_eq_ok]
  constructor
  · rintro ⟨_, ⟨found, hfound, rfl⟩, rfl⟩
    exact hfound
  · intro hparse
    exact ⟨_, ⟨h', hparse, rfl⟩, rfl⟩

end Batch

/-! ## The names in messages -/

namespace Session

variable {r : Router} {s : SessionSummary} {payload : String} {log : List (Exchange Ingest)}
  {result : Except SessionError SessionSummary}

theorem parse_of_notice {h : Header} (hcontent : content payload = .notice h) :
    ∃ batch, Batch.parse payload = .ok batch ∧ batch.header = h := by
  rw [content] at hcontent
  cases hparse : Batch.parse payload with
  | error e =>
      rw [hparse] at hcontent
      cases hcontent
  | ok batch =>
      simp only [hparse] at hcontent
      cases hmarker : batch.header.marker with
      | batch id =>
          simp only [hmarker] at hcontent
          cases hcontent
      | endOfStream =>
          simp only [hmarker] at hcontent
          exact ⟨batch, rfl, Content.notice.inj hcontent⟩

/-- Every message that is published for a frame carries the name in the frame's header. -/
theorem client_of_publish (hrun : (handle r s payload).Run log result) {attempt : Attempt}
    (hmem : .publish attempt ∈ trace log) :
    ∃ batch, Batch.parse payload = .ok batch ∧
      attempt.message.header? MessageHeader.client.name = some batch.header.client.text := by
  obtain ⟨b, rfl, hfits, htrace, -⟩ := run_handle hrun
  have hattempt : attempt ∈ b.attempts := by
    rw [htrace, Block.events, List.mem_append] at hmem
    rcases hmem with hmem | hmem
    · obtain ⟨attempt', hattempt', heq⟩ := List.mem_map.mp hmem
      cases heq
      exact hattempt'
    · obtain ⟨reply, -, heq⟩ := List.mem_map.mp hmem
      cases heq
  cases hfits with
  | rejected e _ hnone _ _ =>
      rw [hnone] at hattempt
      cases hattempt
  | batch batch id hcontent hoffers _ _ =>
      refine ⟨batch, parse_of_content hcontent, ?_⟩
      have hoffer : attempt.offer ∈ batch.header.queries.filterMap (r.offer? batch id) := by
        rw [← hoffers]
        exact List.mem_map_of_mem hattempt
      obtain ⟨query, -, hquery⟩ := List.mem_filterMap.mp hoffer
      obtain ⟨queue, -, hpair⟩ := Option.map_eq_some_iff.mp hquery
      have hmessage : attempt.message = Router.batchMessage query (batch, id) :=
        (Prod.mk.inj hpair).2.symm
      rw [hmessage]
      exact Message.client_batch _ _ _ _ _
  | notice h hcontent _ hannounces _ =>
      obtain ⟨batch, hparse, rfl⟩ := parse_of_notice hcontent
      refine ⟨batch, hparse, ?_⟩
      obtain ⟨rows, hrows, htells⟩ := hannounces.courses
      rw [hrows] at hattempt
      obtain ⟨row, hrow, hmem⟩ := List.mem_flatten.mp hattempt
      obtain ⟨i, hi, rfl⟩ := List.mem_iff_getElem.mp hrow
      obtain ⟨rounds, -, htries⟩ := htells.get (htells.length_eq ▸ hi) hi
      rw [List.get_eq_getElem] at htries
      rw [htries] at hmem
      obtain ⟨accepted, -, rfl⟩ := List.mem_map.mp hmem
      exact Message.client_endOfStream _ _ _
  | brokenOff h _ _ hnone _ _ =>
      rw [hnone] at hattempt
      cases hattempt

end Session

/-! ## One name on both sides -/

/-- A frame is read as its producer meant it. -/
def Batch.Carries (frame : String) (h : Header) : Prop :=
  ∃ batch, Batch.parse frame = .ok batch ∧ batch.header = h

/-- Everything that is published for a frame is tagged with this client. -/
def Session.PublishesAs (frame : String) (client : ClientId) : Prop :=
  ∀ (r : Router) (s : SessionSummary) (log : List (Exchange Ingest))
    (result : Except SessionError SessionSummary), (Session.handle r s frame).Run log result →
    ∀ attempt, .publish attempt ∈ trace log →
      attempt.message.header? MessageHeader.client.name = some client.text

/-- What becomes of a frame whose client has a comma in its name: it is taken for a frame of
another client, which `name` is. -/
structure Batch.Misread (frame : String) (h : Header) (name : ClientId) : Prop where
  other : name ≠ h.client
  read : ∀ batch, Batch.parse frame = .ok batch →
    batch.header.queries = h.queries ∧ batch.header.entity = h.entity ∧ batch.header.client = name
  published : Session.PublishesAs frame name
  ended : h.marker = .endOfStream → name.text ≠ "" → Batch.Carries frame { h with client := name }

/-- The frames of a client are read as they were meant exactly if the name that it has announced
holds no comma. Then what they carry is published under this name, and else under another one. -/
theorem identity_kept_iff {payload : String} {a : Announcement}
    (hannounced : Announcement.parse? payload = some a)
    {p : Producer} (hclient : p.client = a.client)
    {queries : List QueryId} (hqueries : Header.CanName p.entity queries) (marker : Marker)
    (records : List String) :
    let h := p.header queries marker
    let frame := Batch.encode h records
    (Batch.Carries frame h ↔ ',' ∉ a.client.text.toList) ∧
      (',' ∉ a.client.text.toList → Session.PublishesAs frame a.client) ∧
      ∀ before after, cut ',' a.client.text = some (before, after) →
        Batch.Misread frame h ⟨trim before⟩ := by
  intro h frame
  have hclean := Announcement.isClean hannounced
  rw [← hclient] at hclean ⊢
  have hbreak : '\n' ∉ h.text.toList := Header.CanName.noBreak_text (h := h) hqueries hclean.oneLine
  have hread : ∀ h', Batch.Carries frame h' ↔ Header.parse h.text = .ok h' := fun h' =>
    Batch.parse_encode_eq_ok_iff hbreak records
  have hkept : ',' ∉ p.client.text.toList → Batch.Carries frame h := by
    intro hcomma
    have hname : Header.IsName h.client.text :=
      ⟨hclean.ne_empty, hclean.trimmed, hcomma, hclean.oneLine⟩
    exact (hread h).mpr (Header.CanName.isWritable (h := h) hqueries hname).parse_text
  have hmisread : ∀ before after, cut ',' p.client.text = some (before, after) →
      Batch.Misread frame h ⟨trim before⟩ := by
    intro before after hcut
    have hfound : ∀ batch, Batch.parse frame = .ok batch → batch.header.queries = h.queries ∧
        batch.header.entity = h.entity ∧ batch.header.client = ⟨trim before⟩ := by
      intro batch hparse
      exact Header.CanName.client_of_comma (h := h) hqueries hcut
        ((hread batch.header).mp ⟨batch, hparse, rfl⟩)
    refine ⟨Header.ne_of_comma hcut, hfound, ?_, ?_⟩
    · intro r s log result hrun attempt hmem
      obtain ⟨batch, hparse, hname⟩ := Session.client_of_publish hrun hmem
      rw [hname, (hfound batch hparse).2.2]
    · intro hend hne
      exact (hread _).mpr (Header.CanName.parse_end_of_comma (h := h) hqueries hcut hend hne)
  refine ⟨⟨?_, hkept⟩, ?_, hmisread⟩
  · rintro ⟨batch, hparse, hheader⟩ hcomma
    cases hcut : cut ',' p.client.text with
    | none => exact cut_eq_none_iff.mp hcut hcomma
    | some parts =>
        have hother := hmisread parts.1 parts.2 hcut
        apply hother.other
        rw [← (hother.read batch hparse).2.2, hheader]
  · intro hcomma r s log result hrun attempt hmem
    obtain ⟨batch, hparse, hname⟩ := Session.client_of_publish hrun hmem
    obtain ⟨batch', hparse', hheader⟩ := hkept hcomma
    rw [hparse] at hparse'
    rw [hname, Except.ok.inj hparse', hheader]
    rfl

/-- A name with blanks and bars in it is the same on both sides. -/
theorem identity_kept_of_bar :
    Announcement.parse? " CLIENT_ID , a|b c \r\n" = some ⟨⟨"a|b c"⟩⟩ ∧
      Batch.Carries (Batch.encode ⟨[⟨"q"⟩, ⟨"q 2"⟩], .movies, ⟨"a|b c"⟩, .batch 7⟩ ["r"])
        ⟨[⟨"q"⟩, ⟨"q 2"⟩], .movies, ⟨"a|b c"⟩, .batch 7⟩ := by
  have hannounced : Announcement.parse? " CLIENT_ID , a|b c \r\n" = some ⟨⟨"a|b c"⟩⟩ := by
    decide +kernel
  have hqueries : Header.CanName .movies [⟨"q"⟩, ⟨"q 2"⟩] :=
    ⟨by decide, by decide, by decide, by decide, by decide⟩
  have hlaw := identity_kept_iff hannounced (p := .new .movies ⟨"a|b c"⟩) rfl hqueries (.batch 7) ["r"]
  exact ⟨hannounced, hlaw.1.mpr (by decide)⟩

/-- The first batch of the client `a,0` is read as the first batch of the client `a`, and answered
by the acknowledgement that is expected. -/
theorem identity_lost_of_comma :
    Announcement.parse? "CLIENT_ID,a,0" = some ⟨⟨"a,0"⟩⟩ ∧ Header.CanName .movies [⟨"q"⟩] ∧
      Header.parse (Header.text ⟨[⟨"q"⟩], .movies, ⟨"a,0"⟩, .batch 0⟩) =
        .ok ⟨[⟨"q"⟩], .movies, ⟨"a"⟩, .batch 0⟩ ∧
      Ack.ofHeader ⟨[⟨"q"⟩], .movies, ⟨"a"⟩, .batch 0⟩ =
        Ack.ofHeader ⟨[⟨"q"⟩], .movies, ⟨"a,0"⟩, .batch 0⟩ := by
  refine ⟨by decide +kernel, ⟨by decide, by decide, by decide, by decide, by decide⟩, ?_, rfl⟩
  decide +kernel

end QueryGateway
