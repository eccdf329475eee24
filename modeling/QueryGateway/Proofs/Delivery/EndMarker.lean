import Mathlib.Data.List.Basic
import QueryGateway.Proofs.Client.Draining
import QueryGateway.Proofs.Delivery.FanIn
import QueryGateway.Proofs.Wire.ResultFrame

/-! # What a client takes for the end of a query

The gateway knows the end of a query by the headers of messages, the client by the text of frames.
The two agree on every run in which no rows that say `EOF` reach the client. Such rows end the query
for the client at once, however many workers are still at it.
-/

namespace QueryGateway

/-- The next read of a receiver takes this payload and returns it as this frame. -/
def Receiver.Takes (r : Receiver) (payload : String) (frame : ResultFrame) : Prop :=
  ∃ log r', r.next.Run (⟨.read, (.ok payload : Except WireError String)⟩ :: log)
    (.ok (some frame), r')

theorem Receiver.takes_iff {r : Receiver} {payload : String} {frame : ResultFrame} :
    r.Takes payload frame ↔ r.awaiting ≠ [] ∧ ResultFrame.parse? payload = some frame := by
  constructor
  · rintro ⟨log, r', hrun⟩
    cases run_next_iff.mp hrun with
    | taken hawaiting hparse => exact ⟨hawaiting, hparse⟩
  · rintro ⟨hawaiting, hparse⟩
    exact ⟨_, _, run_next_iff.mpr (.taken hawaiting hparse)⟩

/-! ## Runs without a premature end -/

/-- The client takes a frame that was written on its connection in a turn for the end of a
query. -/
def Turn.SeenAsEnd (query : QueryId) (handle : Handle) (t : Turn) : Prop :=
  ∃ write ∈ t.writes, write.handle = handle ∧ write.accepted = true ∧
    ∃ r : Receiver, r.Takes write.payload ⟨query, .endOfStream⟩

/-- The client sees the end of a query only in turns on messages that end it, and between two of
these turns, or before the first one, a multiple of the awaited messages was handled. -/
def NoPrematureEnd (c : Consumer) (client : ClientId) (query : QueryId) (handle : Handle)
    (turns : List Turn) : Prop :=
  ∀ earlier since t later, turns = earlier ++ since ++ t :: later →
    t.SeenAsEnd query handle →
    (∀ last ∈ earlier.getLast?, last.SeenAsEnd query handle) →
      t.message.resultMeta = .ok ⟨client, query, .endOfStream⟩ ∧
        c.multiplicity.resultCount query ∣
          endsIn client query ((since ++ [t]).map Turn.message)

/-- A message carries rows of a query that say `EOF`. -/
def Message.SaysEnd (query : QueryId) (m : Message) : Prop :=
  ∃ client rows, m.resultMeta = .ok ⟨client, query, .rows⟩ ∧ m.bodyText = .ok rows ∧
    Text.trim rows = endWord

section

variable {query : QueryId} {client : ClientId}

theorem Message.saysEnd_result_iff (hquery : query.text ≠ "") (hclient : client.text ≠ "")
    {rows : String} :
    (result query client (.ofText rows)).SaysEnd query ↔ Text.trim rows = endWord := by
  constructor
  · rintro ⟨_, rows', -, hbody, htrim⟩
    rw [bodyText_result] at hbody
    cases hbody
    exact htrim
  · intro htrim
    exact ⟨client, rows, resultMeta_result hquery hclient _, bodyText_result rows, htrim⟩

theorem Message.not_saysEnd_resultEnd (hquery : query.text ≠ "") (hclient : client.text ≠ "") :
    ¬(resultEnd query client).SaysEnd query := by
  rintro ⟨_, rows, hmeta, -⟩
  rw [resultMeta_resultEnd hquery hclient] at hmeta
  cases hmeta

end

variable {c : Consumer} {w : World Outlet} {s : Dispatch} {m : Message} {ms : List Message}
  {query : QueryId} {handle : Handle}

/-- Rows that say `EOF` are seen as the end as soon as they reach the client. -/
theorem seenAsEnd_of_saysEnd (hclean : query.IsClean) (h : m.SaysEnd query)
    {write : Outlet.Write} (hwrite : write ∈ (c.turn w s m).1.writes)
    (haccepted : write.accepted = true) : (c.turn w s m).1.SeenAsEnd query write.handle := by
  obtain ⟨client, rows, hmeta, hbody, htrim⟩ := h
  obtain ⟨-, hpassage⟩ := Consumer.turn_of_frame (w := w) (Consumer.frameOf_rows hmeta hbody)
  obtain ⟨-, hpayload⟩ := hpassage.mem_writes hwrite
  refine ⟨write, hwrite, rfl, haccepted, ⟨[query]⟩, Receiver.takes_iff.mpr ⟨by simp, ?_⟩⟩
  rw [hpayload]
  exact (ResultFrame.parse?_text_eq_end_iff hclean).mpr ⟨rfl, .inr ⟨rows, rfl, htrim⟩⟩

/-- What is seen as the end of a query is the last message of a round, or it says `EOF`. -/
theorem SeenAsEnd.cases (hpos : ∀ query, 1 ≤ c.multiplicity.resultCount query)
    (hafter : c.CountsAfter ms s.counts)
    (hclean : ∀ info, m.resultMeta = .ok info → info.query.IsClean)
    (h : (c.turn w s m).1.SeenAsEnd query handle) :
    (∃ client, w.registered s.past client = some handle ∧
      m.resultMeta = .ok ⟨client, query, .endOfStream⟩ ∧
      c.multiplicity.resultCount query ∣ endsIn client query ms + 1) ∨ m.SaysEnd query := by
  obtain ⟨write, hwrite, rfl, -, r, htakes⟩ := h
  obtain ⟨-, hparse⟩ := Receiver.takes_iff.mp htakes
  cases m.content with
  | malformed e hmeta =>
      rw [Consumer.turn_of_error (Consumer.frameOf_malformed hmeta)] at hwrite
      cases hwrite
  | badRows client query' e hmeta hbody =>
      rw [Consumer.turn_of_error (Consumer.frameOf_badRows hmeta hbody)] at hwrite
      cases hwrite
  | rows client query' rows hmeta hbody =>
      obtain ⟨-, hpassage⟩ := Consumer.turn_of_frame (w := w) (Consumer.frameOf_rows hmeta hbody)
      obtain ⟨-, hpayload⟩ := hpassage.mem_writes hwrite
      rw [hpayload, ResultFrame.parse?_text_eq_end_iff (hclean _ hmeta)] at hparse
      obtain ⟨rfl, hend | ⟨rows', hrows, htrim⟩⟩ := hparse
      · cases hend
      · cases hrows
        exact Or.inr ⟨client, rows, hmeta, hbody, htrim⟩
  | ends client query' hmeta =>
      have hframe := Consumer.frameOf_end_of_awaited (hpos query') (hafter client query') hmeta
      by_cases hdvd : c.multiplicity.resultCount query' ∣ endsIn client query' ms + 1
      · rw [if_pos hdvd] at hframe
        obtain ⟨-, hpassage⟩ := Consumer.turn_of_frame (w := w) (Prod.ext hframe rfl)
        obtain ⟨hfound, hpayload⟩ := hpassage.mem_writes hwrite
        rw [hpayload, ResultFrame.parse?_text_eq_end_iff (hclean _ hmeta)] at hparse
        obtain ⟨rfl, -⟩ := hparse
        exact Or.inl ⟨client, hfound, hmeta, hdvd⟩
      · rw [if_neg hdvd] at hframe
        rw [Consumer.turn_of_error (Prod.ext hframe rfl)] at hwrite
        cases hwrite

theorem endsIn_append (client : ClientId) (query : QueryId) (first second : List Message) :
    endsIn client query (first ++ second) =
      endsIn client query first + endsIn client query second := by
  rw [endsIn, endsIn, endsIn, List.countP_append]

/-- In a run in which no rows that say `EOF` reach a client, it sees the end of a query only when a
round is complete. -/
private theorem dvd_of_seenAsEnd (hpos : ∀ query, 1 ≤ c.multiplicity.resultCount query)
    (hfresh : s.counts = .empty)
    (hclean : ∀ m ∈ ms, ∀ info, m.resultMeta = .ok info → info.query.IsClean)
    {client : ClientId}
    (hown : ∀ past client', w.registered past client' = some handle → client' = client)
    (hrows : ∀ t ∈ (c.turns w ms s).1, t.message.SaysEnd query →
      ∀ write ∈ t.writes, write.handle = handle → write.accepted = false)
    {before after : List Turn} {t : Turn} (hturns : (c.turns w ms s).1 = before ++ t :: after)
    (hseen : t.SeenAsEnd query handle) :
    t.message.resultMeta = .ok ⟨client, query, .endOfStream⟩ ∧
      c.multiplicity.resultCount query ∣
        endsIn client query ((before ++ [t]).map Turn.message) := by
  have hmem : t ∈ (c.turns w ms s).1 := by simp [hturns]
  have hmessage : t.message ∈ ms := Consumer.message_mem_of_mem_turns hmem
  have hturn := Consumer.turn_of_mem_turns hturns
  have hafter : c.CountsAfter (before.map Turn.message)
      (c.turns w (before.map Turn.message) s).2.counts :=
    Consumer.countsAfter_turns hpos hfresh
  rw [hturn] at hseen
  rcases SeenAsEnd.cases hpos hafter (hclean _ hmessage) hseen with
    ⟨client', hfound, hmeta, hdvd⟩ | hsays
  · obtain rfl := hown _ _ hfound
    refine ⟨hmeta, ?_⟩
    rw [List.map_append, List.map_singleton, endsIn_append_singleton,
      if_pos (Message.ends_iff.mpr hmeta)]
    exact hdvd
  · obtain ⟨write, hwrite, hhandle, haccepted, -⟩ := hseen
    rw [← hturn] at hwrite
    have hrefused := hrows t hmem hsays write hwrite hhandle
    rw [haccepted] at hrefused
    cases hrefused

/-- A client sees no premature end on its connection exactly if no rows of the query that say `EOF`
reach it there. -/
theorem noPrematureEnd_iff {ingest : Table RouteKey Nat} {results : Table QueryId Nat}
    (hcounts : Multiplicity.ofCounts ingest results = .ok c.multiplicity) (w : World Outlet)
    (owed : Debts) (past : List (Exchange Outlet))
    (hclean : ∀ m ∈ ms, ∀ info, m.resultMeta = .ok info → info.query.IsClean)
    {client : ClientId}
    (hown : ∀ past client', w.registered past client' = some handle → client' = client)
    (query : QueryId) :
    NoPrematureEnd c client query handle (c.turns w ms ⟨.empty, owed, past⟩).1 ↔
      ∀ t ∈ (c.turns w ms ⟨.empty, owed, past⟩).1, t.message.SaysEnd query →
        ∀ write ∈ t.writes, write.handle = handle → write.accepted = false := by
  have hpos : ∀ query, 1 ≤ c.multiplicity.resultCount query :=
    Multiplicity.resultCount_pos hcounts
  constructor
  · rintro hnone t hmem hsays write hwrite rfl
    by_contra haccepted
    obtain ⟨before, after, hturns⟩ := List.append_of_mem hmem
    have ⟨client', rows, hmeta, _⟩ := hsays
    have hmessage : t.message ∈ ms := Consumer.message_mem_of_mem_turns hmem
    have hseen : t.SeenAsEnd query write.handle := by
      rw [Consumer.turn_of_mem_turns hturns] at hwrite ⊢
      exact seenAsEnd_of_saysEnd (hclean _ hmessage _ hmeta) hsays hwrite (by simpa using haccepted)
    obtain ⟨hend, -⟩ := hnone [] before t after hturns hseen (by simp)
    rw [hmeta] at hend
    cases hend
  · intro hrows earlier since t later hturns hseen hlast
    obtain ⟨hend, htotal⟩ :=
      dvd_of_seenAsEnd hpos rfl hclean hown hrows hturns hseen
    refine ⟨hend, ?_⟩
    have hearlier : c.multiplicity.resultCount query ∣
        endsIn client query (earlier.map Turn.message) := by
      rcases List.eq_nil_or_concat' earlier with rfl | ⟨front, last, rfl⟩
      · exact Nat.dvd_zero _
      · have hsplit : (c.turns w ms ⟨.empty, owed, past⟩).1 =
            front ++ last :: (since ++ t :: later) := by simp [hturns]
        exact (dvd_of_seenAsEnd hpos rfl hclean hown hrows hsplit (hlast last (by simp))).2
    rw [List.append_assoc, List.map_append, endsIn_append] at htotal
    exact (Nat.dvd_add_right hearlier).mp htotal

theorem World.registered_attentive {client client' : ClientId} {handle handle' : Handle}
    {past : List (Exchange Outlet)}
    (h : (World.attentive client handle).registered past client' = some handle') :
    client' = client := by
  by_contra hne
  simp [World.registered, World.attentive, hne] at h

/-- Rows that do not say `EOF` do not end a query. -/
theorem noPrematureEnd_of_plain_rows :
    let c : Consumer := ⟨⟨.empty, .ofList [(⟨"Q"⟩, 1)]⟩, 1000⟩
    let ms := [.result ⟨"Q"⟩ ⟨"one"⟩ (.ofText "row"), .resultEnd ⟨"Q"⟩ ⟨"one"⟩]
    Multiplicity.ofCounts .empty (.ofList [(⟨"Q"⟩, 1)]) = .ok c.multiplicity ∧
      (∀ m ∈ ms, ∀ info, m.resultMeta = .ok info → info.query.IsClean) ∧
      NoPrematureEnd c ⟨"one"⟩ ⟨"Q"⟩ ⟨7⟩
        (c.turns (.attentive ⟨"one"⟩ ⟨7⟩) ms ⟨.empty, fun _ => 0, []⟩).1 := by
  intro c ms
  have hcounts : Multiplicity.ofCounts .empty (.ofList [(⟨"Q"⟩, 1)]) = .ok c.multiplicity := rfl
  have hquery : (⟨"Q"⟩ : QueryId).IsClean := ⟨by decide, rfl, by decide⟩
  have hclient : (⟨"one"⟩ : ClientId).text ≠ "" := by decide
  have hclean : ∀ m ∈ ms, ∀ info, m.resultMeta = .ok info → info.query.IsClean := by
    intro m hm info hmeta
    have hinfo : info.query = ⟨"Q"⟩ := by
      rcases List.mem_pair.mp hm with rfl | rfl
      · rw [Message.resultMeta_result hquery.ne_empty hclient] at hmeta
        cases hmeta
        rfl
      · rw [Message.resultMeta_resultEnd hquery.ne_empty hclient] at hmeta
        cases hmeta
        rfl
    rw [hinfo]
    exact hquery
  refine ⟨hcounts, hclean, ?_⟩
  apply (noPrematureEnd_iff hcounts _ _ _ hclean (fun _ _ => World.registered_attentive) ⟨"Q"⟩).mpr
  intro t ht hsays
  rcases List.mem_pair.mp (Consumer.message_mem_of_mem_turns ht) with hm | hm
  · rw [hm, Message.saysEnd_result_iff hquery.ne_empty hclient] at hsays
    exact absurd hsays (by decide)
  · rw [hm] at hsays
    exact absurd hsays (Message.not_saysEnd_resultEnd hquery.ne_empty hclient)

/-- Rows that say `EOF` end a query for the client before any of its two workers has ended it. -/
theorem prematureEnd_of_rows :
    let c : Consumer := ⟨⟨.empty, .ofList [(⟨"Q"⟩, 2)]⟩, 1000⟩
    let ms := [.result ⟨"Q"⟩ ⟨"one"⟩ (.ofText "EOF")]
    Multiplicity.ofCounts .empty (.ofList [(⟨"Q"⟩, 2)]) = .ok c.multiplicity ∧
      (∀ m ∈ ms, ∀ info, m.resultMeta = .ok info → info.query.IsClean) ∧
      ¬NoPrematureEnd c ⟨"one"⟩ ⟨"Q"⟩ ⟨7⟩
        (c.turns (.attentive ⟨"one"⟩ ⟨7⟩) ms ⟨.empty, fun _ => 0, []⟩).1 := by
  intro c ms
  have hquery : (⟨"Q"⟩ : QueryId).IsClean := ⟨by decide, rfl, by decide⟩
  have hclient : (⟨"one"⟩ : ClientId).text ≠ "" := by decide
  have hmeta := Message.resultMeta_result hquery.ne_empty hclient (.ofText "EOF")
  refine ⟨rfl, ?_, ?_⟩
  · intro m hm info hinfo
    obtain rfl := List.mem_singleton.mp hm
    rw [hmeta] at hinfo
    cases hinfo
    exact hquery
  · intro hnone
    have hsays : (Message.result ⟨"Q"⟩ ⟨"one"⟩ (.ofText "EOF")).SaysEnd ⟨"Q"⟩ :=
      (Message.saysEnd_result_iff hquery.ne_empty hclient).mpr rfl
    have hwrite : (⟨⟨7⟩, "Q\nEOF", true⟩ : Outlet.Write) ∈ (c.turn (.attentive ⟨"one"⟩ ⟨7⟩)
        ⟨.empty, fun _ => 0, []⟩ (.result ⟨"Q"⟩ ⟨"one"⟩ (.ofText "EOF"))).1.writes :=
      List.mem_singleton.mpr rfl
    have hseen := seenAsEnd_of_saysEnd hquery hsays hwrite rfl
    have hend : (Message.result ⟨"Q"⟩ ⟨"one"⟩ (.ofText "EOF")).resultMeta =
        .ok ⟨⟨"one"⟩, ⟨"Q"⟩, .endOfStream⟩ := (hnone [] [] _ [] rfl hseen (by simp)).1
    rw [hmeta] at hend
    cases hend

end QueryGateway
