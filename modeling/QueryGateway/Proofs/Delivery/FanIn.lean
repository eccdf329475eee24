import QueryGateway.Proofs.Delivery.Turns
import QueryGateway.Proofs.Queue.Headers
import QueryGateway.Proofs.Routing.Lookup

/-! # Counting the ends of every query at once

Ends come in rounds: of the messages that end a query for a client, every `n`-th one is passed on,
where `n` is the count of the query. The table of counts is a function of what was handled before,
for all clients and queries at once, and deliveries have no part in it.
-/

namespace QueryGateway

/-! ## Rounds -/

/-- How many messages are missing from a round of `n` after `k` messages, if it has begun. -/
def awaited (n k : Nat) : Option Nat :=
  if n ∣ k then none else some (n - k % n)

theorem succ_mod_of_not_dvd {n k : Nat} (h : ¬n ∣ k + 1) : (k + 1) % n = k % n + 1 := by
  rcases Nat.eq_zero_or_pos n with rfl | hn
  · simp
  · have hlt : k % n < n := Nat.mod_lt k hn
    have hmod : (k % n + 1) % n = (k + 1) % n := Nat.mod_add_mod k n 1
    have hne : k % n + 1 ≠ n := by
      intro heq
      rw [heq, Nat.mod_self] at hmod
      exact h (Nat.dvd_of_mod_eq_zero hmod.symm)
    rw [← hmod]
    exact Nat.mod_eq_of_lt (by omega)

/-- One more message leaves one less to wait for. -/
theorem getD_awaited {n k : Nat} (hn : 1 ≤ n) :
    (awaited n k).getD n - 1 = if n ∣ k + 1 then 0 else n - (k + 1) % n := by
  have hlt : k % n < n := Nat.mod_lt k hn
  have hget : (awaited n k).getD n = n - k % n := by
    by_cases hdvd : n ∣ k
    · simp [awaited, hdvd, Nat.mod_eq_zero_of_dvd hdvd]
    · simp [awaited, hdvd]
  rw [hget]
  by_cases hdvd : n ∣ k + 1
  · have hmod : (k % n + 1) % n = 0 := by
      rw [Nat.mod_add_mod]
      exact Nat.mod_eq_zero_of_dvd hdvd
    have hge : n ≤ k % n + 1 := Nat.le_of_dvd (by omega) (Nat.dvd_of_mod_eq_zero hmod)
    rw [if_pos hdvd]
    omega
  · rw [if_neg hdvd, succ_mod_of_not_dvd hdvd]
    omega

/-! ## The table of counts -/

namespace Countdown

variable {c : Countdown} {client client' : ClientId} {query query' : QueryId} {n k : Nat}

@[simp] theorem remaining?_empty : empty.remaining? client query = none := rfl

theorem observe_of_awaited (hn : 1 ≤ n) (h : c.remaining? client query = awaited n k) :
    (c.observe client query n).1 =
      if n ∣ k + 1 then .complete else .pending (n - (k + 1) % n) := by
  have hleft := getD_awaited (k := k) hn
  rw [← h, remaining?] at hleft
  by_cases hdvd : n ∣ k + 1
  · rw [if_pos hdvd] at hleft ⊢
    simp [observe, hleft]
  · have hlt : (k + 1) % n < n := Nat.mod_lt _ hn
    have hne : n - (k + 1) % n ≠ 0 := by omega
    rw [if_neg hdvd] at hleft ⊢
    simp [observe, hleft, hne]

theorem remaining?_observe_self (hn : 1 ≤ n) (h : c.remaining? client query = awaited n k) :
    (c.observe client query n).2.remaining? client query = awaited n (k + 1) := by
  have hleft := getD_awaited (k := k) hn
  rw [← h, remaining?] at hleft
  by_cases hdvd : n ∣ k + 1
  · rw [if_pos hdvd] at hleft
    simp [observe, hleft, remaining?, awaited, hdvd]
  · have hlt : (k + 1) % n < n := Nat.mod_lt _ hn
    have hne : n - (k + 1) % n ≠ 0 := by omega
    rw [if_neg hdvd] at hleft
    simp [observe, hleft, hne, remaining?, awaited, hdvd]

theorem remaining?_observe_of_ne (h : (client, query) ≠ (client', query')) :
    (c.observe client query n).2.remaining? client' query' = c.remaining? client' query' := by
  by_cases hzero : (c.counts.get? (client, query)).getD n - 1 = 0
  · simp only [observe, hzero, if_true, remaining?, Table.get?_erase, h, if_false]
  · simp only [observe, hzero, if_false, remaining?, Table.get?_insert, h]

end Countdown

/-- A message is one of those that end a query for a client. -/
def Message.ends (client : ClientId) (query : QueryId) (m : Message) : Bool :=
  match m.resultMeta with
  | .ok info => info = ⟨client, query, .endOfStream⟩
  | .error _ => false

theorem Message.ends_iff {client : ClientId} {query : QueryId} {m : Message} :
    m.ends client query = true ↔ m.resultMeta = .ok ⟨client, query, .endOfStream⟩ := by
  rw [ends]
  cases m.resultMeta with
  | error e => simp
  | ok info => simp

/-- How many of some messages end a query for a client. -/
def endsIn (client : ClientId) (query : QueryId) (ms : List Message) : Nat :=
  ms.countP (Message.ends client query)

theorem endsIn_append_singleton (client : ClientId) (query : QueryId) (ms : List Message)
    (m : Message) :
    endsIn client query (ms ++ [m]) =
      endsIn client query ms + if m.ends client query then 1 else 0 := by
  rw [endsIn, endsIn, List.countP_append, List.countP_singleton]

/-- The counts are those after some messages. -/
def Consumer.CountsAfter (c : Consumer) (ms : List Message) (counts : Countdown) : Prop :=
  ∀ client query, counts.remaining? client query =
    awaited (c.multiplicity.resultCount query) (endsIn client query ms)

/-! ## One message -/

namespace Consumer

variable {c : Consumer} {counts : Countdown} {m : Message} {client : ClientId} {query : QueryId}
  {ms : List Message}

theorem frameOf_malformed {e : MessageError} (h : m.resultMeta = .error e) :
    c.frameOf counts m = (.error (.malformed e), counts) := by
  rw [frameOf, h]

theorem frameOf_rows {rows : String} (h : m.resultMeta = .ok ⟨client, query, .rows⟩)
    (hbody : m.bodyText = .ok rows) :
    c.frameOf counts m = (.ok (client, ⟨query, .rows rows⟩), counts) := by
  rw [frameOf, h]
  simp only [hbody]

theorem frameOf_badRows {e : MessageError} (h : m.resultMeta = .ok ⟨client, query, .rows⟩)
    (hbody : m.bodyText = .error e) : c.frameOf counts m = (.error (.malformed e), counts) := by
  rw [frameOf, h]
  simp only [hbody]

theorem frameOf_end (h : m.resultMeta = .ok ⟨client, query, .endOfStream⟩) :
    c.frameOf counts m =
      let (step, counts) := counts.observe client query (c.multiplicity.resultCount query)
      (match step with
        | .pending remaining => .error (.awaiting remaining)
        | .complete => .ok (client, ⟨query, .endOfStream⟩), counts) := by
  rw [frameOf, h]
  simp only
  split <;> simp_all

/-- An end is passed on if it completes a round. -/
theorem frameOf_end_of_awaited {k : Nat} (hpos : 1 ≤ c.multiplicity.resultCount query)
    (hcount : counts.remaining? client query = awaited (c.multiplicity.resultCount query) k)
    (h : m.resultMeta = .ok ⟨client, query, .endOfStream⟩) :
    (c.frameOf counts m).1 =
      if c.multiplicity.resultCount query ∣ k + 1 then .ok (client, ⟨query, .endOfStream⟩)
      else .error (.awaiting (c.multiplicity.resultCount query -
        (k + 1) % c.multiplicity.resultCount query)) := by
  have hstep := Countdown.observe_of_awaited hpos hcount
  rw [frameOf_end h]
  by_cases hdvd : c.multiplicity.resultCount query ∣ k + 1
  · rw [if_pos hdvd] at hstep ⊢
    simp only [hstep]
  · rw [if_neg hdvd] at hstep ⊢
    simp only [hstep]

/-- Only a message that ends a query is passed on as its end. -/
theorem ends_of_frameOf (h : (c.frameOf counts m).1 = .ok (client, ⟨query, .endOfStream⟩)) :
    m.ends client query = true := by
  rw [Message.ends_iff]
  cases m.content with
  | malformed e hmeta =>
      rw [frameOf_malformed hmeta] at h
      cases h
  | badRows client' query' e hmeta hbody =>
      rw [frameOf_badRows hmeta hbody] at h
      cases h
  | rows client' query' rows hmeta hbody =>
      rw [frameOf_rows hmeta hbody] at h
      cases h
  | ends client' query' hmeta =>
      rw [frameOf_end hmeta] at h
      cases hstep : (counts.observe client' query' (c.multiplicity.resultCount query')).1 with
      | pending remaining =>
          simp only [hstep] at h
          cases h
      | complete =>
          simp only [hstep] at h
          cases h
          exact hmeta

/-- A message is taken for the last one that was awaited for a client's query. -/
def completes (c : Consumer) (counts : Countdown) (client : ClientId) (query : QueryId)
    (m : Message) : Bool :=
  match (c.frameOf counts m).1 with
  | .ok (client', frame) => client' = client ∧ frame = ⟨query, .endOfStream⟩
  | .error _ => false

theorem completes_iff : c.completes counts client query m = true ↔
    (c.frameOf counts m).1 = .ok (client, ⟨query, .endOfStream⟩) := by
  rw [completes]
  cases (c.frameOf counts m).1 with
  | error outcome => simp
  | ok passed => simp [Prod.ext_iff]

theorem completes_iff_dvd (hpos : 1 ≤ c.multiplicity.resultCount query)
    (h : c.CountsAfter ms counts) :
    c.completes counts client query m = true ↔ m.ends client query = true ∧
      c.multiplicity.resultCount query ∣ endsIn client query ms + 1 := by
  rw [completes_iff]
  constructor
  · intro hframe
    have hends := ends_of_frameOf hframe
    refine ⟨hends, ?_⟩
    by_contra hdvd
    rw [frameOf_end_of_awaited hpos (h client query) (Message.ends_iff.mp hends),
      if_neg hdvd] at hframe
    cases hframe
  · rintro ⟨hends, hdvd⟩
    rw [frameOf_end_of_awaited hpos (h client query) (Message.ends_iff.mp hends), if_pos hdvd]

/-- With every round the message that completes it is handled once. -/
theorem div_endsIn_append (hpos : 1 ≤ c.multiplicity.resultCount query)
    (h : c.CountsAfter ms counts) :
    endsIn client query (ms ++ [m]) / c.multiplicity.resultCount query =
      endsIn client query ms / c.multiplicity.resultCount query +
        if c.completes counts client query m then 1 else 0 := by
  rw [endsIn_append_singleton]
  by_cases hends : m.ends client query = true
  · rw [if_pos hends, Nat.succ_div]
    by_cases hdvd : c.multiplicity.resultCount query ∣ endsIn client query ms + 1
    · rw [if_pos hdvd, if_pos ((completes_iff_dvd hpos h).mpr ⟨hends, hdvd⟩)]
    · have hnot : ¬c.completes counts client query m = true :=
        fun hcompletes => hdvd ((completes_iff_dvd hpos h).mp hcompletes).2
      rw [if_neg hdvd, if_neg hnot]
  · have hnot : ¬c.completes counts client query m = true :=
      fun hcompletes => hends ((completes_iff_dvd hpos h).mp hcompletes).1
    rw [if_neg hends, if_neg hnot]
    rfl

/-- A message that ends no query leaves the counts as they were. -/
theorem counts_frameOf (h : ∀ client query, m.resultMeta ≠ .ok ⟨client, query, .endOfStream⟩) :
    (c.frameOf counts m).2 = counts := by
  cases m.content with
  | malformed e hmeta => rw [frameOf_malformed hmeta]
  | badRows client query e hmeta hbody => rw [frameOf_badRows hmeta hbody]
  | rows client query rows hmeta hbody => rw [frameOf_rows hmeta hbody]
  | ends client query hmeta => exact absurd hmeta (h client query)

/-- A message that ends a query changes the count of that query and client and no other one. -/
theorem countsAfter_frameOf (hpos : ∀ query, 1 ≤ c.multiplicity.resultCount query)
    (h : c.CountsAfter ms counts) : c.CountsAfter (ms ++ [m]) (c.frameOf counts m).2 := by
  intro client query
  rw [endsIn_append_singleton]
  by_cases hsome : ∃ client' query', m.resultMeta = .ok ⟨client', query', .endOfStream⟩
  · obtain ⟨client', query', hmeta⟩ := hsome
    rw [frameOf_end hmeta]
    by_cases hsame : (client', query') = (client, query)
    · cases hsame
      rw [if_pos (Message.ends_iff.mpr hmeta)]
      exact Countdown.remaining?_observe_self (hpos query) (h client query)
    · have hends : ¬m.ends client query = true := by
        rw [Message.ends_iff, hmeta]
        intro heq
        cases heq
        exact hsame rfl
      rw [if_neg hends]
      exact (Countdown.remaining?_observe_of_ne hsame).trans (h client query)
  · have hnone : ∀ client' query', m.resultMeta ≠ .ok ⟨client', query', .endOfStream⟩ :=
      fun client' query' hmeta => hsome ⟨client', query', hmeta⟩
    have hends : ¬m.ends client query = true := by
      rw [Message.ends_iff]
      exact hnone client query
    rw [counts_frameOf hnone, if_neg hends]
    exact h client query

/-! ## Whole runs -/

theorem countsAfter_empty : c.CountsAfter [] .empty := by
  intro client query
  simp [endsIn, awaited]

variable {w : World Outlet} {s : Dispatch}

theorem countsAfter_turns (hpos : ∀ query, 1 ≤ c.multiplicity.resultCount query)
    (hfresh : s.counts = .empty) : c.CountsAfter ms (c.turns w ms s).2.counts := by
  induction ms using List.reverseRecOn with
  | nil =>
      change c.CountsAfter [] s.counts
      rw [hfresh]
      exact countsAfter_empty
  | append_singleton ms m ih =>
      rw [turns_append_singleton, counts_turn]
      exact countsAfter_frameOf hpos ih

end Consumer

/-- The law of fanning in. After the turns on the messages `before` comes the turn `t` on `m`,
which leads from the state `s` to the state `after`. -/
structure FanInLaw (c : Consumer) (w : World Outlet) (start : Dispatch) (before : List Message)
    (turns : List Turn) (s : Dispatch) (m : Message) (t : Turn) (after : Dispatch) : Prop where
  /-- The messages are handled in their order, and nothing is asked for but in their turns. -/
  order : turns.map Turn.message = before ∧ s.past = start.past ++ turns.flatMap Turn.log
  /-- There is a count for exactly those pairs that are in the middle of a round. -/
  counts : ∀ client query, s.counts.remaining? client query =
    if c.multiplicity.resultCount query ∣ endsIn client query before then none
    else some (c.multiplicity.resultCount query -
      endsIn client query before % c.multiplicity.resultCount query)
  malformed : ∀ e, m.resultMeta = .error e →
    t.outcome = .malformed e ∧ t.log = [] ∧ after.counts = s.counts
  badRows : ∀ client query e, m.resultMeta = .ok ⟨client, query, .rows⟩ →
    m.bodyText = .error e → t.outcome = .malformed e ∧ t.log = [] ∧ after.counts = s.counts
  rows : ∀ client query rows, m.resultMeta = .ok ⟨client, query, .rows⟩ →
    m.bodyText = .ok rows → after.counts = s.counts ∧
      Passage ⟨query, .rows rows⟩ s.owed (w.registered s.past client) t.outcome t.writes
  /-- The message that completes a round is passed on; for the others nothing is asked. -/
  ends : ∀ client query, m.resultMeta = .ok ⟨client, query, .endOfStream⟩ →
    if c.multiplicity.resultCount query ∣ endsIn client query before + 1 then
      Passage ⟨query, .endOfStream⟩ s.owed (w.registered s.past client) t.outcome t.writes
    else
      t.outcome = .awaiting (c.multiplicity.resultCount query -
        (endsIn client query before + 1) % c.multiplicity.resultCount query) ∧ t.log = []

/-- Every message of every run of a fresh consumer obeys the law, whoever is registered and whatever
the clients reply. -/
theorem fanIn_exact {ingest : Table RouteKey Nat} {results : Table QueryId Nat} {c : Consumer}
    (hcounts : Multiplicity.ofCounts ingest results = .ok c.multiplicity) (w : World Outlet)
    (owed : Debts) (past : List (Exchange Outlet)) (before : List Message) (m : Message) :
    let run := c.turns w before ⟨.empty, owed, past⟩
    FanInLaw c w ⟨.empty, owed, past⟩ before run.1 run.2 m (c.turn w run.2 m).1
      (c.turn w run.2 m).2 := by
  intro run
  have hpos : ∀ query, 1 ≤ c.multiplicity.resultCount query :=
    Multiplicity.resultCount_pos hcounts
  have hafter : c.CountsAfter before run.2.counts := Consumer.countsAfter_turns hpos rfl
  refine ⟨⟨Consumer.messages_turns, Consumer.past_turns⟩, hafter, ?_, ?_, ?_, ?_⟩
  · intro e hmeta
    rw [Consumer.turn_of_error (Consumer.frameOf_malformed hmeta)]
    exact ⟨rfl, rfl, rfl⟩
  · intro client query e hmeta hbody
    rw [Consumer.turn_of_error (Consumer.frameOf_badRows hmeta hbody)]
    exact ⟨rfl, rfl, rfl⟩
  · intro client query rows hmeta hbody
    exact Consumer.turn_of_frame (Consumer.frameOf_rows hmeta hbody)
  · intro client query hmeta
    have hframe :=
      Consumer.frameOf_end_of_awaited (hpos query) (hafter client query) hmeta
    by_cases hdvd : c.multiplicity.resultCount query ∣ endsIn client query before + 1
    · rw [if_pos hdvd] at hframe ⊢
      exact (Consumer.turn_of_frame (Prod.ext hframe rfl)).2
    · rw [if_neg hdvd] at hframe ⊢
      rw [Consumer.turn_of_error (Prod.ext hframe rfl)]
      exact ⟨rfl, rfl⟩

/-- The second of two workers ends the query, whatever else has been handled meanwhile. -/
theorem fanIn_exact_of_two_workers :
    let counts : Table QueryId Nat := .ofList [(⟨"Q"⟩, 2)]
    let c : Consumer := ⟨⟨.empty, counts⟩, 1000⟩
    let before := [.raw [], .resultEnd ⟨"Q"⟩ ⟨"one"⟩, .resultEnd ⟨"Q"⟩ ⟨"two"⟩,
      .result ⟨"Q"⟩ ⟨"one"⟩ (.ofText "row")]
    let run := c.turns (.attentive ⟨"one"⟩ ⟨7⟩) before ⟨.empty, fun _ => 0, []⟩
    let next := c.turn (.attentive ⟨"one"⟩ ⟨7⟩) run.2 (.resultEnd ⟨"Q"⟩ ⟨"one"⟩)
    Multiplicity.ofCounts .empty counts = .ok c.multiplicity ∧
      FanInLaw c (.attentive ⟨"one"⟩ ⟨7⟩) ⟨.empty, fun _ => 0, []⟩ before run.1 run.2
        (.resultEnd ⟨"Q"⟩ ⟨"one"⟩) next.1 next.2 ∧
      next.1.writes = [⟨⟨7⟩, "Q\nEOF", true⟩] := by
  have hcounts : Multiplicity.ofCounts .empty (.ofList [(⟨"Q"⟩, 2)]) =
      .ok ⟨.empty, .ofList [(⟨"Q"⟩, 2)]⟩ := rfl
  refine ⟨hcounts, ?_, ?_⟩
  · exact fanIn_exact hcounts (.attentive ⟨"one"⟩ ⟨7⟩) (fun _ => 0) [] _ _
  · rfl

end QueryGateway
