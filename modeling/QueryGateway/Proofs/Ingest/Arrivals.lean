import Mathlib.Data.List.Basic
import QueryGateway.Proofs.Ingest.Blocks

/-! # Frames in the order of their arrival

What a session does is one block after the other, one for each frame that arrives. Neither a failed
publish nor a missing route moves anything from one block to another, or from one query to another.
An acknowledgement that cannot be written ends the session at once, and so does a notice at which
the router breaks off.
-/

namespace QueryGateway

open Ingest

namespace Session

/-! ## Arrivals -/

/-- How a session ends that has no more frames to handle, by what its reads bring then. -/
inductive Ends : List Read → Except WireError Unit → Prop where
  /-- The gateway stops before the next read. -/
  | stopped : Ends [] (.ok ())
  /-- The gateway stops while the session reads, or the producer has been idle for too long. -/
  | idle (later : List Read) : Ends (none :: later) (.ok ())
  | closed (later : List Read) : Ends (some (.error .closed) :: later) (.ok ())
  | truncated (remaining : Nat) (later : List Read) :
      Ends (some (.error (.truncated remaining)) :: later) (.ok ())
  | tooLarge (length limit : Nat) (later : List Read) :
      Ends (some (.error (.frameTooLarge length limit)) :: later)
        (.error (.frameTooLarge length limit))
  | garbled (later : List Read) :
      Ends (some (.error .invalidUtf8) :: later) (.error .invalidUtf8)
  | failed (fault : Fault) (later : List Read) :
      Ends (some (.error (.io fault)) :: later) (.error (.io fault))

/-- The reads of a session for which these frames arrive, and then nothing more of use. -/
def arrivals (payloads : List String) (rest : List Read) : List Read :=
  payloads.map (fun payload => some (.ok payload)) ++ rest

/-- Whatever reads bring, they are frames that arrive, and then an end. -/
theorem exists_arrivals (reads : List Read) :
    ∃ payloads rest ending, reads = arrivals payloads rest ∧ Ends rest ending := by
  induction reads with
  | nil => exact ⟨[], [], _, rfl, .stopped⟩
  | cons read later ih =>
      cases read with
      | none => exact ⟨[], _, _, rfl, .idle later⟩
      | some result =>
          cases result with
          | ok payload =>
              obtain ⟨payloads, rest, ending, rfl, hends⟩ := ih
              exact ⟨payload :: payloads, rest, ending, rfl, hends⟩
          | error e =>
              cases e with
              | closed => exact ⟨[], _, _, rfl, .closed later⟩
              | truncated remaining => exact ⟨[], _, _, rfl, .truncated remaining later⟩
              | frameTooLarge length limit => exact ⟨[], _, _, rfl, .tooLarge length limit later⟩
              | invalidUtf8 => exact ⟨[], _, _, rfl, .garbled later⟩
              | io fault => exact ⟨[], _, _, rfl, .failed fault later⟩

variable {r : Router} {s : SessionSummary} {payloads : List String} {rest : List Read}
  {ending : Except WireError Unit} {blocks : List Block} {log : List (Exchange Ingest)}
  {result : Except SessionError SessionSummary}

theorem attend_of_ends (h : Ends rest ending) :
    attend r s rest = .done ((ending.map fun () => s).mapError .wire) := by
  cases h <;> rfl

theorem attend_arrivals_cons (payload : String) :
    attend r s (arrivals (payload :: payloads) rest) =
      handle r s payload >>= fun
        | .ok s => attend r s (arrivals payloads rest)
        | .error e => .done (.error e) := by
  rw [arrivals, List.map_cons, List.cons_append, attend, turn, bind_assoc]
  congr 1
  funext answer
  cases answer with
  | ok s => rfl
  | error e => rfl

/-! ## One block after the other -/

/-- How the blocks of a session that began with a summary lead to its result. -/
inductive Course (r : Router) (s : SessionSummary) (payloads : List String)
    (ending : Except WireError Unit) (blocks : List Block)
    (result : Except SessionError SessionSummary) : Prop where
  /-- Every frame was handled. -/
  | whole : (∀ b ∈ blocks, ¬b.isRefused ∧ ¬b.BreaksOff r) → blocks.map Block.payload = payloads →
      result = (ending.map fun () => blocks.foldl SessionSummary.count s).mapError .wire →
        Course r s payloads ending blocks result
  /-- The last block could not be answered. -/
  | refused (earlier : List Block) (last : Block) (e : WireError) : blocks = earlier ++ [last] →
      (∀ b ∈ earlier, ¬b.isRefused ∧ ¬b.BreaksOff r) → last.isRefused →
      blocks.map Block.payload <+: payloads → result = .error (.wire e) →
        Course r s payloads ending blocks result
  /-- The router broke off at the last block. -/
  | brokenOff (earlier : List Block) (last : Block) : blocks = earlier ++ [last] →
      (∀ b ∈ earlier, ¬b.isRefused ∧ ¬b.BreaksOff r) → last.BreaksOff r →
      blocks.map Block.payload <+: payloads → result = .error (.router .overflow) →
        Course r s payloads ending blocks result

namespace Course

theorem cons {b : Block} (hcounted : ¬b.isRefused ∧ ¬b.BreaksOff r)
    (h : Course r (s.count b) payloads ending blocks result) :
    Course r s (b.payload :: payloads) ending (b :: blocks) result := by
  cases h with
  | whole hall hpayloads hresult =>
      refine .whole (List.forall_mem_cons.mpr ⟨hcounted, hall⟩) ?_ ?_
      · rw [List.map_cons, hpayloads]
      · rw [List.foldl_cons, hresult]
  | refused earlier last e hblocks hall hlast hpayloads hresult =>
      refine .refused (b :: earlier) last e ?_ (List.forall_mem_cons.mpr ⟨hcounted, hall⟩) hlast ?_
        hresult
      · rw [hblocks, List.cons_append]
      · exact List.cons_prefix_cons.mpr ⟨rfl, hpayloads⟩
  | brokenOff earlier last hblocks hall hlast hpayloads hresult =>
      refine .brokenOff (b :: earlier) last ?_ (List.forall_mem_cons.mpr ⟨hcounted, hall⟩) hlast ?_
        hresult
      · rw [hblocks, List.cons_append]
      · exact List.cons_prefix_cons.mpr ⟨rfl, hpayloads⟩

theorem isPrefix (h : Course r s payloads ending blocks result) :
    blocks.map Block.payload <+: payloads := by
  cases h with
  | whole _ hpayloads _ => exact hpayloads ▸ List.prefix_rfl
  | refused _ _ _ _ _ _ hpayloads _ => exact hpayloads
  | brokenOff _ _ _ _ _ hpayloads _ => exact hpayloads

/-- A session in which every block was counted has handled all of its frames. -/
theorem of_counted (h : Course r s payloads ending blocks result)
    (hcounted : ∀ b ∈ blocks, ¬b.isRefused ∧ ¬b.BreaksOff r) :
    blocks.map Block.payload = payloads ∧
      result = (ending.map fun () => blocks.foldl SessionSummary.count s).mapError .wire := by
  cases h with
  | whole _ hpayloads hresult => exact ⟨hpayloads, hresult⟩
  | refused earlier last e hblocks _ hlast _ _ =>
      exact absurd hlast (hcounted last (by simp [hblocks])).1
  | brokenOff earlier last hblocks _ hlast _ _ =>
      exact absurd hlast (hcounted last (by simp [hblocks])).2

/-- A block that is not counted is the last one, and says how the session has failed. -/
theorem of_not_counted (h : Course r s payloads ending blocks result) {earlier later : List Block}
    {b : Block} (hsplit : blocks = earlier ++ b :: later)
    (hstops : ¬(¬b.isRefused ∧ ¬b.BreaksOff r)) :
    later = [] ∧ ((b.isRefused ∧ ∃ e, result = .error (.wire e)) ∨
      (b.BreaksOff r ∧ result = .error (.router .overflow))) := by
  have hlast : ∀ {before : List Block} {last : Block}, blocks = before ++ [last] →
      (∀ b ∈ before, ¬b.isRefused ∧ ¬b.BreaksOff r) → later = [] ∧ b = last := by
    intro before last hblocks hall
    rcases List.eq_nil_or_concat later with rfl | ⟨more, b', rfl⟩
    · have hsame : earlier ++ [b] = before ++ [last] := hsplit.symm.trans hblocks
      exact ⟨rfl, (List.cons.inj (List.append_inj' hsame rfl).2).1⟩
    · have hsame : (earlier ++ b :: more) ++ [b'] = before ++ [last] := by
        simp [← hblocks, hsplit]
      obtain ⟨hbefore, -⟩ := List.append_inj' hsame rfl
      exact absurd (hall b (by simp [← hbefore])) hstops
  cases h with
  | whole hall _ _ => exact absurd (hall b (by simp [hsplit])) hstops
  | refused before last e hblocks hall hrefused _ hresult =>
      obtain ⟨rfl, rfl⟩ := hlast hblocks hall
      exact ⟨rfl, .inl ⟨hrefused, e, hresult⟩⟩
  | brokenOff before last hblocks hall hbreaks _ hresult =>
      obtain ⟨rfl, rfl⟩ := hlast hblocks hall
      exact ⟨rfl, .inr ⟨hbreaks, hresult⟩⟩

end Course

/-- A session is one block after the other, up to the first one by which it fails. -/
theorem run_attend (hends : Ends rest ending)
    (hrun : (attend r s (arrivals payloads rest)).Run log result) :
    ∃ blocks : List Block, trace log = blocks.flatMap Block.events ∧ (∀ b ∈ blocks, b.Fits r) ∧
      Course r s payloads ending blocks result := by
  induction payloads generalizing s log with
  | nil =>
      have hdone : attend r s (arrivals [] rest) = _ := attend_of_ends hends
      rw [hdone] at hrun
      obtain ⟨rfl, rfl⟩ := Program.Run.done_iff.mp hrun
      exact ⟨[], rfl, by simp, .whole (by simp) rfl rfl⟩
  | cons payload later ih =>
      rw [attend_arrivals_cons] at hrun
      obtain ⟨answer, first, second, rfl, hfirst, hsecond⟩ := Program.Run.bind_iff.mp hrun
      obtain ⟨b, rfl, hfits, htrace, hleads⟩ := run_handle hfirst
      have hprefix : [b].map Block.payload <+: b.payload :: later :=
        List.cons_prefix_cons.mpr ⟨rfl, List.nil_prefix⟩
      have hevents : trace (first ++ []) = [b].flatMap Block.events := by
        rw [List.append_nil, htrace, List.flatMap_singleton]
      cases hleads with
      | counted hwritten hkept =>
          obtain ⟨blocks, hrest, hall, hcourse⟩ := ih hsecond
          refine ⟨b :: blocks, ?_, List.forall_mem_cons.mpr ⟨hfits, hall⟩,
            .cons ⟨hwritten, hkept⟩ hcourse⟩
          rw [trace_append, htrace, hrest, List.flatMap_cons]
      | refused e hrefused =>
          obtain ⟨rfl, rfl⟩ := Program.Run.done_iff.mp hsecond
          exact ⟨[b], hevents, List.forall_mem_singleton.mpr hfits,
            .refused [] b e rfl (by simp) hrefused hprefix rfl⟩
      | brokenOff hbreaks =>
          obtain ⟨rfl, rfl⟩ := Program.Run.done_iff.mp hsecond
          exact ⟨[b], hevents, List.forall_mem_singleton.mpr hfits,
            .brokenOff [] b rfl (by simp) hbreaks hprefix rfl⟩

/-! ## The law of a session -/

theorem publishes_append_eq {attempts : List Attempt} {reply : Option (String × Bool)}
    {before inside : List Event} {text : String} {written : Bool}
    (h : attempts.map Event.publish ++
        reply.toList.map (fun reply => .acknowledge reply.1 reply.2) =
      before ++ .acknowledge text written :: inside) :
    reply = some (text, written) ∧ before = attempts.map Event.publish ∧ inside = [] := by
  induction attempts generalizing before with
  | nil =>
      cases reply with
      | none => simp at h
      | some reply =>
          cases before with
          | nil =>
              simp only [List.map_nil, List.nil_append, Option.toList_some, List.map_cons,
                List.cons.injEq, Event.acknowledge.injEq] at h
              obtain ⟨⟨rfl, rfl⟩, rfl⟩ := h
              exact ⟨rfl, rfl, rfl⟩
          | cons event before => simp at h
  | cons a rest ih =>
      cases before with
      | nil => simp at h
      | cons event before =>
          obtain ⟨rfl, hrest⟩ := List.cons.inj h
          obtain ⟨hreply, rfl, hinside⟩ := ih hrest
          exact ⟨hreply, rfl, hinside⟩

/-- An acknowledgement comes after the publishes of its own block and of the blocks before it, and
before those of the later blocks. -/
theorem events_eq_append {blocks : List Block} {before after : List Event} {text : String}
    {written : Bool}
    (h : blocks.flatMap Block.events = before ++ .acknowledge text written :: after) :
    ∃ earlier b later, blocks = earlier ++ b :: later ∧ b.reply = some (text, written) ∧
      before = earlier.flatMap Block.events ++ b.attempts.map Event.publish ∧
      after = later.flatMap Block.events := by
  induction blocks generalizing before with
  | nil => simp at h
  | cons b rest ih =>
      have hlater : ∀ {before' : List Event}, before = b.events ++ before' →
          rest.flatMap Block.events = before' ++ .acknowledge text written :: after →
          ∃ earlier b' later, b :: rest = earlier ++ b' :: later ∧ b'.reply = some (text, written) ∧
            before = earlier.flatMap Block.events ++ b'.attempts.map Event.publish ∧
            after = later.flatMap Block.events := by
        intro before' hbefore hrest
        obtain ⟨earlier, b', later, rfl, hreply, rfl, rfl⟩ := ih hrest
        refine ⟨b :: earlier, b', later, rfl, hreply, ?_, rfl⟩
        rw [hbefore, List.flatMap_cons, List.append_assoc]
      rw [List.flatMap_cons, List.append_eq_append_iff] at h
      -- The acknowledgement is in a later block or in this one, of which it is the last event.
      rcases h with ⟨before', hbefore, hrest⟩ | ⟨inside, hevents, hrest⟩
      · exact hlater hbefore hrest
      · cases inside with
        | nil =>
            rw [List.append_nil] at hevents
            rw [List.nil_append] at hrest
            exact hlater (by rw [hevents, List.append_nil]) hrest.symm
        | cons event inside =>
            obtain ⟨rfl, rfl⟩ := List.cons.inj hrest
            obtain ⟨hreply, rfl, rfl⟩ := publishes_append_eq hevents
            exact ⟨[], b, rest, rfl, hreply, rfl, rfl⟩

/-- A block at which the router breaks off has no acknowledgement. -/
theorem Block.Fits.not_isRefused {b : Block} (hfits : b.Fits r) (hbreaks : b.BreaksOff r) :
    ¬b.isRefused := by
  obtain ⟨h, hnotice, hoff⟩ := hbreaks
  cases hfits with
  | rejected e hcontent => rw [hnotice] at hcontent; cases hcontent
  | batch batch id hcontent => rw [hnotice] at hcontent; cases hcontent
  | notice h' hcontent hkept =>
      rw [hnotice] at hcontent
      cases hcontent
      exact absurd hoff hkept
  | brokenOff h' _ _ _ hreply _ => simp [isRefused, hreply]

theorem Block.offers_to {b : Block} {batch : Batch} {id : UInt64} (hfits : b.Fits r)
    (hcontent : b.content = .batch batch id) {query : QueryId}
    (hquery : query ∈ batch.header.queries) :
    (b.attempts.filter (Attempt.names query)).map Attempt.offer =
      (r.offer? batch id query).toList := by
  cases hfits with
  | rejected e h => rw [hcontent] at h; cases h
  | notice h h' => rw [hcontent] at h'; cases h'
  | brokenOff h h' => rw [hcontent] at h'; cases h'
  | batch batch' id' h hoffers =>
      rw [hcontent] at h
      obtain ⟨rfl, rfl⟩ := Content.batch.inj h
      obtain ⟨line, hline⟩ := Batch.header_of_parse (parse_of_content hcontent)
      have hfilter := r.filter_offers batch id (Header.nodup_queries hline) query
      rw [if_pos hquery, ← hoffers, List.filter_map] at hfilter
      exact hfilter

/-- The law of a session for which some frames arrive: what these and the broker's answers have to
do with what is published, with what is acknowledged, and with what is counted. -/
structure Law (r : Router) (payloads : List String) (ending : Except WireError Unit)
    (result : Except SessionError SessionSummary) (events : List Event) (blocks : List Block) :
    Prop where
  /-- A session is one block after the other. -/
  events_eq : events = blocks.flatMap Block.events
  /-- There is a block for each frame, in the order of arrival, up to the first one by which the
  session fails. -/
  arrival : blocks.map Block.payload <+: payloads
  fits : ∀ b ∈ blocks, b.Fits r
  /-- When a frame is acknowledged, its publishes and those of all earlier frames are made, and
  none of a later frame is. -/
  acknowledged : ∀ before text written after,
    events = before ++ .acknowledge text written :: after →
    ∃ earlier b later, blocks = earlier ++ b :: later ∧ b.reply = some (text, written) ∧
      before = earlier.flatMap Block.events ++ b.attempts.map Event.publish ∧
      after = later.flatMap Block.events
  /-- What a query is offered depends on its own route alone. -/
  separately : ∀ b ∈ blocks, ∀ batch id, b.content = .batch batch id →
    ∀ query ∈ batch.header.queries, (b.attempts.filter (Attempt.names query)).map Attempt.offer =
      (r.offer? batch id query).toList
  /-- While acknowledgements are written and the router does not break off, every frame is handled
  and counted. -/
  counts : (∀ b ∈ blocks, ¬b.isRefused ∧ ¬b.BreaksOff r) → blocks.map Block.payload = payloads ∧
    match ending with
    | .ok () => ∃ s, result = .ok s ∧ s.Counts blocks
    | .error e => result = .error (.wire e)
  /-- Nothing is done after an acknowledgement that could not be written. -/
  fails : ∀ earlier b later, blocks = earlier ++ b :: later → b.isRefused →
    later = [] ∧ ∃ e, result = .error (.wire e)
  /-- Nothing is done after a notice at which the router breaks off. -/
  breaksOff : ∀ earlier b later, blocks = earlier ++ b :: later → b.BreaksOff r →
    later = [] ∧ result = .error (.router .overflow)

end Session

/-- Whatever arrives and whatever the broker and the connection do, a session publishes before it
acknowledges, frame by frame, until it ends or its router breaks off. -/
theorem session_exact (r : Router) (payloads : List String) {rest : List Session.Read}
    {ending : Except WireError Unit} (hends : Session.Ends rest ending) (w : World Ingest)
    (past : List (Exchange Ingest)) :
    ∃ blocks, Session.Law r payloads ending
      (w.play past (Session.attend r .empty (Session.arrivals payloads rest))).1
      (trace (w.play past (Session.attend r .empty (Session.arrivals payloads rest))).2)
      blocks := by
  obtain ⟨blocks, hevents, hfits, hcourse⟩ := Session.run_attend hends
    (w.run_play past (Session.attend r .empty (Session.arrivals payloads rest)))
  refine ⟨blocks, hevents, hcourse.isPrefix, hfits, ?_, ?_, ?_, ?_, ?_⟩
  · intro before text written after hsplit
    exact Session.events_eq_append (hevents ▸ hsplit)
  · intro b hb batch id hcontent query hquery
    exact Session.Block.offers_to (hfits b hb) hcontent hquery
  · intro hcounted
    obtain ⟨hpayloads, hresult⟩ := hcourse.of_counted hcounted
    refine ⟨hpayloads, ?_⟩
    cases ending with
    | ok u =>
        refine ⟨_, hresult, ?_⟩
        simpa using SessionSummary.counts_empty.foldl blocks
    | error e => exact hresult
  · intro earlier b later hsplit hrefused
    obtain ⟨hlater, hrest⟩ := hcourse.of_not_counted hsplit fun hcounted => hcounted.1 hrefused
    refine ⟨hlater, ?_⟩
    rcases hrest with ⟨-, he⟩ | ⟨hbreaks, -⟩
    · exact he
    · exact absurd hrefused ((hfits b (by simp [hsplit])).not_isRefused hbreaks)
  · intro earlier b later hsplit hbreaks
    obtain ⟨hlater, hrest⟩ := hcourse.of_not_counted hsplit fun hcounted => hcounted.2 hbreaks
    refine ⟨hlater, ?_⟩
    rcases hrest with ⟨hrefused, -⟩ | ⟨-, hresult⟩
    · exact absurd hrefused ((hfits b (by simp [hsplit])).not_isRefused hbreaks)
    · exact hresult

/-- A frame without a header, a batch for a routed query and one without a route, and the end of the
stream. -/
def threeFrames : List String :=
  ["no header", "q|other,MOVIES,c,0\n1|Title|.|0|0|Drama|Argentina|2000", "q,MOVIES,c,EOF"]

theorem session_exact_of_three_frames :
    ∃ tables m, Tables.build [⟨⟨"q"⟩, .movies, "work", 1⟩] [] = .ok tables ∧
      Session.Ends [some (.error .closed)] (.ok ()) ∧
      ∃ blocks, Session.Law ⟨tables, 2⟩ threeFrames (.ok ())
        (.ok ⟨some ⟨"c"⟩, 1, 1, 1, 1, [⟨⟨"q"⟩, "work", 1, 1⟩]⟩)
        [.publish ⟨"work", m, true⟩, .acknowledge "MOVIES_ACK:0" true,
          .publish ⟨"work", .endOfStream ⟨"q"⟩ ⟨"c"⟩ .movies, true⟩,
          .acknowledge "MOVIES_EOF_ACK" true] blocks := by
  have hbuild : Tables.build [⟨⟨"q"⟩, .movies, "work", 1⟩] [] = .ok _ := rfl
  have hends : Session.Ends [some (.error .closed)] (.ok ()) := .closed []
  exact ⟨_, _, hbuild, hends, session_exact ⟨_, 2⟩ threeFrames hends (fun _ => success) []⟩

/-- With the most retries that a word can say, the end of a stream is neither published nor
acknowledged, although the broker takes every message. -/
theorem notice_unanswered_of_largest_retries :
    ∃ tables, Tables.build [⟨⟨"q"⟩, .movies, "work", 1⟩] [] = .ok tables ∧
      World.play (fun _ => success) [] (Session.attend ⟨tables, 4294967295⟩ .empty
        (Session.arrivals ["q,MOVIES,c,EOF"] [none])) = (.error (.router .overflow), []) := by
  have hbuild : Tables.build [⟨⟨"q"⟩, .movies, "work", 1⟩] [] = .ok _ := rfl
  exact ⟨_, hbuild, rfl⟩

end QueryGateway
