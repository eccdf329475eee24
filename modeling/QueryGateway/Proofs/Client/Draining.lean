import QueryGateway.Client.Receiver
import QueryGateway.Proofs.Wire.Emission

/-! # Draining results

A receiver takes the frames of the other side one after the other and acknowledges each. It stops
when it has returned the end of every query that it waits for, not earlier and not later.
-/

namespace QueryGateway

namespace Receiver

/-! ## One call -/

/-- What a call for the next frame exchanges, what it returns, and what becomes of the receiver. -/
inductive Course (r : Receiver) :
    List (Exchange Wire) → Except ClientError (Option ResultFrame) → Receiver → Prop where
  /-- Every query has ended. -/
  | idle : r.awaiting = [] → Course r [] (.ok none) r
  | lost (e : WireError) : r.awaiting ≠ [] → Course r [⟨.read, .error e⟩] (.error (.wire e)) r
  | unexpected {payload : String} : r.awaiting ≠ [] → ResultFrame.parse? payload = none →
      Course r [⟨.read, .ok payload⟩] (.error (.unexpectedFrame payload)) r
  | unacknowledged {payload : String} {frame : ResultFrame} (e : WireError) : r.awaiting ≠ [] →
      ResultFrame.parse? payload = some frame →
      Course r [⟨.read, .ok payload⟩, ⟨.write resultAck, .error e⟩] (.error (.wire e)) r
  | taken {payload : String} {frame : ResultFrame} : r.awaiting ≠ [] →
      ResultFrame.parse? payload = some frame →
      Course r [⟨.read, .ok payload⟩, ⟨.write resultAck, .ok ()⟩] (.ok (some frame))
        (r.observe frame)

variable {r r' : Receiver} {log : List (Exchange Wire)}
  {result : Except ClientError (Option ResultFrame)}

theorem next_eq (h : r.awaiting ≠ []) :
    r.next = .perform (I := Wire) .read fun
      | .error e => .done (.error (.wire e), r)
      | .ok payload => match ResultFrame.parse? payload with
        | none => .done (.error (.unexpectedFrame payload), r)
        | some frame => .perform (I := Wire) (.write resultAck) fun
          | .error e => .done (.error (.wire e), r)
          | .ok () => .done (.ok (some frame), r.observe frame) := by
  rw [next, if_neg h]
  refine congrArg (Program.perform (I := Wire) _) (funext fun answer => ?_)
  cases answer with
  | error e => rfl
  | ok payload =>
      simp only [Program.bind]
      cases ResultFrame.parse? payload with
      | none => rfl
      | some frame =>
          refine congrArg (Program.perform (I := Wire) _) (funext fun answer => ?_)
          cases answer <;> rfl

/-- The runs of a call are these. -/
theorem run_next_iff : r.next.Run log (result, r') ↔ r.Course log result r' := by
  by_cases hover : r.awaiting = []
  · rw [next, if_pos hover]
    constructor
    · intro hrun
      obtain ⟨rfl, heq⟩ := Program.Run.done_iff.mp hrun
      obtain ⟨rfl, rfl⟩ := Prod.mk.inj heq
      exact .idle hover
    · intro hcourse
      cases hcourse with
      | idle => exact .done _
      | lost _ hmore => exact absurd hover hmore
      | unexpected hmore _ => exact absurd hover hmore
      | unacknowledged _ hmore _ => exact absurd hover hmore
      | taken hmore _ => exact absurd hover hmore
  · rw [next_eq hover]
    constructor
    · intro hrun
      obtain ⟨answer, rest, rfl, hrest⟩ := Program.Run.perform_iff.mp hrun
      cases answer with
      | error e =>
          obtain ⟨rfl, heq⟩ := Program.Run.done_iff.mp hrest
          obtain ⟨rfl, rfl⟩ := Prod.mk.inj heq
          exact .lost e hover
      | ok payload =>
          cases hparse : ResultFrame.parse? payload with
          | none =>
              simp only [hparse] at hrest
              obtain ⟨rfl, heq⟩ := Program.Run.done_iff.mp hrest
              obtain ⟨rfl, rfl⟩ := Prod.mk.inj heq
              exact .unexpected hover hparse
          | some frame =>
              simp only [hparse] at hrest
              obtain ⟨written, last, rfl, hlast⟩ := Program.Run.perform_iff.mp hrest
              cases written with
              | error e =>
                  obtain ⟨rfl, heq⟩ := Program.Run.done_iff.mp hlast
                  obtain ⟨rfl, rfl⟩ := Prod.mk.inj heq
                  exact .unacknowledged e hover hparse
              | ok u =>
                  obtain ⟨rfl, heq⟩ := Program.Run.done_iff.mp hlast
                  obtain ⟨rfl, rfl⟩ := Prod.mk.inj heq
                  exact .taken hover hparse
    · intro hcourse
      cases hcourse with
      | idle hnone => exact absurd hnone hover
      | lost e _ => exact Program.Run.perform_iff.mpr ⟨.error e, _, rfl, .done _⟩
      | @unexpected payload _ hparse =>
          refine Program.Run.perform_iff.mpr ⟨.ok payload, _, rfl, ?_⟩
          simp only [hparse]
          exact .done _
      | @unacknowledged payload frame e _ hparse =>
          refine Program.Run.perform_iff.mpr ⟨.ok payload, _, rfl, ?_⟩
          simp only [hparse]
          exact Program.Run.perform_iff.mpr ⟨.error e, _, rfl, .done _⟩
      | @taken payload frame _ hparse =>
          refine Program.Run.perform_iff.mpr ⟨.ok payload, _, rfl, ?_⟩
          simp only [hparse]
          exact Program.Run.perform_iff.mpr ⟨.ok (), _, rfl, .done _⟩

/-! ## Calls one after the other -/

/-- A call for the next frame, what was exchanged for it, and what came of it. -/
structure Turn where
  before : Receiver
  log : List (Exchange Wire)
  result : Except ClientError (Option ResultFrame)
  after : Receiver

/-- The next frame is called for once in each turn. -/
inductive Drains : Receiver → List Turn → Receiver → Prop where
  | nil (r : Receiver) : Drains r [] r
  | cons {r r' last : Receiver} {log : List (Exchange Wire)}
      {result : Except ClientError (Option ResultFrame)} {rest : List Turn} :
      r.next.Run log (result, r') → Drains r' rest last →
      Drains r (⟨r, log, result, r'⟩ :: rest) last

/-- What comes of a payload that is read. -/
def outcome (payload : String) : Except ClientError ResultFrame :=
  match ResultFrame.parse? payload with
  | some frame => .ok frame
  | none => .error (.unexpectedFrame payload)

/-- The queries that have not ended once some frames were returned. -/
def remaining (queries : List QueryId) (seen : List ResultFrame) : List QueryId :=
  queries.filter fun query => ⟨query, .endOfStream⟩ ∉ seen

namespace Turn

/-- What a call has returned, unless there was no next frame. -/
def answer? (t : Turn) : Option (Except ClientError ResultFrame) :=
  match t.result with
  | .ok none => none
  | .ok (some frame) => some (.ok frame)
  | .error e => some (.error e)

/-- The frames that were returned. -/
def frames (turns : List Turn) : List ResultFrame :=
  turns.filterMap fun t => t.answer?.bind Except.toOption

theorem frames_nil : frames [] = [] := rfl

theorem frames_cons (t : Turn) (turns : List Turn) :
    frames (t :: turns) = frames [t] ++ frames turns :=
  List.filterMap_append (l := [t])

/-- What was exchanged. -/
def exchanged (turns : List Turn) : List (Exchange Wire) :=
  turns.flatMap Turn.log

/-- What a call does once some frames were returned. -/
structure Lawful (queries : List QueryId) (seen : List ResultFrame) (t : Turn) : Prop where
  awaiting : t.before.awaiting = remaining queries seen
  /-- There is no next frame just if every query has ended. -/
  none_iff : t.result = .ok none ↔ ∀ query ∈ queries, ⟨query, .endOfStream⟩ ∈ seen
  quiet : t.result = .ok none → t.log = [] ∧ t.after = t.before
  /-- A frame is what was read, and it is acknowledged once before it is returned. -/
  taken : ∀ frame, t.result = .ok (some frame) → ∃ payload,
    ResultFrame.parse? payload = some frame ∧
      t.log = [⟨.read, .ok payload⟩, ⟨.write resultAck, .ok ()⟩]
  /-- What is no result frame is returned as it is, and it is not acknowledged. -/
  unexpected : ∀ e, t.result = .error e → ∃ payload, ResultFrame.parse? payload = none ∧
    e = .unexpectedFrame payload ∧ t.log = [⟨.read, .ok payload⟩] ∧ t.after = t.before

end Turn

variable {queries : List QueryId} {seen : List ResultFrame} {turns : List Turn}

theorem remaining_eq_nil_iff :
    remaining queries seen = [] ↔ ∀ query ∈ queries, ⟨query, .endOfStream⟩ ∈ seen := by
  simp [remaining]

/-- A frame takes away the query that it ends, and no other one. -/
theorem awaiting_observe (h : r.awaiting = remaining queries seen) (frame : ResultFrame) :
    (r.observe frame).awaiting = remaining queries (seen ++ [frame]) := by
  obtain ⟨query, body⟩ := frame
  cases body with
  | rows text => simp [observe, ResultFrame.endsStream, h, remaining]
  | endOfStream =>
      have hobserve : (r.observe ⟨query, .endOfStream⟩).awaiting =
          r.awaiting.filter (· ≠ query) := rfl
      rw [hobserve, h, remaining, remaining, List.filter_filter]
      apply List.filter_congr
      intro other _
      simp [and_comm]

/-- Where nothing fails, a call is lawful, and what is left to wait for depends on the frames
alone. -/
theorem Course.lawful (hcourse : r.Course log result r') (hsound : ∀ e ∈ log, ¬Wire.IsFailure e)
    (hawaiting : r.awaiting = remaining queries seen) :
    Turn.Lawful queries seen ⟨r, log, result, r'⟩ ∧
      r'.awaiting = remaining queries (seen ++ Turn.frames [⟨r, log, result, r'⟩]) := by
  have hmore : r.awaiting ≠ [] → ¬∀ query ∈ queries, ⟨query, .endOfStream⟩ ∈ seen :=
    fun hne hall => hne (hawaiting.trans (remaining_eq_nil_iff.mpr hall))
  cases hcourse with
  | idle hnil =>
      refine ⟨⟨hawaiting, ?_, fun _ => ⟨rfl, rfl⟩, nofun, nofun⟩, ?_⟩
      · exact iff_of_true rfl (remaining_eq_nil_iff.mp (hawaiting.symm.trans hnil))
      · rw [hawaiting]
        exact congrArg (remaining queries) (List.append_nil seen).symm
  | lost e _ => exact absurd ⟨e, rfl⟩ (hsound _ List.mem_cons_self)
  | unacknowledged e _ _ =>
      exact absurd ⟨e, rfl⟩ (hsound _ (List.mem_cons_of_mem _ List.mem_cons_self))
  | @unexpected payload hne hparse =>
      refine ⟨⟨hawaiting, iff_of_false nofun (hmore hne), nofun, nofun, ?_⟩, ?_⟩
      · rintro e heq
        exact ⟨payload, hparse, (Except.error.inj heq).symm, rfl, rfl⟩
      · rw [hawaiting]
        exact congrArg (remaining queries) (List.append_nil seen).symm
  | @taken payload frame hne hparse =>
      refine ⟨⟨hawaiting, iff_of_false nofun (hmore hne), nofun, ?_, nofun⟩,
        awaiting_observe hawaiting frame⟩
      rintro found heq
      obtain rfl := Option.some.inj (Except.ok.inj heq)
      exact ⟨payload, hparse, rfl⟩

/-- What a lawful call returns is the outcome of what it has read. -/
theorem Turn.Lawful.answer?_eq {t : Turn} (h : t.Lawful queries seen) :
    t.answer?.toList = (Wire.got t.log).map outcome ∧
      Wire.sent t.log = List.replicate (Turn.frames [t]).length resultAck := by
  obtain ⟨before, log, result, after⟩ := t
  rcases result with e | (_ | frame)
  · obtain ⟨payload, hparse, rfl, rfl, -⟩ := h.unexpected e rfl
    refine ⟨?_, rfl⟩
    simp [answer?, Wire.got, Wire.got?, outcome, hparse, Except.toOption]
  · obtain ⟨rfl, -⟩ := h.quiet rfl
    exact ⟨rfl, rfl⟩
  · obtain ⟨payload, hparse, rfl⟩ := h.taken frame rfl
    refine ⟨?_, rfl⟩
    simp [answer?, Wire.got, Wire.got?, outcome, hparse, Except.toOption]

namespace Turn

/-- What calls return is the outcome of what they have read, and what they write acknowledges the
frames that they return. -/
theorem exchanged_eq (h : ∀ t ∈ turns, ∃ seen, Turn.Lawful queries seen t) :
    turns.filterMap answer? = (Wire.got (exchanged turns)).map outcome ∧
      Wire.sent (exchanged turns) = List.replicate (frames turns).length resultAck := by
  induction turns with
  | nil => exact ⟨rfl, rfl⟩
  | cons t rest ih =>
      obtain ⟨⟨seen, hfirst⟩, hrest⟩ := List.forall_mem_cons.mp h
      obtain ⟨hanswer, hsent⟩ := hfirst.answer?_eq
      obtain ⟨hanswers, hsents⟩ := ih hrest
      have hexchanged : exchanged (t :: rest) = t.log ++ exchanged rest := List.flatMap_cons
      constructor
      · rw [hexchanged, Wire.got_append, List.map_append, ← hanswer, ← hanswers]
        cases hnone : t.answer? with
        | none => rw [List.filterMap_cons_none hnone]; rfl
        | some answer => rw [List.filterMap_cons_some hnone]; rfl
      · rw [hexchanged, Wire.sent_append, hsent, hsents, frames_cons t rest, List.length_append,
          List.replicate_append_replicate]

theorem frames_eq (turns : List Turn) :
    frames turns = (turns.filterMap answer?).filterMap Except.toOption :=
  List.filterMap_filterMap.symm

end Turn

theorem toOption_outcome (payload : String) :
    (outcome payload).toOption = ResultFrame.parse? payload := by
  rw [outcome]
  cases ResultFrame.parse? payload <;> rfl

/-- Along the calls, what is left to wait for depends on the frames alone. -/
theorem Drains.lawful (h : Drains r turns r')
    (hsound : ∀ e ∈ Turn.exchanged turns, ¬Wire.IsFailure e)
    (hawaiting : r.awaiting = remaining queries seen) :
    (∀ before t after, turns = before ++ t :: after →
      t.Lawful queries (seen ++ Turn.frames before)) ∧
    r'.awaiting = remaining queries (seen ++ Turn.frames turns) := by
  induction h generalizing seen with
  | nil r => exact ⟨by simp, by rwa [Turn.frames_nil, List.append_nil]⟩
  | @cons r r₁ last log result rest hrun _ ih =>
      obtain ⟨hfirst, hlater⟩ := List.forall_mem_append.mp hsound
      obtain ⟨hlawful, hawaiting₁⟩ := (run_next_iff.mp hrun).lawful hfirst hawaiting
      obtain ⟨hturns, hlast⟩ := ih hlater hawaiting₁
      constructor
      · refine forall_split_cons_iff.mpr ⟨?_, fun before t after hsplit => ?_⟩
        · rw [Turn.frames_nil, List.append_nil]
          exact hlawful
        · rw [Turn.frames_cons, ← List.append_assoc]
          exact hturns before t after hsplit
      · rw [Turn.frames_cons, ← List.append_assoc]
        exact hlast

/-! ## Every sequence of frames -/

/-- A receiver that was set up has announced its client, and waits for all of its queries. -/
theorem run_announce_ok {client : ClientId} {greeting : List (Exchange Wire)}
    (h : (announce client queries).Run greeting (.ok r)) :
    greeting = [⟨.write (Announcement.text ⟨client⟩), .ok ()⟩] ∧ r = ⟨queries⟩ := by
  obtain ⟨written, rest, rfl, hrest⟩ := Program.Run.perform_iff.mp h
  cases written with
  | error e => cases (Program.Run.done_iff.mp hrest).2
  | ok u =>
      obtain ⟨rfl, heq⟩ := Program.Run.done_iff.mp hrest
      exact ⟨rfl, Except.ok.inj heq⟩

/-- The law of a receiver to which the other side sends `texts`. Of these `later` has not arrived
after the turns. -/
structure DrainLaw (client : ClientId) (queries : List QueryId) (texts : List String)
    (turns : List Turn) (r : Receiver) (later out : Bytes) (c : Channel) : Prop where
  /-- What each call does depends on the frames that were returned before it. -/
  turn : ∀ before t after, turns = before ++ t :: after → t.Lawful queries (Turn.frames before)
  /-- What was read is what was sent, in its order. -/
  order : Wire.got (Turn.exchanged turns) <+: texts
  /-- The calls return the outcome of each text, and no call returns anything else. -/
  outcomes : turns.filterMap Turn.answer? = (Wire.got (Turn.exchanged turns)).map outcome
  frames : Turn.frames turns = (Wire.got (Turn.exchanged turns)).filterMap ResultFrame.parse?
  /-- Once there was no next frame there is none any more, and nothing is read or written. -/
  stays : ∀ before t after, turns = before ++ t :: after → t.result = .ok none →
    ∀ u ∈ after, u.result = .ok none ∧ u.log = []
  /-- There is one acknowledgement on the wire for each frame that was returned. -/
  wire : out = framesOf (Announcement.text ⟨client⟩ ::
    List.replicate (Turn.frames turns).length resultAck)
  /-- As long as a query has not ended, the next call can return what comes of the next text. -/
  goesOn : ∀ text rest, texts = Wire.got (Turn.exchanged turns) ++ text :: rest →
    c.inlet.ended = false → (∃ query ∈ queries, ⟨query, .endOfStream⟩ ∉ Turn.frames turns) →
    ∃ t more c', Drains r [t] t.after ∧ t.answer? = some (outcome text) ∧
      c.Sends later t.log more c' ∧ ∀ e ∈ t.log, ¬Wire.IsFailure e
  /-- When every query has ended, the next call returns that there is no next frame. -/
  ends : (∀ query ∈ queries, ⟨query, .endOfStream⟩ ∈ Turn.frames turns) →
    r.next = .done (.ok none, r)

theorem fits_resultAck : Fits resultAck := by
  decide

/-- On an open channel the next text can be read and acknowledged. -/
theorem acknowledges {text : String} {rest : List String} {c : Channel}
    (h : c.Flows (text :: rest) []) :
    ∃ c', c.Sends [] [⟨.read, .ok text⟩, ⟨.write resultAck, .ok ()⟩]
        (frameBytes (.ofText resultAck)) c' ∧ c'.Flows rest [] := by
  obtain ⟨c₁, hread, hflows₁⟩ := h.reads
  obtain ⟨c₂, hwritten, hflows₂⟩ := hflows₁.writes fits_resultAck
  exact ⟨c₂, hread.append hwritten, hflows₂⟩

/-- On an open channel on which the next text has arrived, a call can take it. -/
theorem drains_of_flows {text : String} {rest : List String} {c : Channel}
    (h : c.Flows (text :: rest) []) (hawaiting : r.awaiting ≠ []) :
    ∃ t more c', Drains r [t] t.after ∧ t.answer? = some (outcome text) ∧
      c.Sends [] t.log more c' ∧ ∀ e ∈ t.log, ¬Wire.IsFailure e := by
  cases hparse : ResultFrame.parse? text with
  | none =>
      obtain ⟨c', hread, -⟩ := h.reads
      have hrun := run_next_iff.mpr (.unexpected hawaiting hparse)
      refine ⟨_, _, c', .cons hrun (.nil _), ?_, hread, List.forall_mem_singleton.mpr nofun⟩
      simp [Turn.answer?, outcome, hparse]
  | some frame =>
      obtain ⟨c', hacknowledged, -⟩ := acknowledges h
      have hrun := run_next_iff.mpr (.taken hawaiting hparse)
      refine ⟨_, _, c', .cons hrun (.nil _), ?_, hacknowledged,
        List.forall_mem_cons.mpr ⟨nofun, List.forall_mem_singleton.mpr nofun⟩⟩
      simp [Turn.answer?, outcome, hparse]

/-- On a connection that does not fail, a receiver returns and acknowledges what it is sent, until
the last query ends. -/
theorem drains_exact {client : ClientId} {queries : List QueryId} {texts : List String}
    {greeting : List (Exchange Wire)} {turns : List Turn} {r r' : Receiver}
    {arrived later out : Bytes} {c : Channel}
    (hannounce : (announce client queries).Run greeting (.ok r)) (hdrains : Drains r turns r')
    (hsends : Channel.opened.Sends arrived (greeting ++ Turn.exchanged turns) out c)
    (hsound : ∀ e ∈ Turn.exchanged turns, ¬Wire.IsFailure e)
    (hfits : ∀ text ∈ texts, Fits text) (hbytes : arrived ++ later = framesOf texts) :
    DrainLaw client queries texts turns r' later out c := by
  obtain ⟨rfl, rfl⟩ := run_announce_ok hannounce
  have hall : ∀ e ∈ (⟨.write (Announcement.text ⟨client⟩), .ok ()⟩ : Exchange Wire) ::
      Turn.exchanged turns, ¬Wire.IsFailure e := List.forall_mem_cons.mpr ⟨nofun, hsound⟩
  have hstart : queries = remaining queries [] := by simp [remaining]
  obtain ⟨hturns, hawaiting⟩ := hdrains.lawful hsound hstart
  simp only [List.nil_append] at hturns hawaiting
  have hlawful : ∀ t ∈ turns, ∃ seen, t.Lawful queries seen := by
    intro t ht
    obtain ⟨before, after, hsplit⟩ := List.append_of_mem ht
    exact ⟨_, hturns before t after hsplit⟩
  obtain ⟨hanswers, hsent⟩ := Turn.exchanged_eq hlawful
  obtain ⟨hsane, left, hleft, hcarries⟩ := hsends.carries hall hfits hbytes
  exact {
    turn := hturns
    order := ⟨left, hleft.symm⟩
    outcomes := hanswers
    frames := by
      rw [Turn.frames_eq, hanswers, List.filterMap_map]
      exact congrArg (List.filterMap · _) (funext toOption_outcome)
    stays := by
      intro before t after hsplit hnone u hu
      obtain ⟨middle, last, rfl⟩ := List.append_of_mem hu
      have hafter := hturns (before ++ t :: middle) u last (by simp [hsplit])
      have hended := (hturns before t _ hsplit).none_iff.mp hnone
      have hover := hafter.none_iff.mpr fun query hquery => by
        rw [Turn.frames, List.filterMap_append]
        exact List.mem_append_left _ (hended query hquery)
      exact ⟨hover, (hafter.quiet hover).1⟩
    wire := by
      rw [hsends.eq_framesOf hall, ← hsent]
      rfl
    goesOn := by
      rintro text rest hnext hgoes ⟨query, hquery, hmissing⟩
      have hwaits : r'.awaiting ≠ [] := by
        rw [hawaiting]
        exact fun hnil => hmissing (remaining_eq_nil_iff.mp hnil query hquery)
      have hrest : left = text :: rest := List.append_cancel_left (hleft.symm.trans hnext)
      subst hrest
      have hflows : c.Flows (text :: rest) later := ⟨hcarries, hsane.isOpen hgoes⟩
      obtain ⟨harrives, hflows'⟩ := hflows.arrives
      obtain ⟨t, more, c', hturn, hanswer, htaken, htakenSound⟩ := drains_of_flows hflows' hwaits
      have hwhole := harrives.append htaken
      rw [List.append_nil] at hwhole
      exact ⟨t, _, c', hturn, hanswer, hwhole, htakenSound⟩
    ends := by
      intro hended
      have hnil : r'.awaiting = [] := hawaiting.trans (remaining_eq_nil_iff.mpr hended)
      rw [next, if_pos hnil]
      rfl }

/-- Rows and both ends are returned, and between them a frame without a query. -/
theorem drains_exact_of_two_queries :
    ∃ turns r out c, turns.map Turn.answer? =
        [some (.ok ⟨⟨"q1"⟩, .rows "1|Cars"⟩), some (.error (.unexpectedFrame "")),
          some (.ok ⟨⟨"q2"⟩, .endOfStream⟩), some (.ok ⟨⟨"q1"⟩, .endOfStream⟩), none] ∧
      DrainLaw ⟨"c"⟩ [⟨"q1"⟩, ⟨"q2"⟩] ["q1\n1|Cars", "", "q2\nEOF", "q1\nEOF"] turns r []
        out c := by
  have hgreeting : (announce ⟨"c"⟩ [⟨"q1"⟩, ⟨"q2"⟩]).Run
      [⟨.write (Announcement.text ⟨⟨"c"⟩⟩), .ok ()⟩] (.ok ⟨[⟨"q1"⟩, ⟨"q2"⟩]⟩) :=
    Program.Run.perform_iff.mpr ⟨.ok (), _, rfl, .done _⟩
  have hfits : ∀ text ∈ ["q1\n1|Cars", "", "q2\nEOF", "q1\nEOF"], Fits text := by decide
  obtain ⟨c₀, hwritten, hflows₀⟩ :=
    Channel.flows_opened.writes (show Fits (Announcement.text ⟨⟨"c"⟩⟩) by decide)
  obtain ⟨harrives, hflows₁⟩ := (hflows₀.extend_all hfits).arrives
  obtain ⟨c₂, hfirst, hflows₂⟩ := acknowledges hflows₁
  obtain ⟨c₃, hsecond, hflows₃⟩ := hflows₂.reads
  obtain ⟨c₄, hthird, hflows₄⟩ := acknowledges hflows₃
  obtain ⟨c₅, hfourth, -⟩ := acknowledges hflows₄
  have hsends := hwritten.append (harrives.append (hfirst.append (hsecond.append
    (hthird.append hfourth))))
  have hrows : ResultFrame.parse? "q1\n1|Cars" = some ⟨⟨"q1"⟩, .rows "1|Cars"⟩ := by rfl
  have hnone : ResultFrame.parse? "" = none := by rfl
  have hend : ResultFrame.parse? "q2\nEOF" = some ⟨⟨"q2"⟩, .endOfStream⟩ := by rfl
  have hlast : ResultFrame.parse? "q1\nEOF" = some ⟨⟨"q1"⟩, .endOfStream⟩ := by rfl
  have hdrains : Drains ⟨[⟨"q1"⟩, ⟨"q2"⟩]⟩ _ ⟨[]⟩ :=
    .cons (run_next_iff.mpr (.taken (by decide) hrows)) <|
    .cons (run_next_iff.mpr (.unexpected (by decide) hnone)) <|
    .cons (run_next_iff.mpr (.taken (by decide) hend)) <|
    .cons (run_next_iff.mpr (.taken (by decide) hlast)) <|
    .cons (run_next_iff.mpr (.idle rfl)) (.nil _)
  refine ⟨_, _, _, _, rfl, drains_exact hgreeting hdrains hsends ?_ hfits (by simp)⟩
  simp [Turn.exchanged, Wire.IsFailure, Wire.Fails]

end Receiver

end QueryGateway
