import QueryGateway.Proofs.Delivery.LastFrame
import QueryGateway.Proofs.Program.Footprint

/-! # Clients do not notice each other

Every client has a connection of its own, and what happens on a connection is up to its other end.
Then the turns on the messages of a client are what they would be without the other messages: the
requests of a turn concern one client and its connection.
-/

namespace QueryGateway

/-! ## The messages of a client -/

/-- The client that a message is for, if the message is well formed. -/
def Message.receiver? (m : Message) : Option ClientId :=
  match m.resultMeta, m.bodyText with
  | .error _, _ => none
  | .ok ⟨_, _, .rows⟩, .error _ => none
  | .ok info, _ => some info.client

/-- A message is well formed and for a client. -/
def Message.addressedTo (client : ClientId) (m : Message) : Bool :=
  m.receiver? = some client

theorem Message.addressedTo_iff {client : ClientId} {m : Message} :
    m.addressedTo client = true ↔ m.receiver? = some client := decide_eq_true_iff

theorem Countdown.observe_congr {counts counts' : Countdown} {client : ClientId} {query : QueryId}
    {n : Nat} (h : counts.remaining? client query = counts'.remaining? client query) :
    (counts.observe client query n).1 = (counts'.observe client query n).1 ∧
      (counts.observe client query n).2.remaining? client query =
        (counts'.observe client query n).2.remaining? client query := by
  have hget : counts.counts.get? (client, query) = counts'.counts.get? (client, query) := h
  rw [observe, observe, hget]
  split
  · simp [remaining?]
  · simp [remaining?]

namespace Consumer

variable {c : Consumer} {counts counts' : Countdown} {m : Message} {client client' : ClientId}
  {query : QueryId} {frame : ResultFrame}

theorem receiver_of_frameOf (h : (c.frameOf counts m).1 = .ok (client, frame)) :
    m.receiver? = some client := by
  cases m.content with
  | malformed e hmeta =>
      rw [frameOf_malformed hmeta] at h
      cases h
  | badRows client' query' e hmeta hbody =>
      rw [frameOf_badRows hmeta hbody] at h
      cases h
  | rows client' query' rows hmeta hbody =>
      rw [frameOf_rows hmeta hbody] at h
      cases h
      simp [Message.receiver?, hmeta, hbody]
  | ends client' query' hmeta =>
      have hclient : client' = client := by
        rw [frameOf_end hmeta] at h
        generalize counts.observe client' query' (c.multiplicity.resultCount query') = step at h
        obtain ⟨_ | _, _⟩ := step
        · cases h
        · cases h
          rfl
      simp [Message.receiver?, hmeta, hclient]

/-- A message is passed on as its client's own counts say, and only these change. -/
theorem frameOf_congr (hreceiver : m.receiver? = some client)
    (hcounts : ∀ query, counts.remaining? client query = counts'.remaining? client query) :
    (c.frameOf counts m).1 = (c.frameOf counts' m).1 ∧
      ∀ query, (c.frameOf counts m).2.remaining? client query =
        (c.frameOf counts' m).2.remaining? client query := by
  cases m.content with
  | malformed e hmeta => simp [Message.receiver?, hmeta] at hreceiver
  | badRows client' query' e hmeta hbody => simp [Message.receiver?, hmeta, hbody] at hreceiver
  | rows client' query' rows hmeta hbody =>
      rw [frameOf_rows hmeta hbody, frameOf_rows hmeta hbody]
      exact ⟨rfl, hcounts⟩
  | ends client' query' hmeta =>
      obtain rfl : client' = client := by simpa [Message.receiver?, hmeta] using hreceiver
      obtain ⟨hstep, hself⟩ := Countdown.observe_congr
        (n := c.multiplicity.resultCount query') (hcounts query')
      rw [frameOf_end hmeta, frameOf_end hmeta]
      refine ⟨by simp only [hstep], ?_⟩
      intro query
      by_cases hquery : query' = query
      · exact hquery ▸ hself
      · have hne : (client', query') ≠ (client', query) := fun heq => hquery (Prod.ext_iff.mp heq).2
        have hother := Countdown.remaining?_observe_of_ne (c := counts)
          (n := c.multiplicity.resultCount query') hne
        have hother' := Countdown.remaining?_observe_of_ne (c := counts')
          (n := c.multiplicity.resultCount query') hne
        exact hother.trans ((hcounts query).trans hother'.symm)

theorem remaining?_frameOf_of_ne (h : m.receiver? ≠ some client) :
    (c.frameOf counts m).2.remaining? client query = counts.remaining? client query := by
  cases m.content with
  | malformed e hmeta => rw [frameOf_malformed hmeta]
  | badRows client' query' e hmeta hbody => rw [frameOf_badRows hmeta hbody]
  | rows client' query' rows hmeta hbody => rw [frameOf_rows hmeta hbody]
  | ends client' query' hmeta =>
      rw [frameOf_end hmeta]
      apply Countdown.remaining?_observe_of_ne
      intro heq
      apply h
      simpa [Message.receiver?, hmeta] using (Prod.ext_iff.mp heq).1

end Consumer

/-! ## What a delivery is concerned with -/

/-- A request is about a client, or it goes to the connection that was found for the client. -/
inductive Outlet.Concerns (client : ClientId) (found : Option Handle) : Outlet.Request → Prop where
  | lookup : Concerns client found (.registry (.lookup client))
  | removeIfCurrent (handle : Handle) :
      Concerns client found (.registry (.removeIfCurrent client handle))
  | wire {handle : Handle} (request : Wire.Request) : found = some handle →
      Concerns client found (.wire handle request)

/-- Two deliveries left the same owed to the client, and nobody else was touched. -/
structure SameDebts (found : Option Handle) (owed owed' left left' : Debts) : Prop where
  own : ∀ handle, found = some handle → left handle = left' handle
  others : ∀ handle, found ≠ some handle → left handle = owed handle ∧ left' handle = owed' handle

namespace Consumer

open Program (Alike)

variable {c : Consumer} {client : ClientId} {found : Option Handle} {handle : Handle}
  {frame : ResultFrame} {owed owed' left left' : Debts}

/-- Delivers a frame on the connection that was found, if there is one. -/
def deliverOn (c : Consumer) (client : ClientId) (frame : ResultFrame) :
    Option Handle → Program Delivery DeliveryOutcome
  | none => return .noClient
  | some handle => do settle client handle (← Delivery.deliver handle frame c.ackTimeout)

theorem deliver_eq_deliverOn (c : Consumer) (client : ClientId) (frame : ResultFrame) :
    c.deliver client frame = Delivery.lookup client >>= c.deliverOn client frame := by
  rw [deliver_eq]
  apply congrArg
  funext found
  cases found with
  | none => rfl
  | some handle => rfl

theorem alike_wire {α : Type} (p : Program Wire α) :
    Alike (Outlet.Concerns client (some handle)) Eq (p.interpret (Outlet.wire handle))
      (p.interpret (Outlet.wire handle)) := by
  induction p with
  | done a => exact .done rfl
  | perform request next ih => exact .perform (.wire request rfl) ih

theorem alike_deliver (howed : owed handle = owed' handle) (timeout : Nat) :
    Alike (Outlet.Concerns client (some handle))
      (fun a b => a.1 = b.1 ∧ SameDebts (some handle) owed owed' a.2 b.2)
      (Outlet.program (Delivery.deliver handle frame timeout) owed)
      (Outlet.program (Delivery.deliver handle frame timeout) owed') := by
  rw [Outlet.program_deliver, Outlet.program_deliver, Outlet.deliver, Outlet.deliver, howed]
  refine (alike_wire _).bind ?_
  rintro ⟨outcome, left⟩ _ rfl
  refine .done ⟨rfl, ?_, ?_⟩
  · intro other hfound
    cases hfound
    simp
  · intro other hfound
    have hne : other ≠ handle := fun heq => hfound (congrArg some heq.symm)
    simp [hne]

theorem alike_settle (hleft : SameDebts (some handle) owed owed' left left')
    (reply : Except WireError AckOutcome) :
    Alike (Outlet.Concerns client (some handle))
      (fun a b => a.1 = b.1 ∧ SameDebts (some handle) owed owed' a.2 b.2)
      (Outlet.program (settle client handle reply) left)
      (Outlet.program (settle client handle reply) left') := by
  rcases reply with e | ⟨_ | reply | _ | _⟩
  · by_cases hlost : e.losesConnection = true
    · simp only [settle, hlost, if_true]
      exact .perform (.removeIfCurrent handle) fun _ => .done ⟨rfl, hleft⟩
    · simp only [settle, hlost]
      exact .done ⟨rfl, hleft⟩
  · exact .done ⟨rfl, hleft⟩
  · exact .done ⟨rfl, hleft⟩
  · exact .done ⟨rfl, hleft⟩
  · refine .perform (.removeIfCurrent handle) fun current => ?_
    cases current with
    | false => exact .done ⟨rfl, hleft⟩
    | true => exact .perform (.wire .shutdown rfl) fun _ => .done ⟨rfl, hleft⟩

/-- A delivery is concerned with its client and with the connection that was found. -/
theorem alike_deliverOn (c : Consumer) (client : ClientId) (frame : ResultFrame)
    (howed : ∀ handle, found = some handle → owed handle = owed' handle) :
    Alike (Outlet.Concerns client found)
      (fun a b => a.1 = b.1 ∧ SameDebts found owed owed' a.2 b.2)
      (Outlet.program (c.deliverOn client frame found) owed)
      (Outlet.program (c.deliverOn client frame found) owed') := by
  cases found with
  | none => exact .done ⟨rfl, nofun, fun _ _ => ⟨rfl, rfl⟩⟩
  | some handle =>
      rw [deliverOn, Outlet.program_bind, Outlet.program_bind]
      refine (alike_deliver (howed handle rfl) c.ackTimeout).bind ?_
      rintro ⟨reply, left⟩ ⟨_, left'⟩ ⟨rfl, hleft⟩
      exact alike_settle hleft reply

/-- A turn on a message that is passed on looks its client up, and then delivers. -/
theorem turn_of_deliverOn {w : World Outlet} {s : Dispatch} {m : Message} {counts : Countdown}
    (h : c.frameOf s.counts m = (.ok (client, frame), counts)) :
    c.turn w s m =
      let found := w.registered s.past client
      let lookup : Exchange Outlet := ⟨.registry (.lookup client), found⟩
      let run := w.play (s.past ++ [lookup])
        (Outlet.program (c.deliverOn client frame found) s.owed)
      (⟨m, lookup :: run.2, run.1.1⟩, ⟨counts, run.1.2, s.past ++ lookup :: run.2⟩) := by
  have hlookup : w.play s.past (Outlet.program (Delivery.lookup client) s.owed) =
      ((w.registered s.past client, s.owed),
        [⟨.registry (.lookup client), w.registered s.past client⟩]) := rfl
  simp only [turn, program_process h, deliver_eq_deliverOn, Outlet.program_bind, World.play_bind,
    hlookup, World.play, List.append_nil, List.singleton_append]

end Consumer

/-! ## A registry, and connections that answer for themselves -/

namespace Registry

variable {r r' : Registry} {past log : List (Exchange Outlet)} {client other : ClientId}
  {found : Option Handle} {handle : Handle} {request : Outlet.Request}

/-- The registry after a request to it or to a connection. -/
def afterOutlet (r : Registry) : Outlet.Request → Registry
  | .registry request => r.after request
  | .wire _ _ => r

/-- The registry after everything that was asked. -/
def afterAll (r : Registry) (past : List (Exchange Outlet)) : Registry :=
  past.foldl (fun r e => r.afterOutlet e.request) r

theorem afterAll_append (first second : List (Exchange Outlet)) :
    r.afterAll (first ++ second) = (r.afterAll first).afterAll second :=
  List.foldl_append

theorem get?_afterOutlet_congr (h : r.get? client = r'.get? client) :
    (r.afterOutlet request).get? client = (r'.afterOutlet request).get? client := by
  cases request with
  | wire handle request => exact h
  | registry request =>
      cases request with
      | insert client' handle =>
          simp only [afterOutlet, after, get?_insert, h]
      | removeIfCurrent client' handle =>
          simp only [afterOutlet, after, get?_removeIfCurrent]
          by_cases hclient : client' = client
          · rw [hclient, h]
          · simp only [hclient, false_and, if_false, h]
      | drain => rfl
      | lookup client' => exact h
      | deliver handle frame timeout => exact h
      | close handle => exact h
      | stopping => exact h

/-- What is registered for a client after some requests depends on what was before them. -/
theorem get?_afterAll_congr (h : r.get? client = r'.get? client) :
    (r.afterAll log).get? client = (r'.afterAll log).get? client := by
  induction log generalizing r r' with
  | nil => exact h
  | cons e rest ih => exact ih (get?_afterOutlet_congr h)

/-- A delivery registers nobody. -/
theorem get?_of_afterOutlet (hconcerns : Outlet.Concerns other found request)
    (h : (r.afterOutlet request).get? client = some handle) : r.get? client = some handle := by
  cases hconcerns with
  | lookup => exact h
  | removeIfCurrent handle' => exact get?_of_removeIfCurrent h
  | wire request hfound => exact h

theorem get?_of_afterAll (hlog : ∀ e ∈ log, Outlet.Concerns other found e.request)
    (h : (r.afterAll log).get? client = some handle) : r.get? client = some handle := by
  induction log generalizing r with
  | nil => exact h
  | cons e rest ih =>
      obtain ⟨hconcerns, hrest⟩ := List.forall_mem_cons.mp hlog
      exact get?_of_afterOutlet hconcerns (ih hrest h)

/-- A delivery to one client takes no other one out. -/
theorem get?_afterOutlet_of_ne (hconcerns : Outlet.Concerns other found request)
    (hne : other ≠ client) : (r.afterOutlet request).get? client = r.get? client := by
  cases hconcerns with
  | lookup => rfl
  | removeIfCurrent handle' =>
      simp only [afterOutlet, after, get?_removeIfCurrent, hne, false_and, if_false]
  | wire request hfound => rfl

theorem get?_afterAll_of_ne (hlog : ∀ e ∈ log, Outlet.Concerns other found e.request)
    (hne : other ≠ client) : (r.afterAll log).get? client = r.get? client := by
  induction log generalizing r with
  | nil => rfl
  | cons e rest ih =>
      obtain ⟨hconcerns, hrest⟩ := List.forall_mem_cons.mp hlog
      exact (ih hrest).trans (get?_afterOutlet_of_ne hconcerns hne)

end Registry

/-- A delivery talks on no other connection than the one that was found. -/
theorem Outlet.traffic_of_concerns {log : List (Exchange Outlet)} {other : ClientId}
    {found : Option Handle} {handle : Handle} (hlog : ∀ e ∈ log, Concerns other found e.request)
    (hfound : found ≠ some handle) : traffic handle log = [] := by
  apply List.filterMap_eq_nil_iff.mpr
  rintro ⟨request, answer⟩ he
  cases hlog _ he with
  | lookup => rfl
  | removeIfCurrent handle' => rfl
  | @wire handle' request hhandle =>
      have hne : handle' ≠ handle := fun heq => hfound (heq ▸ hhandle)
      simp [onWire?, hne]

/-- A world in which only the delivery side changes the registry, and every connection answers in
view of its own history. -/
def World.separate (r : Registry) (peers : Handle → World Wire) : World Outlet
  | past, .wire handle request => peers handle (Outlet.traffic handle past) request
  | past, .registry (.lookup client) => (r.afterAll past).get? client
  | past, .registry (.insert client handle) => ((r.afterAll past).insert client handle).1
  | past, .registry (.removeIfCurrent client handle) =>
    ((r.afterAll past).removeIfCurrent client handle).1
  | past, .registry .drain => (r.afterAll past).drain.1
  | _, .registry (.deliver _ _ _) => .error .closed
  | _, .registry (.close _) => ()
  | _, .registry .stopping => false

/-- A client is registered alike after two pasts, and its connection has the same history. -/
structure SamePast (r : Registry) (client : ClientId) (found : Option Handle)
    (past past' : List (Exchange Outlet)) : Prop where
  registered : (r.afterAll past).get? client = (r.afterAll past').get? client
  traffic : ∀ handle, found = some handle →
    Outlet.traffic handle past = Outlet.traffic handle past'

namespace SamePast

variable {r : Registry} {client : ClientId} {found : Option Handle}
  {past past' log : List (Exchange Outlet)}

theorem append (h : SamePast r client found past past') (log : List (Exchange Outlet)) :
    SamePast r client found (past ++ log) (past' ++ log) := by
  constructor
  · rw [Registry.afterAll_append, Registry.afterAll_append]
    exact Registry.get?_afterAll_congr h.registered
  · intro handle hfound
    rw [Outlet.traffic_append, Outlet.traffic_append, h.traffic handle hfound]

theorem weaken {found' : Option Handle} (h : SamePast r client found past past')
    (hfound : ∀ handle, found' = some handle → found = some handle) :
    SamePast r client found' past past' :=
  ⟨h.registered, fun handle hget => h.traffic handle (hfound handle hget)⟩

theorem answer (peers : Handle → World Wire) {request : Outlet.Request}
    (h : SamePast r client found past past') (hconcerns : Outlet.Concerns client found request) :
    World.separate r peers past request = World.separate r peers past' request := by
  cases hconcerns with
  | lookup => exact h.registered
  | removeIfCurrent handle =>
      simp only [World.separate, Registry.removeIfCurrent, h.registered]
      split
      · rfl
      · rfl
  | wire request hfound => exact congrArg (peers _ · request) (h.traffic _ hfound)

end SamePast

/-! ## Two runs for one client -/

/-- Two states of the delivery side are the same as far as a client and its connection go. -/
structure SameFor (r : Registry) (client : ClientId) (start : Option Handle) (s s' : Dispatch) :
    Prop where
  counts : ∀ query, s.counts.remaining? client query = s'.counts.remaining? client query
  owed : ∀ handle, start = some handle → s.owed handle = s'.owed handle
  past : SamePast r client start s.past s'.past

namespace SameFor

variable {r : Registry} {client : ClientId} {start : Option Handle} {s s' s'' : Dispatch}

theorem refl (s : Dispatch) : SameFor r client start s s :=
  ⟨fun _ => rfl, fun _ _ => rfl, rfl, fun _ _ => rfl⟩

theorem symm (h : SameFor r client start s s') : SameFor r client start s' s :=
  ⟨fun query => (h.counts query).symm, fun handle hstart => (h.owed handle hstart).symm,
    h.past.registered.symm, fun handle hstart => (h.past.traffic handle hstart).symm⟩

theorem trans (h : SameFor r client start s s') (h' : SameFor r client start s' s'') :
    SameFor r client start s s'' :=
  ⟨fun query => (h.counts query).trans (h'.counts query),
    fun handle hstart => (h.owed handle hstart).trans (h'.owed handle hstart),
    h.past.registered.trans h'.past.registered,
    fun handle hstart => (h.past.traffic handle hstart).trans (h'.past.traffic handle hstart)⟩

end SameFor

/-- The connection that a client had at the start is nobody else's, and the client has no other. -/
structure Apart (r : Registry) (client : ClientId) (start : Option Handle)
    (past : List (Exchange Outlet)) : Prop where
  own : ∀ handle, (r.afterAll past).get? client = some handle → start = some handle
  others : ∀ other handle, other ≠ client → (r.afterAll past).get? other = some handle →
    start ≠ some handle

theorem Apart.append {r : Registry} {client other : ClientId} {start found : Option Handle}
    {past log : List (Exchange Outlet)} (h : Apart r client start past)
    (hlog : ∀ e ∈ log, Outlet.Concerns other found e.request) :
    Apart r client start (past ++ log) := by
  constructor
  · intro handle hget
    rw [Registry.afterAll_append] at hget
    exact h.own handle (Registry.get?_of_afterAll hlog hget)
  · intro other' handle hne hget
    rw [Registry.afterAll_append] at hget
    exact h.others other' handle hne (Registry.get?_of_afterAll hlog hget)

namespace Consumer

variable {c : Consumer} {r : Registry} {peers : Handle → World Wire} {client other : ClientId}
  {start : Option Handle} {s s' : Dispatch} {m : Message} {ms : List Message} {w : World Outlet}

/-- What is asked in a turn concerns the client of the message. -/
theorem concerns_turn {frame : ResultFrame} {counts : Countdown}
    (h : c.frameOf s.counts m = (.ok (other, frame), counts)) :
    (∀ e ∈ (c.turn w s m).1.log,
      Outlet.Concerns other (w.registered s.past other) e.request) ∧
    ∀ handle, w.registered s.past other ≠ some handle →
      (c.turn w s m).2.owed handle = s.owed handle := by
  rw [turn_of_deliverOn h]
  have halike := alike_deliverOn c other frame (fun handle _ => rfl :
    ∀ handle, w.registered s.past other = some handle → s.owed handle = s.owed handle)
  obtain ⟨⟨_, -, hdebts⟩, hlog⟩ := halike.of_run (w.run_play _ _)
  exact ⟨List.forall_mem_cons.mpr ⟨.lookup, hlog⟩, fun handle hne => (hdebts.others handle hne).1⟩

theorem apart_turn (h : Apart r client start s.past) :
    Apart r client start (c.turn w s m).2.past := by
  cases hframe : c.frameOf s.counts m with
  | mk result counts =>
      rcases result with outcome | ⟨other, frame⟩
      · rw [turn_of_error hframe]
        exact h
      · exact h.append (concerns_turn hframe).1

/-- A turn on somebody else's message changes nothing for a client. -/
theorem turn_other (c : Consumer) (peers : Handle → World Wire)
    (hreceiver : m.receiver? ≠ some client) (hapart : Apart r client start s.past) :
    SameFor r client start (c.turn (.separate r peers) s m).2 s := by
  have hcounts : ∀ query, (c.turn (.separate r peers) s m).2.counts.remaining? client query =
      s.counts.remaining? client query := by
    intro query
    rw [counts_turn]
    exact remaining?_frameOf_of_ne hreceiver
  cases hframe : c.frameOf s.counts m with
  | mk result counts =>
      rcases result with outcome | ⟨other, frame⟩
      · rw [turn_of_error hframe] at hcounts ⊢
        exact ⟨hcounts, fun _ _ => rfl, rfl, fun _ _ => rfl⟩
      · obtain ⟨hlog, howed⟩ := concerns_turn (w := .separate r peers) hframe
        have hne : other ≠ client := by
          rintro rfl
          exact hreceiver (receiver_of_frameOf (congrArg Prod.fst hframe))
        have hfound : ∀ handle, start = some handle →
            (World.separate r peers).registered s.past other ≠ some handle :=
          fun handle hstart hget => hapart.others other handle hne hget hstart
        refine ⟨hcounts, fun handle hstart => howed handle (hfound handle hstart), ?_, ?_⟩
        · rw [past_turn, Registry.afterAll_append]
          exact Registry.get?_afterAll_of_ne hlog hne
        · intro handle hstart
          rw [past_turn, Outlet.traffic_append,
            Outlet.traffic_of_concerns hlog (hfound handle hstart), List.append_nil]

/-- The turns on a client's message are the same after pasts that are the same for the client. -/
theorem turn_own (c : Consumer) (peers : Handle → World Wire)
    (hreceiver : m.receiver? = some client) (hapart : Apart r client start s.past)
    (hsame : SameFor r client start s s') :
    (c.turn (.separate r peers) s m).1 = (c.turn (.separate r peers) s' m).1 ∧
      SameFor r client start (c.turn (.separate r peers) s m).2
        (c.turn (.separate r peers) s' m).2 := by
  obtain ⟨hresult, hcounts⟩ := frameOf_congr (c := c) hreceiver hsame.counts
  cases hframe : c.frameOf s.counts m with
  | mk result counts =>
  cases hframe' : c.frameOf s'.counts m with
  | mk result' counts' =>
      rw [hframe, hframe'] at hresult hcounts
      obtain rfl : result = result' := hresult
      rcases result with outcome | ⟨other, frame⟩
      · rw [turn_of_error hframe, turn_of_error hframe']
        exact ⟨rfl, hcounts, hsame.owed, hsame.past⟩
      · obtain rfl : other = client := by
          have hother := receiver_of_frameOf (congrArg Prod.fst hframe)
          exact Option.some.inj (hother.symm.trans hreceiver)
        have hfound : (World.separate r peers).registered s.past other =
            (World.separate r peers).registered s'.past other := hsame.past.registered
        have hown : ∀ handle,
            (World.separate r peers).registered s'.past other = some handle → start = some handle :=
          fun handle hget => hapart.own handle (hfound.trans hget)
        rw [turn_of_deliverOn hframe, turn_of_deliverOn hframe', hfound]
        generalize (World.separate r peers).registered s'.past other = found at hown
        let lookup : Exchange Outlet := ⟨.registry (.lookup other), found⟩
        have howed : ∀ handle, found = some handle → s.owed handle = s'.owed handle :=
          fun handle hget => hsame.owed handle (hown handle hget)
        obtain ⟨⟨houtcome, hdebts⟩, hlog, -⟩ := World.play_alike (A := SamePast r other found)
          (fun _ _ _ => SamePast.answer peers) (fun _ _ e h _ => h.append [e])
          (alike_deliverOn c other frame howed) ((hsame.past.append [lookup]).weaken hown)
        dsimp only
        rw [houtcome, hlog]
        refine ⟨rfl, hcounts, ?_, hsame.past.append _⟩
        intro handle hstart
        by_cases hget : found = some handle
        · exact hdebts.own handle hget
        · obtain ⟨hleft, hleft'⟩ := hdebts.others handle hget
          exact hleft.trans ((hsame.owed handle hstart).trans hleft'.symm)

theorem message_turn : (c.turn w s m).1.message = m := rfl

theorem turns_cons : c.turns w (m :: ms) s =
    ((c.turn w s m).1 :: (c.turns w ms (c.turn w s m).2).1,
      (c.turns w ms (c.turn w s m).2).2) := rfl

/-- A client's turns are those that its messages get when they are alone. -/
theorem turns_filter (c : Consumer) (peers : Handle → World Wire) (ms : List Message)
    (hapart : Apart r client start s.past) (hapart' : Apart r client start s'.past)
    (hsame : SameFor r client start s s') :
    (c.turns (.separate r peers) ms s).1.filter (·.message.addressedTo client) =
        (c.turns (.separate r peers) (ms.filter (·.addressedTo client)) s').1 ∧
      SameFor r client start (c.turns (.separate r peers) ms s).2
        (c.turns (.separate r peers) (ms.filter (·.addressedTo client)) s').2 := by
  induction ms generalizing s s' with
  | nil => exact ⟨rfl, hsame⟩
  | cons m ms ih =>
      by_cases hfor : m.addressedTo client = true
      · obtain ⟨hturn, hafter⟩ := turn_own c peers (Message.addressedTo_iff.mp hfor)
          hapart hsame
        obtain ⟨hturns, hlast⟩ := ih (apart_turn hapart) (apart_turn hapart') hafter
        simp only [List.filter_cons, turns_cons, message_turn, hfor, if_true]
        exact ⟨by rw [hturn, hturns], hlast⟩
      · have hother := turn_other c peers
          (fun hreceiver => hfor (Message.addressedTo_iff.mpr hreceiver)) hapart
        simp only [List.filter_cons, turns_cons, message_turn, hfor]
        exact ih (apart_turn hapart) hapart' (hother.trans hsame)

end Consumer

/-- Two runs of the delivery side are the same for a client that had a connection, or none, at the
start. -/
structure SameStream (r : Registry) (client : ClientId) (start : Option Handle)
    (run run' : List Turn × Dispatch) : Prop where
  /-- What was asked in the turns on the client's messages, and the outcomes of these. -/
  turns : run.1.filter (·.message.addressedTo client) = run'.1.filter (·.message.addressedTo client)
  /-- Everything on the client's connection, the frames among it. -/
  traffic : ∀ handle, start = some handle →
    Outlet.traffic handle run.2.past = Outlet.traffic handle run'.2.past
  counts : ∀ query, run.2.counts.remaining? client query = run'.2.counts.remaining? client query
  registered : (r.afterAll run.2.past).get? client = (r.afterAll run'.2.past).get? client

/-- If no other client has the connection of a client, then what comes of this client's messages is
a matter of these messages alone. -/
theorem client_isolated {c : Consumer} {r : Registry} {peers : Handle → World Wire}
    {client : ClientId} {s : Dispatch} {ms ms' : List Message}
    (halone : ∀ other handle, other ≠ client → (r.afterAll s.past).get? other = some handle →
      (r.afterAll s.past).get? client ≠ some handle)
    (hmessages : ms.filter (·.addressedTo client) = ms'.filter (·.addressedTo client)) :
    SameStream r client ((r.afterAll s.past).get? client)
      (c.turns (.separate r peers) ms s) (c.turns (.separate r peers) ms' s) := by
  have hapart : Apart r client ((r.afterAll s.past).get? client) s.past :=
    ⟨fun _ hget => hget, halone⟩
  obtain ⟨hturns, hsame⟩ := Consumer.turns_filter c peers ms hapart hapart (.refl s)
  obtain ⟨hturns', hsame'⟩ := Consumer.turns_filter c peers ms' hapart hapart (.refl s)
  rw [← hmessages] at hturns' hsame'
  have hboth := hsame.trans hsame'.symm
  exact ⟨hturns.trans hturns'.symm, hboth.past.traffic, hboth.counts, hboth.past.registered⟩

/-- A connection all of whose reads come out so. -/
def World.answering (read : Option (Except WireError String)) : World Wire
  | _, .read => read.getD (.error .closed)
  | _, .readWithin _ => read
  | _, .write _ => .ok ()
  | _, .shutdown => ()

/-- One client answers every frame and another one none, so that the latter is taken out. -/
theorem client_isolated_of_silent_neighbour :
    let c : Consumer := ⟨⟨.empty, .ofList [(⟨"Q"⟩, 1)]⟩, 1000⟩
    let r : Registry := ((Registry.empty.insert ⟨"one"⟩ ⟨7⟩).2.insert ⟨"two"⟩ ⟨8⟩).2
    let peers : Handle → World Wire := fun handle =>
      .answering (if handle = ⟨7⟩ then some (.ok resultAck) else none)
    let start : Dispatch := ⟨.empty, fun _ => 0, []⟩
    let alone : List Message := [.result ⟨"Q"⟩ ⟨"one"⟩ (.ofText "row"), .resultEnd ⟨"Q"⟩ ⟨"one"⟩]
    let mixed : List Message := [.raw [], .result ⟨"Q"⟩ ⟨"two"⟩ (.ofText "row"),
      .result ⟨"Q"⟩ ⟨"one"⟩ (.ofText "row"), .resultEnd ⟨"Q"⟩ ⟨"two"⟩, .resultEnd ⟨"Q"⟩ ⟨"one"⟩]
    let run := c.turns (.separate r peers) mixed start
    SameStream r ⟨"one"⟩ (some ⟨7⟩) run (c.turns (.separate r peers) alone start) ∧
      Wire.sent (Outlet.traffic ⟨7⟩ run.2.past) = ["Q\nrow", "Q\nEOF"] ∧
      (r.afterAll run.2.past).get? ⟨"two"⟩ = none := by
  intro c r peers start alone mixed run
  have hentries : ∀ other, r.get? other =
      if (⟨"two"⟩ : ClientId) = other then some ⟨8⟩
      else if (⟨"one"⟩ : ClientId) = other then some ⟨7⟩ else none := by
    intro other
    rw [Registry.get?_insert, Registry.get?_insert]
    rfl
  have halone : ∀ other handle, other ≠ (⟨"one"⟩ : ClientId) →
      (r.afterAll start.past).get? other = some handle →
      (r.afterAll start.past).get? ⟨"one"⟩ ≠ some handle := by
    intro other handle hne hget
    change r.get? other = some handle at hget
    change r.get? ⟨"one"⟩ ≠ some handle
    rw [hentries, if_neg (Ne.symm hne)] at hget
    split at hget
    · obtain rfl := Option.some.inj hget
      decide
    · cases hget
  have hmessages : mixed.filter (·.addressedTo ⟨"one"⟩) = alone.filter (·.addressedTo ⟨"one"⟩) := by
    rfl
  exact ⟨client_isolated halone hmessages, by rfl, by rfl⟩

end QueryGateway
