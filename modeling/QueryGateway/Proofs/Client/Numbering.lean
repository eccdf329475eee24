import QueryGateway.Proofs.Ingest.Calls
import QueryGateway.Proofs.Wire.Emission

/-! # The numbers of a producer's batches

Whoever is at the other end of the connection, and whatever comes of the calls, the batches that
were acknowledged are numbered from zero, and the next frame bears the next number. A call writes
one frame and reads one answer, or less if it fails before.
-/

namespace QueryGateway

namespace Producer

/-! ## One call -/

/-- What is exchanged for one frame, and what comes of it. -/
inductive Posts (frame : String) (ack : Ack) :
    List (Exchange Wire) → Except ClientError Unit → Prop where
  | unwritten (e : WireError) : Posts frame ack [⟨.write frame, .error e⟩] (.error (.wire e))
  | unanswered (e : WireError) :
      Posts frame ack [⟨.write frame, .ok ()⟩, ⟨.read, .error e⟩] (.error (.wire e))
  | mismatched {received : String} : Ack.parse received ≠ .ok ack →
      Posts frame ack [⟨.write frame, .ok ()⟩, ⟨.read, .ok received⟩]
        (.error (.ackMismatch ack.text received))
  | acknowledged {received : String} : Ack.parse received = .ok ack →
      Posts frame ack [⟨.write frame, .ok ()⟩, ⟨.read, .ok received⟩] (.ok ())

theorem checkAck_of_ne {expected : Ack} {received : String}
    (h : Ack.parse received ≠ .ok expected) :
    checkAck expected received = .error (.ackMismatch expected.text received) := by
  rw [checkAck]
  cases hparse : Ack.parse received with
  | error e => rfl
  | ok ack =>
      have hne : ack ≠ expected := fun heq => h (heq ▸ hparse)
      exact if_neg hne

/-- The runs of a send are these. -/
theorem run_send_iff {h : Header} {records : List String} {log : List (Exchange Wire)}
    {result : Except ClientError Unit} :
    (send h records).Run log result ↔
      Posts (Batch.encode h records) (.ofHeader h) log result := by
  rw [send_eq]
  constructor
  · intro hrun
    obtain ⟨written, rest, rfl, hrest⟩ := Program.Run.perform_iff.mp hrun
    cases written with
    | error e =>
        obtain ⟨rfl, rfl⟩ := Program.Run.done_iff.mp hrest
        exact .unwritten e
    | ok u =>
        obtain ⟨received, last, rfl, hlast⟩ := Program.Run.perform_iff.mp hrest
        cases received with
        | error e =>
            obtain ⟨rfl, rfl⟩ := Program.Run.done_iff.mp hlast
            exact .unanswered e
        | ok received =>
            obtain ⟨rfl, hresult⟩ := Program.Run.done_iff.mp hlast
            by_cases hack : Ack.parse received = .ok (.ofHeader h)
            · rw [hresult, checkAck_eq_ok_iff.mpr hack]
              exact .acknowledged hack
            · rw [hresult, checkAck_of_ne hack]
              exact .mismatched hack
  · intro hposts
    cases hposts with
    | unwritten e => exact Program.Run.perform_iff.mpr ⟨.error e, _, rfl, .done _⟩
    | unanswered e =>
        exact Program.Run.perform_iff.mpr
          ⟨.ok (), _, rfl, Program.Run.perform_iff.mpr ⟨.error e, _, rfl, .done _⟩⟩
    | @mismatched received hne =>
        rw [← checkAck_of_ne hne]
        exact Program.Run.perform_iff.mpr
          ⟨.ok (), _, rfl, Program.Run.perform_iff.mpr ⟨.ok received, _, rfl, .done _⟩⟩
    | @acknowledged received hack =>
        rw [← checkAck_eq_ok_iff.mpr hack]
        exact Program.Run.perform_iff.mpr
          ⟨.ok (), _, rfl, Program.Run.perform_iff.mpr ⟨.ok received, _, rfl, .done _⟩⟩

/-- The failure of a call. -/
def Call.failure (e : ClientError) : Call → Reply
  | batch _ _ => .batch (.error e)
  | finish _ => .finish (.error e)

/-- The failure that a call has ended with. -/
def Reply.error? : Reply → Option ClientError
  | batch (.error e) => some e
  | finish (.error e) => some e
  | batch (.ok _) | finish (.ok _) => none

/-- What is exchanged for a call, what it returns, and what becomes of the producer. -/
inductive Call.Course (p : Producer) (call : Call) :
    List (Exchange Wire) → Reply → Producer → Prop where
  | refused {e : ClientError} : p.checkQueries call.queries = .error e →
      Course p call [] (call.failure e) p
  | failed {log : List (Exchange Wire)} {e : ClientError} :
      p.checkQueries call.queries = .ok () →
      Posts (call.frame p) (.ofHeader (call.header p)) log (.error e) →
      Course p call log (call.failure e) p
  | done {log : List (Exchange Wire)} : p.checkQueries call.queries = .ok () →
      Posts (call.frame p) (.ofHeader (call.header p)) log (.ok ()) →
      Course p call log (call.reply p) (call.next p)

/-- A call is refused, or it sends its frame. -/
theorem Call.run_eq (p : Producer) (call : Call) :
    call.run p = match p.checkQueries call.queries with
      | .error e => .done (call.failure e, p)
      | .ok () => send (call.header p) call.records >>= fun
        | .error e => .done (call.failure e, p)
        | .ok () => .done (call.reply p, call.next p) := by
  cases call with
  | batch queries records =>
      rw [run, sendBatch, Call.queries]
      cases p.checkQueries queries with
      | error e => rfl
      | ok u =>
          refine (Program.bind_assoc _ _ _).trans (congrArg (_ >>= ·) (funext fun result => ?_))
          cases result <;> rfl
  | finish queries =>
      rw [run, sendEnd, Call.queries]
      cases p.checkQueries queries with
      | error e => rfl
      | ok u =>
          refine congrArg (_ >>= ·) (funext fun result => ?_)
          cases result <;> rfl

/-- The runs of a call are these. -/
theorem Call.run_iff {p p' : Producer} {call : Call} {log : List (Exchange Wire)}
    {reply : Reply} : (call.run p).Run log (reply, p') ↔ call.Course p log reply p' := by
  rw [run_eq]
  constructor
  · intro hrun
    cases hcheck : p.checkQueries call.queries with
    | error e =>
        rw [hcheck] at hrun
        obtain ⟨rfl, heq⟩ := Program.Run.done_iff.mp hrun
        obtain ⟨rfl, rfl⟩ := Prod.mk.inj heq
        exact .refused hcheck
    | ok u =>
        rw [hcheck] at hrun
        obtain ⟨result, first, second, rfl, hsend, hdone⟩ := Program.Run.bind_iff.mp hrun
        cases result with
        | error e =>
            obtain ⟨rfl, heq⟩ := Program.Run.done_iff.mp hdone
            obtain ⟨rfl, rfl⟩ := Prod.mk.inj heq
            rw [List.append_nil]
            exact .failed hcheck (run_send_iff.mp hsend)
        | ok _ =>
            obtain ⟨rfl, heq⟩ := Program.Run.done_iff.mp hdone
            obtain ⟨rfl, rfl⟩ := Prod.mk.inj heq
            rw [List.append_nil]
            exact .done hcheck (run_send_iff.mp hsend)
  · intro hcourse
    cases hcourse with
    | refused hcheck =>
        rw [hcheck]
        exact .done _
    | failed hcheck hposts =>
        rw [hcheck]
        exact Program.Run.bind_iff.mpr
          ⟨_, _, [], (List.append_nil _).symm, run_send_iff.mpr hposts, .done _⟩
    | done hcheck hposts =>
        rw [hcheck]
        exact Program.Run.bind_iff.mpr
          ⟨_, _, [], (List.append_nil _).symm, run_send_iff.mpr hposts, .done _⟩

theorem checkQueries_eq_error_iff {p : Producer} {queries : List QueryId} {e : ClientError} :
    p.checkQueries queries = .error e ↔
      p.entity.isPrimary = false ∧ 1 < queries.length ∧
        e = .tooManyQueries p.entity queries.length := by
  rw [checkQueries]
  by_cases hmany : p.entity.isPrimary = false ∧ 1 < queries.length
  · simp [hmany, eq_comm]
  · cases hprimary : p.entity.isPrimary with
    | true => simp
    | false =>
        have hone : ¬1 < queries.length := fun h => hmany ⟨hprimary, h⟩
        simp [hone]

@[simp] theorem error?_failure (e : ClientError) (call : Call) :
    (call.failure e).error? = some e := by
  cases call <;> rfl

@[simp] theorem number?_failure (e : ClientError) (call : Call) :
    (call.failure e).number? = none := by
  cases call <;> rfl

@[simp] theorem error?_reply (p : Producer) (call : Call) : (call.reply p).error? = none := by
  cases call <;> rfl

/-! ## The bytes of a call -/

/-- What is exchanged for one frame, the bytes that it puts on the wire, and what comes of it. -/
inductive Transfers (frame : String) :
    List (Exchange Wire) → Bytes → Except ClientError Unit → Prop where
  | tooLong : ¬Fits frame →
      Transfers frame
        [⟨.write frame, .error (.frameTooLarge frame.utf8ByteSize maxFrameLength)⟩] []
        (.error (.wire (.frameTooLarge frame.utf8ByteSize maxFrameLength)))
  | broken {part : Bytes} (fault : Fault) : part <+: frameBytes (.ofText frame) →
      Transfers frame [⟨.write frame, .error (.io fault)⟩] part (.error (.wire (.io fault)))
  | answered {answer : Except WireError String} {result : Except ClientError Unit} : Fits frame →
      (∀ length limit, result ≠ .error (.wire (.frameTooLarge length limit))) →
      Transfers frame [⟨.write frame, .ok ()⟩, ⟨.read, answer⟩] (frameBytes (.ofText frame)) result

theorem puts_write_read {frame : String} {answer : Except WireError String} {parts : List Bytes}
    (h : List.Forall₂ Wire.Puts [⟨.write frame, .ok ()⟩, ⟨.read, answer⟩] parts) :
    Fits frame ∧ parts.flatten = frameBytes (.ofText frame) ∧
      ∀ length limit, answer ≠ .error (.frameTooLarge length limit) := by
  obtain ⟨first, _, hfirst, hrest, rfl⟩ := List.forall₂_cons_left_iff.mp h
  obtain ⟨second, _, hsecond, hnil, rfl⟩ := List.forall₂_cons_left_iff.mp hrest
  obtain rfl := List.forall₂_nil_left_iff.mp hnil
  cases hfirst with
  | written hfits =>
      cases hsecond with
      | read hread => exact ⟨hfits, by simp, hread⟩

theorem Posts.transfers {frame : String} {ack : Ack} {log : List (Exchange Wire)}
    {result : Except ClientError Unit} {parts : List Bytes} (h : Posts frame ack log result)
    (hputs : List.Forall₂ Wire.Puts log parts) : Transfers frame log parts.flatten result := by
  cases h with
  | unwritten e =>
      obtain ⟨part, _, hpart, hnil, rfl⟩ := List.forall₂_cons_left_iff.mp hputs
      obtain rfl := List.forall₂_nil_left_iff.mp hnil
      rw [List.flatten_cons, List.flatten_nil, List.append_nil]
      cases hpart with
      | tooLong hlong => exact .tooLong hlong
      | broken fault hprefix => exact .broken fault hprefix
  | unanswered e =>
      obtain ⟨hfits, hout, hread⟩ := puts_write_read hputs
      rw [hout]
      refine .answered hfits fun length limit heq => hread length limit ?_
      rw [ClientError.wire.inj (Except.error.inj heq)]
  | mismatched hne =>
      obtain ⟨hfits, hout, -⟩ := puts_write_read hputs
      rw [hout]
      exact .answered hfits fun _ _ heq => by cases heq
  | acknowledged hack =>
      obtain ⟨hfits, hout, -⟩ := puts_write_read hputs
      rw [hout]
      exact .answered hfits fun _ _ heq => by cases heq

namespace Transfers

variable {frame : String} {log : List (Exchange Wire)} {out : Bytes}
  {result : Except ClientError Unit}

theorem not_fits {length limit : Nat}
    (h : Transfers frame log out (.error (.wire (.frameTooLarge length limit)))) :
    ¬Fits frame ∧ out = [] := by
  generalize hresult : (.error (.wire (.frameTooLarge length limit)) : Except ClientError Unit) =
    result at h
  cases h with
  | tooLong hlong => exact ⟨hlong, rfl⟩
  | broken => cases hresult
  | answered _ hne => exact absurd hresult.symm (hne length limit)

theorem of_ne (h : Transfers frame log out result)
    (hne : ∀ length limit, result ≠ .error (.wire (.frameTooLarge length limit))) :
    (∃ answer, log = [⟨.write frame, .ok ()⟩, ⟨.read, answer⟩] ∧
      out = frameBytes (.ofText frame)) ∨
    ∃ fault, log = [⟨.write frame, .error (.io fault)⟩] ∧ result = .error (.wire (.io fault)) ∧
      out <+: frameBytes (.ofText frame) := by
  cases h with
  | tooLong _ => exact absurd rfl (hne _ _)
  | broken fault hpart => exact .inr ⟨fault, rfl, rfl, hpart⟩
  | answered _ _ => exact .inl ⟨_, rfl, rfl⟩

end Transfers

theorem Posts.ne_tooManyQueries {frame : String} {ack : Ack} {log : List (Exchange Wire)}
    {e : ClientError} (h : Posts frame ack log (.error e)) (entity : Entity) (count : Nat) :
    e ≠ .tooManyQueries entity count := by
  rintro rfl
  cases h

/-! ## Calls one after the other, on a connection to whomever -/

/-- A call, what was exchanged for it and put on the wire, and what came of it. -/
structure Turn where
  before : Producer
  call : Call
  log : List (Exchange Wire)
  out : Bytes
  reply : Reply
  after : Producer

/-- A producer is called once for each turn. What arrives on the connection, when, and whether it
breaks, is up to the other side and the network. -/
inductive Dialogue : Producer → Channel → List Turn → Prop where
  | nil (p : Producer) (c : Channel) : Dialogue p c []
  | cons {p p' : Producer} {c c' : Channel} {call : Call} {arrived out : Bytes}
      {log : List (Exchange Wire)} {reply : Reply} {rest : List Turn} :
      (call.run p).Run log (reply, p') → c.Sends arrived log out c' → Dialogue p' c' rest →
      Dialogue p c (⟨p, call, log, out, reply, p'⟩ :: rest)

namespace Turn

/-- The number that a call has returned, of those that have. -/
def number? (t : Turn) : Option UInt64 := t.reply.number?

/-- How many batches were acknowledged. -/
def successes (turns : List Turn) : Nat :=
  turns.countP fun t => t.number?.isSome

/-- What a call does of a producer that has sent `n` batches with success. -/
structure Lawful (entity : Entity) (client : ClientId) (n : Nat) (t : Turn) : Prop where
  before : t.before = ⟨entity, client, UInt64.ofNat n⟩
  /-- The frame of a batch bears the number `n`. -/
  frame : ∀ queries records, t.call = .batch queries records → t.call.frame t.before =
    Batch.encode ⟨queries, entity, client, .batch (UInt64.ofNat n)⟩ records
  /-- A batch that succeeds returns its number, and the next one has the number after it. -/
  number : ∀ id, t.number? = some id →
    id = UInt64.ofNat n ∧ t.after = ⟨entity, client, UInt64.ofNat (n + 1)⟩
  /-- Any other call, and one that fails, leaves the next number as it is. -/
  kept : t.number? = none → t.after = t.before
  /-- Several queries are too many for records of another kind than the primary one. Then nothing
  is asked of the connection. -/
  refused_iff : (∃ kind count, t.reply.error? = some (.tooManyQueries kind count)) ↔
    entity.isPrimary = false ∧ 1 < t.call.queries.length
  refused : ∀ kind count, t.reply.error? = some (.tooManyQueries kind count) →
    t.log = [] ∧ t.out = []
  /-- A frame that is too long is not begun. -/
  tooLong : ∀ length limit, t.reply.error? = some (.wire (.frameTooLarge length limit)) →
    ¬Fits (t.call.frame t.before) ∧ t.out = []
  /-- Any other call writes its frame, once and in full, and then reads at most one answer, unless
  the write fails. -/
  framed : (∀ kind count, t.reply.error? ≠ some (.tooManyQueries kind count)) →
    (∀ length limit, t.reply.error? ≠ some (.wire (.frameTooLarge length limit))) →
    (∃ answer, t.log = [⟨.write (t.call.frame t.before), .ok ()⟩, ⟨.read, answer⟩] ∧
      t.out = frameBytes (.ofText (t.call.frame t.before))) ∨
    ∃ fault, t.log = [⟨.write (t.call.frame t.before), .error (.io fault)⟩] ∧
      t.reply.error? = some (.wire (.io fault)) ∧
      t.out <+: frameBytes (.ofText (t.call.frame t.before))
  /-- A call succeeds only if the answer says just what it should. -/
  checked : t.reply.error? = none → ∃ received,
    t.log = [⟨.write (t.call.frame t.before), .ok ()⟩, ⟨.read, .ok received⟩] ∧
      Ack.parse received = .ok (.ofHeader (t.call.header t.before))

variable {entity : Entity} {client : ClientId} {n : Nat} {t : Turn} {turns : List Turn}

@[simp] theorem successes_cons (t : Turn) (turns : List Turn) :
    successes (t :: turns) = successes [t] + successes turns := by
  simp [successes, List.countP_cons, Nat.add_comm]

theorem filterMap_number?_cons (t : Turn) (turns : List Turn) :
    (t :: turns).filterMap number? = t.number?.toList ++ turns.filterMap number? := by
  cases hnumber : t.number? with
  | none => simp [hnumber]
  | some id => simp [hnumber]

/-- The next number goes up by one with each batch that succeeds. -/
theorem Lawful.after_eq (h : t.Lawful entity client n) :
    t.after = ⟨entity, client, UInt64.ofNat (n + successes [t])⟩ := by
  cases hnumber : t.number? with
  | none => rw [h.kept hnumber, h.before, successes, List.countP_singleton, hnumber]; rfl
  | some id => rw [(h.number id hnumber).2, successes, List.countP_singleton, hnumber]; rfl

theorem Lawful.number?_toList (h : t.Lawful entity client n) :
    t.number?.toList = (List.range (successes [t])).map fun k => UInt64.ofNat (n + k) := by
  cases hnumber : t.number? with
  | none => simp [successes, hnumber]
  | some id => simp [successes, hnumber, (h.number id hnumber).1, List.range_succ]

theorem lawful_of_course {call : Call} {log : List (Exchange Wire)} {parts : List Bytes}
    {reply : Reply} {p' : Producer}
    (hcourse : call.Course ⟨entity, client, UInt64.ofNat n⟩ log reply p')
    (hputs : List.Forall₂ Wire.Puts log parts) :
    Lawful entity client n
      ⟨⟨entity, client, UInt64.ofNat n⟩, call, log, parts.flatten, reply, p'⟩ := by
  have hfew : checkQueries ⟨entity, client, UInt64.ofNat n⟩ call.queries = .ok () →
      ¬(entity.isPrimary = false ∧ 1 < call.queries.length) := by
    rintro hcheck ⟨hprimary, hmany⟩
    rw [checkQueries_eq_error_iff.mpr ⟨hprimary, hmany, rfl⟩] at hcheck
    cases hcheck
  have hframe : ∀ queries records, call = .batch queries records →
      call.frame ⟨entity, client, UInt64.ofNat n⟩ =
        Batch.encode ⟨queries, entity, client, .batch (UInt64.ofNat n)⟩ records := by
    rintro queries records rfl
    rfl
  cases hcourse with
  | refused hcheck =>
      obtain ⟨hprimary, hmany, rfl⟩ := checkQueries_eq_error_iff.mp hcheck
      obtain rfl := List.forall₂_nil_left_iff.mp hputs
      exact {
        before := rfl
        frame := hframe
        number := by simp [number?]
        kept := fun _ => rfl
        refused_iff := by simp [hprimary, hmany]
        refused := fun _ _ _ => ⟨rfl, rfl⟩
        tooLong := by simp
        framed := fun h => absurd (by simp) (h entity call.queries.length)
        checked := by simp }
  | failed hcheck hposts =>
      have hother := hposts.ne_tooManyQueries
      have htransfers := hposts.transfers hputs
      exact {
        before := rfl
        frame := hframe
        number := by simp [number?]
        kept := fun _ => rfl
        refused_iff := by simp [hfew hcheck, hother]
        refused := by simp [hother]
        tooLong := by
          intro length limit herror
          rw [error?_failure] at herror
          obtain rfl := Option.some.inj herror
          exact htransfers.not_fits
        framed := by
          intro _ hshort
          rw [error?_failure] at hshort ⊢
          rcases htransfers.of_ne fun length limit heq =>
            hshort length limit (congrArg some (Except.error.inj heq)) with hsent | hbroken
          · exact .inl hsent
          · obtain ⟨fault, hlog, hresult, hpart⟩ := hbroken
            exact .inr ⟨fault, hlog, congrArg some (Except.error.inj hresult), hpart⟩
        checked := by simp }
  | done hcheck hposts =>
      exact {
        before := rfl
        frame := hframe
        number := by
          intro id hnumber
          cases call with
          | batch queries records =>
              obtain rfl := Option.some.inj hnumber
              refine ⟨rfl, ?_⟩
              rw [UInt64.ofNat_add]
              rfl
          | finish queries => cases hnumber
        kept := by
          intro hnumber
          cases call with
          | batch queries records => cases hnumber
          | finish queries => rfl
        refused_iff := by simp [hfew hcheck]
        refused := by simp
        tooLong := by simp
        framed := by
          intro _ _
          rcases (hposts.transfers hputs).of_ne (by simp) with hsent | ⟨_, _, hresult, -⟩
          · exact .inl hsent
          · cases hresult
        checked := by
          intro _
          cases hposts with
          | acknowledged hack => exact ⟨_, rfl, hack⟩ }

/-- Every turn is lawful, and the batches that succeed are numbered one after the other. -/
theorem lawful_of_dialogue {c : Channel}
    (h : Dialogue ⟨entity, client, UInt64.ofNat n⟩ c turns) :
    (∀ before t after, turns = before ++ t :: after →
      t.Lawful entity client (n + successes before)) ∧
    turns.filterMap number? =
      (List.range (successes turns)).map fun k => UInt64.ofNat (n + k) := by
  generalize hp : (⟨entity, client, UInt64.ofNat n⟩ : Producer) = p at h
  induction h generalizing n with
  | nil => exact ⟨by simp, rfl⟩
  | @cons p p' c c' call arrived out log reply rest hrun hsends _ ih =>
      subst hp
      obtain ⟨parts, hputs, rfl⟩ := hsends.puts
      have hlawful := lawful_of_course (Call.run_iff.mp hrun) hputs
      obtain ⟨hturns, hnumbers⟩ := ih hlawful.after_eq.symm
      constructor
      · refine forall_split_cons_iff.mpr ⟨hlawful, fun before t after hsplit => ?_⟩
        rw [successes_cons, ← Nat.add_assoc]
        exact hturns before t after hsplit
      · rw [successes_cons, filterMap_number?_cons, hlawful.number?_toList, hnumbers,
          List.range_add, List.map_append, List.map_map]
        refine congrArg _ (List.map_congr_left fun k _ => ?_)
        rw [Function.comp_apply, Nat.add_assoc]

end Turn

/-! ## Every sequence of calls -/

/-- The law of a producer's numbers and of its acknowledgements. -/
structure NumberingLaw (entity : Entity) (client : ClientId) (turns : List Turn) : Prop where
  /-- The batches that succeed return 0, 1, 2 and so on, as far as a word can count. -/
  numbers : turns.filterMap Turn.number? =
    (List.range (Turn.successes turns)).map UInt64.ofNat
  counted : Turn.successes turns ≤ UInt64.size →
    (turns.filterMap Turn.number?).map UInt64.toNat = List.range (Turn.successes turns)
  /-- What each call does depends on how many batches have succeeded before it. -/
  turn : ∀ before t after, turns = before ++ t :: after →
    t.Lawful entity client (Turn.successes before)
  /-- Of all acknowledgements a call takes its own, and no other one. -/
  accepts : ∀ expected other : Ack, checkAck expected other.text = .ok () ↔ other = expected
  /-- The acknowledgement of what a frame is read as is the one that the call waits for. -/
  acknowledged : ∀ (h : Header) records, h.IsWritable → ∃ batch,
    Batch.parse (Batch.encode h records) = .ok batch ∧
      checkAck (.ofHeader h) (Ack.ofHeader batch.header).text = .ok ()

/-- Whoever answers, the numbers of a producer's batches are in order, and what it writes and takes
for an answer is what it should be. -/
theorem numbering_exact {entity : Entity} {client : ClientId} {c : Channel} {turns : List Turn}
    (h : Dialogue (.new entity client) c turns) : NumberingLaw entity client turns := by
  obtain ⟨hturns, hnumbers⟩ := Turn.lawful_of_dialogue (n := 0) h
  simp only [Nat.zero_add] at hturns hnumbers
  refine ⟨hnumbers, ?_, hturns, ?_, ?_⟩
  · intro hsize
    rw [hnumbers, List.map_map]
    conv_rhs => rw [← List.map_id (List.range (Turn.successes turns))]
    apply List.map_congr_left
    intro k hk
    exact UInt64.toNat_ofNat_of_lt' (Nat.lt_of_lt_of_le (List.mem_range.mp hk) hsize)
  · intro expected other
    rw [checkAck_eq_ok_iff, Ack.parse_text, Except.ok.injEq]
  · intro header records hwritable
    exact ⟨_, Batch.parse_encode hwritable records, checkAck_text _⟩

namespace Dialogue

variable {p p' : Producer} {c : Channel} {rest : List Turn}

/-- A call that is answered, on a connection that does not break. -/
theorem cons_answered (call : Call) (received : String) {reply : Reply} (hflows : c.Flows [] [])
    (hframe : Fits (call.frame p)) (hreceived : Fits received)
    (hcourse : call.Course p
      [⟨.write (call.frame p), .ok ()⟩, ⟨.read, .ok received⟩] reply p')
    (hrest : ∀ c', c'.Flows [] [] → Dialogue p' c' rest) :
    Dialogue p c (⟨p, call, [⟨.write (call.frame p), .ok ()⟩, ⟨.read, .ok received⟩],
      frameBytes (.ofText (call.frame p)), reply, p'⟩ :: rest) := by
  obtain ⟨c', hsends, hflows'⟩ := hflows.exchange hframe hreceived
  exact .cons (Call.run_iff.mpr hcourse) hsends (hrest c' hflows')

theorem cons_refused (call : Call) {e : ClientError}
    (hcheck : p.checkQueries call.queries = .error e) (hrest : Dialogue p c rest) :
    Dialogue p c (⟨p, call, [], [], call.failure e, p⟩ :: rest) :=
  .cons (Call.run_iff.mpr (.refused hcheck)) (.refl c) hrest

end Dialogue

/-- Between two batches that succeed, one gets an answer that is not its own and one is refused. -/
theorem numbering_exact_of_four_batches :
    ∃ turns, Dialogue (.new .ratings ⟨"c"⟩) .opened turns ∧
      turns.map Turn.reply = [.batch (.ok 0),
        .batch (.error (.ackMismatch "RATINGS_ACK:1" "RATINGS_ACK:7")),
        .batch (.error (.tooManyQueries .ratings 2)), .batch (.ok 1)] ∧
      NumberingLaw .ratings ⟨"c"⟩ turns := by
  have hdialogue : Dialogue (.new .ratings ⟨"c"⟩) .opened _ :=
    .cons_answered (.batch [⟨"q"⟩] ["7|1|4.5|0"]) "RATINGS_ACK:0" Channel.flows_opened
      (by decide) (by decide) (.done rfl (.acknowledged rfl)) fun _ hfirst =>
    .cons_answered (.batch [⟨"q"⟩] ["7|2|3.5|0"]) "RATINGS_ACK:7" hfirst
      (by decide) (by decide) (.failed rfl (.mismatched (by decide))) fun _ hsecond =>
    .cons_refused (.batch [⟨"q"⟩, ⟨"r"⟩] []) rfl <|
    .cons_answered (.batch [⟨"q"⟩] ["7|2|3.5|0"]) "RATINGS_ACK:1" hsecond
      (by decide) (by decide) (.done rfl (.acknowledged rfl)) fun c _ => .nil _ c
  exact ⟨_, hdialogue, rfl, numbering_exact hdialogue⟩

end Producer

end QueryGateway
