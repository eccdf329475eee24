import QueryGateway.Cli.Produce
import QueryGateway.Proofs.Cli.Commands
import QueryGateway.Proofs.Client.Batches
import QueryGateway.Proofs.Wire.ProducerFrames

/-! # A file as a sequence of frames

What a command sends is settled before anything is sent: the batches of the file and the end of the
stream, or the batches up to a record that is refused. The frames go out one after the other, each
when the one before it was acknowledged.
-/

namespace QueryGateway

/-- Talk in sequence is talked in sequence. -/
theorem Host.onWire_bind {α β : Type} (p : Program Wire α) (f : α → Program Wire β) :
    onWire (p >>= f) = onWire p >>= fun a => onWire (f a) := by
  induction p with
  | done a => rfl
  | perform request next ih =>
      exact congrArg (Program.perform (I := Host) (.wire request)) (funext ih)

namespace Cli

/-! ## Posting -/

/-- A frame that is to be sent. -/
structure Letter where
  header : Header
  records : List String

namespace Letter

variable {l : Letter} {letters more : List Letter} {log past : List (Exchange Host)}
  {result : Except Failure Unit}

def frame (l : Letter) : String :=
  Batch.encode l.header l.records

/-- Sends a frame and waits for its acknowledgement. -/
def post (l : Letter) : Command Unit :=
  .attempt (Host.onWire (Producer.send l.header l.records)) .client

def postAll : List Letter → Command Unit
  | [] => pure ()
  | l :: rest => do
    l.post
    postAll rest

theorem postAll_append (letters more : List Letter) :
    postAll (letters ++ more) = postAll letters >>= fun _ => postAll more := by
  induction letters with
  | nil => rfl
  | cons l rest ih => simp [postAll, ih]

theorem postAll_singleton (l : Letter) : postAll [l] = l.post := by
  simp [postAll]

/-- What is exchanged when letters are posted. The first that fails is the last one. -/
inductive Posted : List Letter → List (Exchange Host) → Except Failure Unit → Prop where
  | done : Posted [] [] (.ok ())
  | acknowledged {l : Letter} {rest : List Letter} {log : List (Exchange Host)}
      {result : Except Failure Unit} (reply : String) :
      Ack.parse reply = .ok (.ofHeader l.header) → Posted rest log result →
      Posted (l :: rest)
        (⟨.wire (.write l.frame), .ok ()⟩ :: ⟨.wire .read, .ok reply⟩ :: log) result
  | failed {l : Letter} {rest : List Letter} {later : List (Exchange Host)}
      (answer : Except WireError Unit) (e : ClientError) : sent later = [] →
      Posted (l :: rest) (⟨.wire (.write l.frame), answer⟩ :: later) (.error (.client e))

theorem run_post (h : l.post.run.Run log result) :
    (result = .ok () ∧ ∃ reply, Ack.parse reply = .ok (.ofHeader l.header) ∧
        log = [⟨.wire (.write l.frame), .ok ()⟩, ⟨.wire .read, .ok reply⟩]) ∨
      ∃ e answer later, result = .error (.client e) ∧ sent later = [] ∧
        log = ⟨.wire (.write l.frame), answer⟩ :: later := by
  obtain ⟨r, hrun, rfl⟩ := Command.run_attempt_iff.mp h
  rw [Producer.send_eq] at hrun
  obtain ⟨answer, rest, rfl, hrest⟩ := Program.Run.perform_iff.mp hrun
  cases answer with
  | error e =>
      obtain ⟨rfl, rfl⟩ := Program.Run.done_iff.mp hrest
      exact .inr ⟨_, _, _, rfl, rfl, rfl⟩
  | ok _ =>
      obtain ⟨received, last, rfl, hlast⟩ := Program.Run.perform_iff.mp hrest
      cases received with
      | error e =>
          obtain ⟨rfl, rfl⟩ := Program.Run.done_iff.mp hlast
          exact .inr ⟨_, _, _, rfl, rfl, rfl⟩
      | ok reply =>
          simp only [Host.onWire] at hlast
          cases hcheck : Producer.checkAck (.ofHeader l.header) reply with
          | error e =>
              rw [hcheck] at hlast
              obtain ⟨rfl, rfl⟩ := Program.Run.done_iff.mp hlast
              exact .inr ⟨e, _, _, rfl, rfl, rfl⟩
          | ok _ =>
              rw [hcheck] at hlast
              obtain ⟨rfl, rfl⟩ := Program.Run.done_iff.mp hlast
              exact .inl ⟨rfl, reply, Producer.checkAck_eq_ok_iff.mp hcheck, rfl⟩

theorem posted_of_run (h : (postAll letters).run.Run log result) : Posted letters log result := by
  induction letters generalizing log with
  | nil =>
      obtain ⟨rfl, rfl⟩ := Program.Run.done_iff.mp h
      exact .done
  | cons l rest ih =>
      rcases Program.Run.except_bind_iff.mp h with
        ⟨e, hfirst, rfl⟩ | ⟨_, first, second, rfl, hfirst, hrest⟩
      · rcases run_post hfirst with ⟨hok, -⟩ | ⟨e', answer, later, herror, hsilent, rfl⟩
        · cases hok
        · obtain rfl := Except.error.inj herror
          exact .failed answer e' hsilent
      · rcases run_post hfirst with ⟨-, reply, hack, rfl⟩ | ⟨e', answer, later, herror, -⟩
        · exact .acknowledged reply hack (ih hrest)
        · cases herror

/-- A run through some letters and then more either comes to the more, or it fails before. -/
theorem Posted.append (h : Posted (letters ++ more) log result) :
    (∃ first second, log = first ++ second ∧ Posted letters first (.ok ()) ∧
        Posted more second result) ∨
      ∃ e, result = .error (.client e) ∧ Posted letters log result := by
  induction letters generalizing log with
  | nil => exact .inl ⟨[], log, rfl, .done, h⟩
  | cons l rest ih =>
      cases h with
      | acknowledged reply hack hrest =>
          rcases ih hrest with ⟨first, second, rfl, hfirst, hsecond⟩ | ⟨e, rfl, hfailed⟩
          · exact .inl ⟨_, second, rfl, .acknowledged reply hack hfirst, hsecond⟩
          · exact .inr ⟨e, rfl, .acknowledged reply hack hfailed⟩
      | failed answer e hsilent => exact .inr ⟨e, rfl, .failed answer e hsilent⟩

/-- No frame is written but those of the letters, in their order. -/
theorem Posted.isPrefix_sent (h : Posted letters log result) : sent log <+: letters.map frame := by
  induction h with
  | done => exact List.nil_prefix
  | acknowledged _ _ _ ih => exact (List.prefix_cons_inj _).mpr ih
  | failed answer e hsilent =>
      rw [sent_cons_write, hsilent]
      exact (List.prefix_cons_inj _).mpr List.nil_prefix

end Letter

/-! ## Letters that are acknowledged -/

/-- A listener that can be reached, takes every frame, and acknowledges the one it has just
taken. -/
structure Attentive (w : World Host) (address : String) : Prop where
  reached : ∀ past, w past (.connect address) = .ok ()
  takes : ∀ past frame, frame.utf8ByteSize ≤ 65535 → w past (.wire (.write frame)) = .ok ()
  answers : ∀ past frame batch, Batch.parse frame = .ok batch →
    ∃ reply, w (past ++ [⟨.wire (.write frame), .ok ()⟩]) (.wire .read) = .ok reply ∧
      Ack.parse reply = .ok (.ofHeader batch.header)

namespace Letter

/-- A letter that is read as it was written, and fits. -/
structure IsProper (l : Letter) : Prop where
  writable : l.header.IsWritable
  fits : Fits l.frame

variable {w : World Host} {address : String} {l : Letter} {letters : List Letter}

theorem IsProper.fst_play_post (hl : l.IsProper) (hw : Attentive w address)
    (past : List (Exchange Host)) : (w.play past l.post.run).1 = .ok () := by
  have hparse := Batch.parse_encode hl.writable l.records
  obtain ⟨reply, hreply, hack⟩ := hw.answers past l.frame _ hparse
  have htaken := hw.takes past l.frame hl.fits
  have hcheck : Producer.checkAck (.ofHeader l.header) reply = .ok () :=
    Producer.checkAck_eq_ok_iff.mpr hack
  have hplay : (w.play past (Host.onWire (Producer.send l.header l.records))).1 = .ok () := by
    rw [Producer.send_eq]
    refine (fst_play_perform htaken).trans ((fst_play_perform hreply).trans ?_)
    simp only [Host.onWire, World.play]
    exact hcheck
  rw [post, Command.play_attempt, hplay]
  rfl

theorem fst_play_postAll (hletters : ∀ l ∈ letters, l.IsProper) (hw : Attentive w address)
    (past : List (Exchange Host)) : (w.play past (postAll letters).run).1 = .ok () := by
  induction letters generalizing past with
  | nil => rfl
  | cons l rest ih =>
      obtain ⟨hl, hrest⟩ := List.forall_mem_cons.mp hletters
      have hplay : w.play past l.post.run = (.ok (), _) := Prod.ext (hl.fst_play_post hw past) rfl
      rw [postAll, Command.fst_play_bind hplay]
      exact ih hrest _

end Letter

/-! ## The letters for a file -/

variable {p : Producer} {queries : List QueryId}

/-- The letters for batches, numbered from the producer's next number on. -/
def lettersFor (p : Producer) (queries : List QueryId) : List (List String) → List Letter
  | [] => []
  | batch :: rest =>
    ⟨p.header queries (.batch p.nextBatch), batch⟩ ::
      lettersFor { p with nextBatch := p.nextBatch + 1 } queries rest

def lastLetter (p : Producer) (queries : List QueryId) : Letter :=
  ⟨p.header queries .endOfStream, []⟩

theorem exists_of_mem_lettersFor {batches : List (List String)} {l : Letter}
    (h : l ∈ lettersFor p queries batches) :
    ∃ id, ∃ batch ∈ batches, l = ⟨p.header queries (.batch id), batch⟩ := by
  induction batches generalizing p with
  | nil => cases h
  | cons batch rest ih =>
      rcases List.mem_cons.mp h with rfl | hmem
      · exact ⟨_, batch, List.mem_cons_self, rfl⟩
      · obtain ⟨id, found, hfound, rfl⟩ := ih hmem
        exact ⟨id, found, List.mem_cons_of_mem _ hfound, rfl⟩

theorem sendBatch_eq (hcheck : p.checkQueries queries = .ok ()) (records : List String) :
    sendBatch p queries records =
      Letter.post ⟨p.header queries (.batch p.nextBatch), records⟩ >>= fun _ =>
        pure { p with nextBatch := p.nextBatch + 1 } := by
  apply ExceptT.ext
  rw [sendBatch, Producer.sendBatch, hcheck]
  simp only [Letter.post, Command.host, ExceptT.run_bind, ExceptT.run_lift, Command.run_attempt,
    Host.onWire_bind, map_eq_pure_bind, bind_assoc]
  congr 1
  funext r
  cases r <;> rfl

theorem sendEnd_eq (hcheck : p.checkQueries queries = .ok ()) :
    Command.attempt (Host.onWire (p.sendEnd queries)) .client = (lastLetter p queries).post := by
  rw [Producer.sendEnd, hcheck]
  rfl

/-- Sends what is pending, and then the end of the stream. -/
def sendRest (queries : List QueryId) : Producer × Batcher → Command Unit
  | (p, b) => do
    let p ← match b.finish.1 with
      | some batch => sendBatch p queries batch
      | none => pure p
    .attempt (Host.onWire (p.sendEnd queries)) .client

/-- The letters for lines are posted, and then the one that ends the stream, unless a line was
refused. -/
theorem sendRecords_eq (hcheck : p.checkQueries queries = .ok ()) (b : Batcher)
    (lines : List String) :
    sendRecords p b queries lines >>= sendRest queries =
      Letter.postAll (lettersFor p queries (b.plan lines).1) >>= fun _ =>
        match (b.plan lines).2 with
        | some e => throw (.client e)
        | none => (lastLetter p queries).post := by
  induction lines generalizing p b with
  | nil =>
      rw [sendRecords, pure_bind, sendRest, Batcher.plan, Batcher.finish]
      by_cases hnil : b.pending = []
      · simp [hnil, lettersFor, Letter.postAll, sendEnd_eq hcheck]
      · have hlast : Command.attempt
            (Host.onWire (Producer.sendEnd { p with nextBatch := p.nextBatch + 1 } queries))
            .client = (lastLetter p queries).post :=
          sendEnd_eq (p := { p with nextBatch := p.nextBatch + 1 }) hcheck
        simp [hnil, lettersFor, Letter.postAll, sendBatch_eq hcheck, hlast]
  | cons line rest ih =>
      rw [sendRecords, Batcher.plan]
      rcases hpush : b.push line with ⟨e | _ | batch, b'⟩
      · simp [lettersFor, Letter.postAll]
      · simpa using ih hcheck b'
      · have hrest := ih (p := { p with nextBatch := p.nextBatch + 1 }) hcheck b'
        simp only [sendBatch_eq hcheck, bind_assoc, pure_bind, hrest]
        simp only [Option.toList_some, List.singleton_append, lettersFor, Letter.postAll,
          bind_assoc]
        rfl

end Cli

end QueryGateway
