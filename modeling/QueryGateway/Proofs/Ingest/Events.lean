import QueryGateway.Proofs.Ingest.Attempts

/-! # What others see of a session

The router only publishes and waits; acknowledgements are written by the session alone. So the
events of a router's program are its attempts to publish, whatever the broker answers.
-/

namespace QueryGateway

namespace Ingest

/-- What others see of a session. -/
inductive Event where
  | publish (attempt : Attempt)
  | acknowledge (text : String) (written : Bool)

def event? : Exchange Ingest → Option Event
  | ⟨.publish queue message, answer⟩ =>
    some (.publish ⟨queue, message, (answer : Except BrokerError Unit).isOk⟩)
  | ⟨.pause _, _⟩ => none
  | ⟨.acknowledge ack, answer⟩ =>
    some (.acknowledge ack.text (answer : Except WireError Unit).isOk)

/-- The events of a run, in order. -/
def trace (log : List (Exchange Ingest)) : List Event :=
  log.filterMap event?

@[simp] theorem trace_append (first second : List (Exchange Ingest)) :
    trace (first ++ second) = trace first ++ trace second :=
  List.filterMap_append

/-! ## Programs that acknowledge nothing -/

/-- All that others see of a program are its attempts to publish. -/
def Silent (p : Program Ingest α) : Prop :=
  ∀ log a, p.Run log a → trace log = (tried log).map Event.publish

theorem silent_done (a : α) : Silent (.done a) := by
  intro log b h
  obtain ⟨rfl, -⟩ := Program.Run.done_iff.mp h
  rfl

theorem Silent.bind {p : Program Ingest α} {f : α → Program Ingest β} (hp : Silent p)
    (hf : ∀ a, Silent (f a)) : Silent (p >>= f) := by
  intro log b h
  obtain ⟨a, first, second, rfl, hfirst, hsecond⟩ := Program.Run.bind_iff.mp h
  rw [trace_append, tried_append, List.map_append, hp _ _ hfirst, hf a _ _ hsecond]

theorem Silent.except_bind {x : Router.Task α} {f : α → Router.Task β} (hx : Silent x.run)
    (hf : ∀ a, Silent (f a).run) : Silent (x >>= f).run := by
  rw [ExceptT.run_bind]
  apply hx.bind
  intro result
  cases result with
  | error fault => exact silent_done _
  | ok a => exact hf a

theorem silent_publish (queue : String) (m : Message) : Silent (publish queue m) := by
  intro log sent h
  obtain ⟨answer, rest, rfl, hrest⟩ := Program.Run.perform_iff.mp h
  obtain ⟨rfl, -⟩ := Program.Run.done_iff.mp hrest
  rfl

theorem silent_pause (milliseconds : Nat) : Silent (pause milliseconds) := by
  intro log u h
  have hlog : log = [⟨.pause milliseconds, u⟩] := Program.Run.ask_iff.mp h
  rw [hlog]
  rfl

theorem trace_acknowledge {ack : Ack} {log : List (Exchange Ingest)}
    {written : Except WireError Unit} (h : (acknowledge ack).Run log written) :
    trace log = [.acknowledge ack.text written.isOk] := by
  have hlog : log = [⟨.acknowledge ack, written⟩] := Program.Run.ask_iff.mp h
  rw [hlog]
  rfl

end Ingest

open Ingest

namespace Router

variable {r : Router} {h : Header} {queue : String} {m : Message}

theorem silent_publishBatch (id : UInt64) (body : Bytes) (queries : List QueryId) :
    Silent (r.publishBatch h id body queries) := by
  induction queries with
  | nil => exact silent_done _
  | cons query rest ih =>
      cases hqueue : r.queue? h query with
      | none =>
          simp only [publishBatch, hqueue]
          exact (silent_done _).bind fun _ => ih.bind fun _ => silent_done _
      | some queue =>
          simp only [publishBatch, hqueue]
          exact (silent_publish _ _).bind fun _ => ih.bind fun _ => silent_done _

theorem silent_publishWithin (left attempt : Nat) :
    Silent (publishWithin queue m left attempt) := by
  induction left generalizing attempt with
  | zero => exact silent_done _
  | succ left ih =>
      rw [publishWithin]
      apply (silent_publish _ _).bind
      intro sent
      by_cases hsent : sent = true
      · simpa [hsent] using silent_done true
      · by_cases hleft : left = 0
        · simpa [hsent, hleft] using silent_done false
        · simpa [hsent, hleft] using (silent_pause _).bind fun _ => ih _

theorem silent_publishEnd : Silent (r.publishEnd queue m).run := by
  rw [publishEnd]
  cases r.attempts with
  | error fault => exact silent_done _
  | ok attempts => exact (silent_publishWithin _ _).bind fun _ => silent_done _

theorem silent_publishEnds (count : Nat) : Silent (r.publishEnds queue m count).run := by
  induction count with
  | zero => exact silent_done _
  | succ count ih =>
      rw [publishEnds]
      apply silent_publishEnd.except_bind
      intro sent
      cases sent with
      | true => exact ih.except_bind fun _ => silent_done _
      | false => exact silent_done _

theorem silent_fanOutTo (queries : List QueryId) : Silent (r.fanOutTo h queries).run := by
  induction queries with
  | nil => exact silent_done _
  | cons query rest ih =>
      rw [fanOutTo]
      cases r.queue? h query with
      | none => exact ih
      | some queue =>
          exact (silent_publishEnds _).except_bind fun _ => ih.except_bind fun _ => silent_done _

end Router

end QueryGateway
