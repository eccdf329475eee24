import Mathlib.Data.List.Induction
import QueryGateway.Delivery.Link
import QueryGateway.Proofs.Wire.Channel

/-! # Replies and the frames that they answer

A client answers frames in the order in which it gets them. A reply that is late is read before the
next frame is written, so at that moment as many replies were read as frames were written, and the
next reply is the one to the next frame.
-/

namespace QueryGateway.Link

open Wire

/-! ## One delivery -/

/-- The deliveries that do not fail, by what is read and written. -/
inductive Delivers (frame : ResultFrame) (timeout : Nat) :
    (owed : Nat) → List (Exchange Wire) → AckOutcome → (owed' : Nat) → Prop where
  | timedOut : Delivers frame timeout 0
      [⟨.write frame.text, .ok ()⟩, ⟨.readWithin timeout, none⟩] .timedOut 1
  | judged (reply : String) : Delivers frame timeout 0
      [⟨.write frame.text, .ok ()⟩, ⟨.readWithin timeout, some (.ok reply)⟩] (judge reply) 0
  | desynchronised (owed : Nat) : Delivers frame timeout (owed + 1)
      [⟨.readWithin timeout, none⟩] .desynchronised (owed + 1)
  | late (reply : String) {owed owed' : Nat} {log : List (Exchange Wire)} {outcome : AckOutcome} :
      Delivers frame timeout owed log outcome owed' →
        Delivers frame timeout (owed + 1) (⟨.readWithin timeout, some (.ok reply)⟩ :: log) outcome
          owed'

/-- The deliveries that fail, by what is read and written. -/
inductive Drops (frame : ResultFrame) (timeout : Nat) :
    (owed : Nat) → List (Exchange Wire) → WireError → (owed' : Nat) → Prop where
  | refused (e : WireError) : Drops frame timeout 0 [⟨.write frame.text, .error e⟩] e 0
  | unread (e : WireError) : Drops frame timeout 0
      [⟨.write frame.text, .ok ()⟩, ⟨.readWithin timeout, some (.error e)⟩] e 0
  | owing (owed : Nat) (e : WireError) : Drops frame timeout (owed + 1)
      [⟨.readWithin timeout, some (.error e)⟩] e (owed + 1)
  | late (reply : String) {owed owed' : Nat} {log : List (Exchange Wire)} {e : WireError} :
      Drops frame timeout owed log e owed' →
        Drops frame timeout (owed + 1) (⟨.readWithin timeout, some (.ok reply)⟩ :: log) e owed'

variable {frame : ResultFrame} {timeout owed owed' : Nat} {log : List (Exchange Wire)}
  {outcome : AckOutcome} {e : WireError}

theorem delivers_or_drops_of_run {result : Except WireError AckOutcome}
    (hrun : (deliver frame timeout owed).Run log (result, owed')) :
    (∃ outcome, result = .ok outcome ∧ Delivers frame timeout owed log outcome owed') ∨
      ∃ e, result = .error e ∧ Drops frame timeout owed log e owed' := by
  induction owed generalizing log with
  | zero =>
      rw [deliver, exchange, Program.Run.bind_iff] at hrun
      obtain ⟨written, first, rest, rfl, hfirst, hrest⟩ := hrun
      obtain rfl : first = [⟨.write frame.text, written⟩] := Program.Run.ask_iff.mp hfirst
      cases written with
      | error e =>
          obtain ⟨rfl, hresult⟩ := Program.Run.done_iff.mp hrest
          cases hresult
          exact .inr ⟨e, rfl, .refused e⟩
      | ok u =>
          obtain ⟨read, second, last, rfl, hsecond, hlast⟩ := Program.Run.bind_iff.mp hrest
          obtain rfl : second = [⟨.readWithin timeout, read⟩] := Program.Run.ask_iff.mp hsecond
          match read with
          | none =>
              obtain ⟨rfl, hresult⟩ := Program.Run.done_iff.mp hlast
              cases hresult
              exact .inl ⟨_, rfl, .timedOut⟩
          | some (.error e) =>
              obtain ⟨rfl, hresult⟩ := Program.Run.done_iff.mp hlast
              cases hresult
              exact .inr ⟨e, rfl, .unread e⟩
          | some (.ok reply) =>
              obtain ⟨rfl, hresult⟩ := Program.Run.done_iff.mp hlast
              cases hresult
              exact .inl ⟨_, rfl, .judged reply⟩
  | succ owed ih =>
      rw [deliver, Program.Run.bind_iff] at hrun
      obtain ⟨read, first, rest, rfl, hfirst, hrest⟩ := hrun
      obtain rfl : first = [⟨.readWithin timeout, read⟩] := Program.Run.ask_iff.mp hfirst
      match read with
      | none =>
          obtain ⟨rfl, hresult⟩ := Program.Run.done_iff.mp hrest
          cases hresult
          exact .inl ⟨_, rfl, .desynchronised owed⟩
      | some (.error e) =>
          obtain ⟨rfl, hresult⟩ := Program.Run.done_iff.mp hrest
          cases hresult
          exact .inr ⟨e, rfl, .owing owed e⟩
      | some (.ok reply) =>
          rcases ih hrest with ⟨outcome, houtcome, hdelivers⟩ | ⟨e, he, hdrops⟩
          · exact .inl ⟨outcome, houtcome, .late reply hdelivers⟩
          · exact .inr ⟨e, he, .late reply hdrops⟩

theorem delivers_of_run (hrun : (deliver frame timeout owed).Run log (.ok outcome, owed')) :
    Delivers frame timeout owed log outcome owed' := by
  rcases delivers_or_drops_of_run hrun with ⟨_, houtcome, hdelivers⟩ | ⟨_, he, -⟩
  · cases houtcome
    exact hdelivers
  · cases he

theorem drops_of_run (hrun : (deliver frame timeout owed).Run log (.error e, owed')) :
    Drops frame timeout owed log e owed' := by
  rcases delivers_or_drops_of_run hrun with ⟨_, houtcome, -⟩ | ⟨_, he, hdrops⟩
  · cases houtcome
  · cases he
    exact hdrops

/-- These deliveries are all possible. -/
theorem Delivers.run (h : Delivers frame timeout owed log outcome owed') :
    (deliver frame timeout owed).Run log (.ok outcome, owed') := by
  induction h with
  | timedOut =>
      apply Program.Run.bind_iff.mpr
      refine ⟨.ok (), [_], [_], rfl, Program.Run.ask_iff.mpr rfl, ?_⟩
      apply Program.Run.bind_iff.mpr
      exact ⟨none, [_], [], rfl, Program.Run.ask_iff.mpr rfl, .done _⟩
  | judged reply =>
      apply Program.Run.bind_iff.mpr
      refine ⟨.ok (), [_], [_], rfl, Program.Run.ask_iff.mpr rfl, ?_⟩
      apply Program.Run.bind_iff.mpr
      exact ⟨some (.ok reply), [_], [], rfl, Program.Run.ask_iff.mpr rfl, .done _⟩
  | desynchronised owed =>
      apply Program.Run.bind_iff.mpr
      exact ⟨none, [_], [], rfl, Program.Run.ask_iff.mpr rfl, .done _⟩
  | @late reply _ _ log _ _ ih =>
      apply Program.Run.bind_iff.mpr
      exact ⟨some (.ok reply), [_], log, rfl, Program.Run.ask_iff.mpr rfl, ih⟩

/-- These deliveries are all possible. -/
theorem Drops.run (h : Drops frame timeout owed log e owed') :
    (deliver frame timeout owed).Run log (.error e, owed') := by
  induction h with
  | refused e =>
      exact Program.Run.bind_iff.mpr ⟨.error e, [_], [], rfl, Program.Run.ask_iff.mpr rfl, .done _⟩
  | unread e =>
      apply Program.Run.bind_iff.mpr
      refine ⟨.ok (), [_], [_], rfl, Program.Run.ask_iff.mpr rfl, ?_⟩
      apply Program.Run.bind_iff.mpr
      exact ⟨some (.error e), [_], [], rfl, Program.Run.ask_iff.mpr rfl, .done _⟩
  | owing owed e =>
      apply Program.Run.bind_iff.mpr
      exact ⟨some (.error e), [_], [], rfl, Program.Run.ask_iff.mpr rfl, .done _⟩
  | @late reply _ _ log _ _ ih =>
      apply Program.Run.bind_iff.mpr
      exact ⟨some (.ok reply), [_], log, rfl, Program.Run.ask_iff.mpr rfl, ih⟩

namespace Drops

/-- Only the last read fails. -/
theorem eq_of_fails (h : Drops frame timeout owed log e owed') :
    ∀ x ∈ log, Fails x → x = ⟨.readWithin timeout, some (.error e)⟩ := by
  induction h with
  | refused e => simp [Fails]
  | unread e => simp [Fails]
  | owing owed e => simp
  | late reply _ ih =>
      refine List.forall_mem_cons.mpr ⟨?_, ih⟩
      rintro ⟨e', he'⟩
      cases he'

/-- A reply could not be read, or none is owed and the frame was refused. -/
theorem read_or_refused (h : Drops frame timeout owed log e owed') :
    ⟨.readWithin timeout, some (.error e)⟩ ∈ log ∨
      ⟨.write frame.text, .error e⟩ ∈ log ∧ owed' = 0 := by
  induction h with
  | refused e => exact .inr ⟨List.mem_cons_self, rfl⟩
  | unread e => exact .inl (by simp)
  | owing owed e => exact .inl List.mem_cons_self
  | late reply _ ih =>
      rcases ih with hread | ⟨hrefused, hnone⟩
      · exact .inl (List.mem_cons_of_mem _ hread)
      · exact .inr ⟨List.mem_cons_of_mem _ hrefused, hnone⟩

end Drops

/-- What an outcome says about the frame and about the replies that were read, the late ones
first. -/
def Accounts (frame : ResultFrame) (owed : Nat) (log : List (Exchange Wire)) : AckOutcome → Prop
  | .acked => sent log = [frame.text] ∧ ∃ lates reply, got log = lates ++ [reply] ∧
      lates.length = owed ∧ Text.trim reply = resultAck
  | .mismatch reply => sent log = [frame.text] ∧ ∃ lates, got log = lates ++ [reply] ∧
      lates.length = owed ∧ Text.trim reply ≠ resultAck
  | .timedOut => sent log = [frame.text] ∧ (got log).length = owed
  | .desynchronised => sent log = [] ∧ (got log).length < owed

namespace Delivers

theorem not_fails (h : Delivers frame timeout owed log outcome owed') : ∀ e ∈ log, ¬Fails e := by
  have hread : ∀ reply, ¬Fails ⟨.readWithin timeout, some (.ok reply)⟩ := by
    rintro reply ⟨e, he⟩
    cases he
  induction h with
  | timedOut => simp [Fails]
  | judged reply => simpa [Fails] using hread reply
  | desynchronised owed => simp [Fails]
  | late reply _ ih => exact List.forall_mem_cons.mpr ⟨hread reply, ih⟩

theorem balance (h : Delivers frame timeout owed log outcome owed') :
    (sent log).length + owed = (got log).length + owed' := by
  induction h with
  | timedOut => rfl
  | judged reply => rfl
  | desynchronised owed => rfl
  | @late reply owed owed' log _ _ ih =>
      have hsent : sent (⟨.readWithin timeout, some (.ok reply)⟩ :: log) = sent log := rfl
      have hgot : got (⟨.readWithin timeout, some (.ok reply)⟩ :: log) = reply :: got log := rfl
      rw [hsent, hgot, List.length_cons]
      omega

theorem owed_le (h : Delivers frame timeout owed log outcome owed') (howed : owed ≤ 1) :
    owed' ≤ 1 := by
  induction h with
  | timedOut => exact Nat.le_refl 1
  | judged reply => exact Nat.zero_le 1
  | desynchronised owed => exact howed
  | late reply _ ih => exact ih (by omega)

/-- Before a frame is written all owed replies are read, and nothing is written. -/
theorem before_write (h : Delivers frame timeout owed log outcome owed')
    {before after : List (Exchange Wire)} {payload : String} {answer : Except WireError Unit}
    (hlog : log = before ++ ⟨.write payload, answer⟩ :: after) :
    sent before = [] ∧ (got before).length = owed := by
  have honly : ∀ {answer' : Option (Except WireError String)} {before : List (Exchange Wire)},
      [⟨.readWithin timeout, answer'⟩] ≠ before ++ ⟨.write payload, answer⟩ :: after := by
    intro answer' before heq
    have hmem : (⟨.write payload, answer⟩ : Exchange Wire) ∈
        [(⟨.readWithin timeout, answer'⟩ : Exchange Wire)] := by
      rw [heq]
      exact List.mem_append_right _ List.mem_cons_self
    cases List.mem_singleton.mp hmem
  induction h generalizing before with
  | timedOut =>
      cases before with
      | nil => exact ⟨rfl, rfl⟩
      | cons e before => exact absurd (List.cons.inj hlog).2 honly
  | judged reply =>
      cases before with
      | nil => exact ⟨rfl, rfl⟩
      | cons e before => exact absurd (List.cons.inj hlog).2 honly
  | desynchronised owed => exact absurd hlog honly
  | @late reply owed owed' log outcome _ ih =>
      cases before with
      | nil => cases hlog
      | cons e before =>
          obtain ⟨rfl, hrest⟩ := List.cons.inj hlog
          obtain ⟨hsent, hgot⟩ := ih hrest
          exact ⟨hsent, congrArg Nat.succ hgot⟩

theorem accounts (h : Delivers frame timeout owed log outcome owed') :
    Accounts frame owed log outcome := by
  induction h with
  | timedOut => exact ⟨rfl, rfl⟩
  | judged reply =>
      rw [judge]
      by_cases hack : Text.trim reply = resultAck
      · rw [if_pos hack]
        exact ⟨rfl, [], reply, rfl, rfl, hack⟩
      · rw [if_neg hack]
        exact ⟨rfl, [], rfl, rfl, hack⟩
  | desynchronised owed => exact ⟨rfl, Nat.succ_pos owed⟩
  | @late reply owed owed' log outcome _ ih =>
      have hgot : got (⟨.readWithin timeout, some (.ok reply)⟩ :: log) = reply :: got log := rfl
      cases outcome with
      | acked =>
          obtain ⟨hsent, lates, last, hlast, hlength, hack⟩ := ih
          exact ⟨hsent, reply :: lates, last, by rw [hgot, hlast]; rfl, by simp [hlength], hack⟩
      | mismatch last =>
          obtain ⟨hsent, lates, hlast, hlength, hack⟩ := ih
          exact ⟨hsent, reply :: lates, by rw [hgot, hlast]; rfl, by simp [hlength], hack⟩
      | timedOut =>
          obtain ⟨hsent, hlength⟩ := ih
          exact ⟨hsent, by rw [hgot, List.length_cons, hlength]⟩
      | desynchronised =>
          obtain ⟨hsent, hlength⟩ := ih
          exact ⟨hsent, by rw [hgot, List.length_cons]; omega⟩

end Delivers

/-- A read that fails decides about the delivery. -/
theorem error_of_fails {result : Except WireError AckOutcome}
    (hrun : (deliver frame timeout owed).Run log (result, owed')) {x : Exchange Wire}
    (hx : x ∈ log) (hfails : Fails x) :
    ∃ e, result = .error e ∧ x = ⟨.readWithin timeout, some (.error e)⟩ := by
  rcases delivers_or_drops_of_run hrun with ⟨outcome, -, hdelivers⟩ | ⟨e, he, hdrops⟩
  · exact absurd hfails (hdelivers.not_fails x hx)
  · exact ⟨e, he, hdrops.eq_of_fails x hx hfails⟩

/-! ## One delivery after the other -/

/-- A delivery on a link: the frame and how long its reply is waited for, the bytes that arrive
meanwhile, what is asked of the connection, the outcome, and how many replies are owed after it. -/
structure Call where
  frame : ResultFrame
  timeout : Nat
  arrived : Bytes
  log : List (Exchange Wire)
  outcome : Except WireError AckOutcome
  owed : Nat

/-- What is asked of the connection in a row of deliveries. -/
def traffic (calls : List Call) : List (Exchange Wire) :=
  calls.flatMap Call.log

@[simp] theorem traffic_append (first second : List Call) :
    traffic (first ++ second) = traffic first ++ traffic second :=
  List.flatMap_append

@[simp] theorem traffic_singleton (call : Call) : traffic [call] = call.log :=
  List.flatMap_singleton _ _

/-- The deliveries on a link to a client that owed nothing at first, and what has become of the
channel and of the owed replies. -/
inductive History (start : Channel) : List Call → Channel → Nat → Prop where
  | fresh : History start [] start 0
  | next {calls : List Call} {c c' : Channel} {owed : Nat} (call : Call) :
      History start calls c owed →
      (deliver call.frame call.timeout owed).Run call.log (call.outcome, call.owed) →
      c.Passes call.arrived call.log c' → History start (calls ++ [call]) c' call.owed

namespace History

variable {start c : Channel} {calls earlier later : List Call} {call : Call} {owed : Nat}

theorem of_concat (h : History start (earlier ++ [call]) c owed) :
    ∃ before owed', History start earlier before owed' ∧
      (deliver call.frame call.timeout owed').Run call.log (call.outcome, call.owed) ∧
      before.Passes call.arrived call.log c := by
  generalize hcalls : earlier ++ [call] = calls at h
  cases h with
  | fresh => simp at hcalls
  | next call' hearlier hrun hpasses =>
      obtain ⟨rfl, hcall⟩ := List.append_inj' hcalls rfl
      obtain rfl := List.cons.inj hcall |>.1
      exact ⟨_, _, hearlier, hrun, hpasses⟩

theorem of_append (h : History start (earlier ++ later) c owed) :
    ∃ c' owed', History start earlier c' owed' := by
  induction later using List.reverseRecOn generalizing c owed with
  | nil => exact ⟨c, owed, by simpa using h⟩
  | append_singleton later call ih =>
      rw [← List.append_assoc] at h
      obtain ⟨c', owed', hlater, -, -⟩ := of_concat h
      exact ih hlater

end History

/-- What a row of deliveries leaves behind: a client that sends `replies` in all has `rest` of them
still to be read. -/
structure Balanced (replies rest : List String) (later : Bytes) (calls : List Call) (c : Channel)
    (owed : Nat) : Prop where
  order : replies = got (traffic calls) ++ rest
  carries : c.Carries rest later
  balance : (sent (traffic calls)).length = (got (traffic calls)).length + owed
  owed_le : owed ≤ 1

variable {replies rest : List String} {later : Bytes} {calls earlier : List Call} {call : Call}
  {c c' start : Channel}

theorem Balanced.deliver (h : Balanced replies rest (call.arrived ++ later) calls c owed)
    (hdelivers : Delivers call.frame call.timeout owed call.log outcome call.owed)
    (hpasses : c.Passes call.arrived call.log c') :
    ∃ rest', rest = got call.log ++ rest' ∧
      Balanced replies rest' later (calls ++ [call]) c' call.owed := by
  obtain ⟨rest', rfl, hcarries⟩ := h.carries.passes hpasses hdelivers.not_fails
  have hbefore := h.balance
  have hcall := hdelivers.balance
  refine ⟨rest', rfl, ?_, hcarries, ?_, hdelivers.owed_le h.owed_le⟩
  · rw [traffic_append, traffic_singleton, got_append, List.append_assoc]
    exact h.order
  · rw [traffic_append, traffic_singleton, got_append, sent_append, List.length_append,
      List.length_append]
    omega

theorem balanced_of_history (hhistory : History start calls c owed)
    (hok : ∀ call ∈ calls, ∃ outcome, call.outcome = .ok outcome)
    (hstart : start.Carries replies (calls.flatMap Call.arrived ++ later)) :
    ∃ rest, Balanced replies rest later calls c owed := by
  induction hhistory generalizing later with
  | fresh => exact ⟨replies, rfl, hstart, rfl, Nat.zero_le 1⟩
  | @next calls c c' owed call _ hrun hpasses ih =>
      rw [List.flatMap_append, List.flatMap_singleton, List.append_assoc] at hstart
      obtain ⟨rest, hbalanced⟩ := ih (fun call hcall => hok call (List.mem_append_left _ hcall))
        hstart
      obtain ⟨outcome, houtcome⟩ := hok call (by simp)
      rw [houtcome] at hrun
      obtain ⟨rest', -, hbalanced'⟩ := hbalanced.deliver (delivers_of_run hrun) hpasses
      exact ⟨rest', hbalanced'⟩

/-- How a delivery after some others deals with the replies of a client. -/
structure Paired (replies : List String) (earlier : List Call) (call : Call) : Prop where
  /-- The replies that were read are the first ones that the client sent. -/
  order : got (traffic (earlier ++ [call])) <+: replies
  /-- The replies that are owed are those to frames that were written, less those that were read. -/
  balance : (sent (traffic (earlier ++ [call]))).length =
    (got (traffic (earlier ++ [call]))).length + call.owed
  owed_le : call.owed ≤ 1
  /-- No frame is written while a reply is owed, so all that was read before belongs to frames that
  were written before. -/
  before_write : ∀ before payload answer after,
    call.log = before ++ ⟨.write payload, answer⟩ :: after →
      (sent (traffic earlier ++ before)).length = (got (traffic earlier ++ before)).length
  /-- The outcome is decided by the reply whose place among the replies is that of the frame among
  the frames. -/
  outcome : match call.outcome with
    | .ok .acked => sent call.log = [call.frame.text] ∧
      ∃ reply, replies[(sent (traffic earlier)).length]? = some reply ∧
        Text.trim reply = resultAck
    | .ok (.mismatch reply) => sent call.log = [call.frame.text] ∧
      replies[(sent (traffic earlier)).length]? = some reply ∧ Text.trim reply ≠ resultAck
    | .ok .timedOut => sent call.log = [call.frame.text] ∧
      (got (traffic (earlier ++ [call]))).length = (sent (traffic earlier)).length
    | .ok .desynchronised => sent call.log = [] ∧ got call.log = []
    | .error _ => False

theorem Balanced.paired {rest' : List String}
    (h : Balanced replies (got call.log ++ rest') (call.arrived ++ later) earlier c owed)
    (hdelivers : Delivers call.frame call.timeout owed call.log outcome call.owed)
    (houtcome : call.outcome = .ok outcome)
    (hafter : Balanced replies rest' later (earlier ++ [call]) c' call.owed) :
    Paired replies earlier call := by
  have hplace : ∀ {lates : List String} {reply : String}, got call.log = lates ++ [reply] →
      lates.length = owed → replies[(sent (traffic earlier)).length]? = some reply := by
    intro lates reply hgot hlength
    have hreplies : replies = (got (traffic earlier) ++ lates) ++ reply :: rest' := by
      rw [h.order, hgot]
      simp
    have hindex : (sent (traffic earlier)).length = (got (traffic earlier) ++ lates).length := by
      rw [h.balance, List.length_append, hlength]
    rw [hreplies, hindex, List.getElem?_append_right (Nat.le_refl _), Nat.sub_self]
    rfl
  refine ⟨⟨rest', hafter.order.symm⟩, hafter.balance, hafter.owed_le, ?_, ?_⟩
  · intro before payload answer after hlog
    obtain ⟨hsent, hgot⟩ := hdelivers.before_write hlog
    rw [sent_append, got_append, hsent, List.append_nil, List.length_append, hgot, h.balance]
  · have haccounts := hdelivers.accounts
    rw [houtcome]
    cases outcome with
    | acked =>
        obtain ⟨hsent, lates, reply, hgot, hlength, hack⟩ := haccounts
        exact ⟨hsent, reply, hplace hgot hlength, hack⟩
    | mismatch reply =>
        obtain ⟨hsent, lates, hgot, hlength, hack⟩ := haccounts
        exact ⟨hsent, hplace hgot hlength, hack⟩
    | timedOut =>
        obtain ⟨hsent, hlength⟩ := haccounts
        refine ⟨hsent, ?_⟩
        rw [traffic_append, traffic_singleton, got_append, List.length_append, hlength, h.balance]
    | desynchronised =>
        obtain ⟨hsent, hlength⟩ := haccounts
        have howed := h.owed_le
        exact ⟨hsent, List.length_eq_zero_iff.mp (by omega)⟩

/-- As long as no delivery fails, every reply is taken for the frame that it answers, whenever and
in whatever pieces it arrives. -/
theorem replies_paired {calls : List Call} (hstart : start.Intact)
    (hhistory : History start calls c owed) (hfits : ∀ reply ∈ replies, Fits reply)
    (harrived : start.pending ++ calls.flatMap Call.arrived <+: framesOf replies)
    (hok : ∀ call ∈ calls, ∃ outcome, call.outcome = .ok outcome) :
    ∀ earlier call later, calls = earlier ++ call :: later → Paired replies earlier call := by
  rintro earlier call later rfl
  obtain ⟨unsent, hbytes⟩ := harrived
  -- What arrives in the later deliveries is, for this one and those before it, still to come.
  have hfirst : earlier ++ call :: later = (earlier ++ [call]) ++ later := by simp
  rw [hfirst] at hhistory
  obtain ⟨c', owed', hhistory'⟩ := hhistory.of_append
  obtain ⟨before, owed'', hearlier, hrun, hpasses⟩ := hhistory'.of_concat
  have hcarries : start.Carries replies (earlier.flatMap Call.arrived ++
      (call.arrived ++ (later.flatMap Call.arrived ++ unsent))) := by
    refine ⟨hstart, hfits, ?_⟩
    rw [← hbytes]
    simp
  obtain ⟨rest, hbalanced⟩ := balanced_of_history hearlier
    (fun call hcall => hok call (List.mem_append_left _ hcall)) hcarries
  obtain ⟨outcome, houtcome⟩ := hok call (by simp)
  rw [houtcome] at hrun
  have hdelivers := delivers_of_run hrun
  obtain ⟨rest', rfl, hafter⟩ := hbalanced.deliver hdelivers hpasses
  exact hbalanced.paired hdelivers houtcome hafter

/-- Of the first reply only the byte count comes in time; the rest of it comes together with the
reply to the second frame. -/
theorem replies_paired_of_late_reply :
    ∃ calls c, History .opened calls c 0 ∧
      calls.map Call.outcome = [.ok .timedOut, .ok (.mismatch "no")] ∧
      ∀ earlier call later, calls = earlier ++ call :: later →
        Paired ["RESULT_ACK", "no"] earlier call := by
  let frame : ResultFrame := ⟨⟨"q"⟩, .rows "row"⟩
  have hframe : Fits frame.text := by decide
  have hack : Fits "RESULT_ACK" := by decide
  have hno : Fits "no" := by decide
  obtain ⟨c₁, hwrite₁, hopen₁, hpending₁⟩ := Channel.isOpen_opened.write hframe
  let first := lengthBytes (Bytes.ofText "RESULT_ACK").length
  let rest := Bytes.ofText "RESULT_ACK" ++ framesOf ["no"]
  have hfirst : firstFrame? (c₁.receive first).pending = none := by
    have hcount : (Bytes.ofText "RESULT_ACK").length ≤ maxFrameLength := by decide
    have hnone := firstFrame?_lengthBytes hcount []
    rw [List.append_nil, if_neg (by decide)] at hnone
    rw [Channel.pending_receive, hpending₁]
    exact hnone
  obtain ⟨c₂, hlook₂, hopen₂, hpending₂⟩ := (hopen₁.receive first).look_none hfirst
  have hrest : firstFrame? (c₂.receive rest).pending =
      some (.ofText "RESULT_ACK", framesOf ["no"]) := by
    rw [Channel.pending_receive, hpending₂, Channel.pending_receive, hpending₁]
    exact firstFrame?_frameBytes (by decide) _
  obtain ⟨c₃, hlook₃, hopen₃, hpending₃⟩ := (hopen₂.receive rest).look_text hrest
  obtain ⟨c₄, hwrite₄, hopen₄, hpending₄⟩ := hopen₃.write hframe
  have hlast : firstFrame? c₄.pending = some (.ofText "no", []) := by
    rw [hpending₄, hpending₃]
    exact firstFrame?_frameBytes (by decide) _
  obtain ⟨c₅, hlook₅, -, -⟩ := hopen₄.look_text hlast
  have hpasses₂ : c₂.Passes rest [⟨.readWithin 10, some (.ok "RESULT_ACK")⟩,
      ⟨.write frame.text, .ok ()⟩, ⟨.readWithin 10, some (.ok "no")⟩] c₅ := by
    have hpasses := ((Channel.Moves.arrive c₂ rest).passes.append
      (Channel.Moves.readWithin 10 hlook₃).passes).append
        (hwrite₄.passes.append (Channel.Moves.readWithin 10 hlook₅).passes)
    simpa using hpasses
  have hhistory : History .opened
      [⟨frame, 10, first, [⟨.write frame.text, .ok ()⟩, ⟨.readWithin 10, none⟩], .ok .timedOut, 1⟩,
        ⟨frame, 10, rest, [⟨.readWithin 10, some (.ok "RESULT_ACK")⟩, ⟨.write frame.text, .ok ()⟩,
          ⟨.readWithin 10, some (.ok "no")⟩], .ok (.mismatch "no"), 0⟩] c₅ 0 :=
    .next ⟨frame, 10, rest, _, _, 0⟩
      (.next ⟨frame, 10, first, _, _, 1⟩ .fresh (Delivers.run .timedOut)
        (hwrite₁.passes.append ((Channel.Moves.arrive c₁ first).passes.append
          (Channel.Moves.giveUp 10 hlook₂).passes)))
      (Delivers.run (.late "RESULT_ACK" (.judged "no"))) hpasses₂
  refine ⟨_, c₅, hhistory, rfl, ?_⟩
  apply replies_paired Channel.isOpen_opened.intact hhistory
  · simpa using ⟨hack, hno⟩
  · have hpending : Channel.opened.pending = [] := rfl
    refine ⟨[], ?_⟩
    simp [hpending, framesOf_cons, frameBytes, first, rest]
  · simp

end QueryGateway.Link
