import QueryGateway.Cli.Failure
import QueryGateway.Proofs.Program.Runs

/-! # Runs of commands

A command ends with a result or with a failure, and a failure is its end wherever it comes from.
Of what a command does, the frames that it writes are what the other side sees.
-/

namespace QueryGateway

/-- The frame that is written. -/
def Exchange.frame? (e : Exchange Host) : Option String :=
  match e.request with
  | .wire (.write frame) => some frame
  | _ => none

namespace Cli

/-- The frames that were written. -/
def sent (log : List (Exchange Host)) : List String :=
  log.filterMap Exchange.frame?

@[simp] theorem sent_cons_write (frame : String) (answer : Except WireError Unit)
    (log : List (Exchange Host)) :
    sent (⟨.wire (.write frame), answer⟩ :: log) = frame :: sent log := rfl

@[simp] theorem sent_append (first second : List (Exchange Host)) :
    sent (first ++ second) = sent first ++ sent second :=
  List.filterMap_append

theorem fst_play_perform {α : Type} {w : World Host} {past : List (Exchange Host)}
    {request : Host.Request} {next : Host.Answer request → Program Host α}
    {answer : Host.Answer request} (h : w past request = answer) :
    (w.play past (.perform (I := Host) request next)).1 =
      (w.play (past ++ [⟨request, answer⟩]) (next answer)).1 := by
  subst h
  rfl

namespace Command

variable {α β ε : Type} {x : Command α} {f : α → Command β} {log past : List (Exchange Host)}
  {w : World Host}

/-! ## Commands in sequence -/

theorem play_bind_of_ok {a : α} {first : List (Exchange Host)}
    (h : w.play past x.run = (.ok a, first)) :
    w.play past (x >>= f).run =
      ((w.play (past ++ first) (f a).run).1, first ++ (w.play (past ++ first) (f a).run).2) := by
  rw [ExceptT.run_bind, World.play_bind, h]

/-- The result of a command that follows another one. -/
theorem fst_play_bind {a : α} {first : List (Exchange Host)}
    (h : w.play past x.run = (.ok a, first)) :
    (w.play past (x >>= f).run).1 = (w.play (past ++ first) (f a).run).1 := by
  rw [play_bind_of_ok h]

theorem play_bind_of_error {e : Failure} {first : List (Exchange Host)}
    (h : w.play past x.run = (.error e, first)) :
    w.play past (x >>= f).run = (.error e, first) := by
  rw [ExceptT.run_bind, World.play_bind, h]
  simp [World.play]

/-! ## Requests -/

theorem run_attempt (p : Program Host (Except ε α)) (failure : ε → Failure) :
    (attempt p failure).run = p >>= fun r => .done (r.mapError failure) := by
  rw [attempt, host]
  simp only [ExceptT.run_bind, ExceptT.run_lift, map_eq_pure_bind, bind_assoc]
  congr 1
  funext r
  cases r <;> rfl

theorem play_attempt (p : Program Host (Except ε α)) (failure : ε → Failure) :
    w.play past (attempt p failure).run =
      ((w.play past p).1.mapError failure, (w.play past p).2) := by
  rw [run_attempt, World.play_bind]
  simp [World.play]

theorem fst_play_attempt_bind (p : Program Host (Except ε α)) (failure : ε → Failure) (b : β) :
    (w.play past (attempt p failure >>= fun _ => pure b).run).1 =
      ((w.play past p).1.mapError failure).map fun _ => b := by
  rw [ExceptT.run_bind, World.play_bind, play_attempt]
  cases (w.play past p).1 with
  | error e => rfl
  | ok a => rfl

theorem run_attempt_iff {p : Program Host (Except ε α)} {failure : ε → Failure}
    {result : Except Failure α} :
    (attempt p failure).run.Run log result ↔
      ∃ r, p.Run log r ∧ result = r.mapError failure := by
  rw [run_attempt, Program.Run.bind_iff]
  constructor
  · rintro ⟨r, first, second, rfl, hfirst, hsecond⟩
    obtain ⟨rfl, rfl⟩ := Program.Run.done_iff.mp hsecond
    rw [List.append_nil]
    exact ⟨r, hfirst, rfl⟩
  · rintro ⟨r, hrun, rfl⟩
    exact ⟨r, log, [], (List.append_nil log).symm, hrun, .done _⟩

end Command

/-! ## Programs that write nothing -/

section

variable {α β ε : Type}

/-- No frame is written, whatever the answers are. -/
def IsSilent (p : Program Host α) : Prop :=
  ∀ log a, p.Run log a → sent log = []

theorem isSilent_done (a : α) : IsSilent (.done a) := by
  intro log result hrun
  obtain ⟨rfl, -⟩ := Program.Run.done_iff.mp hrun
  rfl

theorem isSilent_perform {request : Host.Request} {next : Host.Answer request → Program Host α}
    (hframe : ∀ answer, Exchange.frame? ⟨request, answer⟩ = none)
    (hnext : ∀ answer, IsSilent (next answer)) : IsSilent (.perform (I := Host) request next) := by
  intro log a hrun
  obtain ⟨answer, rest, rfl, hrest⟩ := Program.Run.perform_iff.mp hrun
  rw [sent, List.filterMap_cons_none (hframe answer)]
  exact hnext answer rest a hrest

theorem IsSilent.bind {p : Program Host α} {f : α → Program Host β} (hp : IsSilent p)
    (hf : ∀ a, IsSilent (f a)) : IsSilent (p >>= f) := by
  intro log b hrun
  obtain ⟨a, first, second, rfl, hfirst, hsecond⟩ := Program.Run.bind_iff.mp hrun
  rw [sent_append, hp first a hfirst, hf a second b hsecond]
  rfl

theorem IsSilent.run_bind {x : Command α} {f : α → Command β} (hx : IsSilent x.run)
    (hf : ∀ a, IsSilent (f a).run) : IsSilent (x >>= f).run := by
  rw [ExceptT.run_bind]
  apply hx.bind
  intro r
  cases r with
  | error e => exact isSilent_done _
  | ok a => exact hf a

theorem IsSilent.attempt {p : Program Host (Except ε α)} (hp : IsSilent p)
    (failure : ε → Failure) : IsSilent (Command.attempt p failure).run := by
  rw [Command.run_attempt]
  exact hp.bind fun _ => isSilent_done _

theorem IsSilent.host {p : Program Host α} (hp : IsSilent p) :
    IsSilent (Command.host p).run := by
  rw [Command.host, ExceptT.run_lift, map_eq_pure_bind]
  exact hp.bind fun _ => isSilent_done _

end

end Cli

end QueryGateway
