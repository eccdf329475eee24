import QueryGateway.Program

/-! # Runs of programs

A run of a program is its requests, each with the answer it got, and its result. A world answers
every request in view of all that was asked before, as it likes, so what holds of the run in every
world holds whatever the answers are.
-/

namespace QueryGateway

/-- A request and the answer it got. -/
structure Exchange (I : Interface) where
  request : I.Request
  answer : I.Answer request

/-- What holds of each element in view of those before it holds of the first one in view of none,
and of the others in view of the first one too. -/
theorem forall_split_cons_iff {α : Type} {x : α} {rest : List α} {p : List α → α → Prop} :
    (∀ before y after, x :: rest = before ++ y :: after → p before y) ↔
      p [] x ∧ ∀ before y after, rest = before ++ y :: after → p (x :: before) y := by
  constructor
  · intro h
    refine ⟨h [] x rest rfl, fun before y after hsplit => h (x :: before) y after ?_⟩
    rw [hsplit, List.cons_append]
  · rintro ⟨hfirst, hrest⟩ before y after hsplit
    rcases List.cons_eq_append_iff.mp hsplit with ⟨rfl, heq⟩ | ⟨more, rfl, heq⟩
    · obtain ⟨rfl, rfl⟩ := List.cons.inj heq
      exact hfirst
    · exact hrest more y after heq

namespace Program

variable {I : Interface} {α β : Type}

/-- The runs of a program. Every answer to every request is possible. -/
inductive Run : Program I α → List (Exchange I) → α → Prop where
  | done (a : α) : Run (.done a) [] a
  | perform {request : I.Request} {next : I.Answer request → Program I α}
      {log : List (Exchange I)} {a : α} (answer : I.Answer request) :
      Run (next answer) log a → Run (.perform request next) (⟨request, answer⟩ :: log) a

namespace Run

@[simp] theorem done_iff {a b : α} {log : List (Exchange I)} :
    Run (.done a) log b ↔ log = [] ∧ b = a := by
  constructor
  · intro h
    cases h
    exact ⟨rfl, rfl⟩
  · rintro ⟨rfl, rfl⟩
    exact .done _

theorem perform_iff {request : I.Request} {next : I.Answer request → Program I α}
    {log : List (Exchange I)} {b : α} :
    Run (.perform request next) log b ↔
      ∃ answer rest, log = ⟨request, answer⟩ :: rest ∧ Run (next answer) rest b := by
  constructor
  · intro h
    cases h with
    | perform answer h => exact ⟨answer, _, rfl, h⟩
  · rintro ⟨answer, rest, rfl, h⟩
    exact .perform answer h

@[simp] theorem ask_iff {request : I.Request} {log : List (Exchange I)}
    {b : I.Answer request} : Run (.ask request) log b ↔ log = [⟨request, b⟩] := by
  rw [ask, perform_iff]
  constructor
  · rintro ⟨answer, rest, rfl, h⟩
    obtain ⟨rfl, rfl⟩ := done_iff.mp h
    rfl
  · rintro rfl
    exact ⟨b, [], rfl, .done b⟩

/-- A run of two programs in sequence is a run of the first, then one of the second. -/
theorem bind_iff {p : Program I α} {f : α → Program I β} {log : List (Exchange I)} {b : β} :
    Run (p >>= f) log b ↔
      ∃ a first second, log = first ++ second ∧ Run p first a ∧ Run (f a) second b := by
  induction p generalizing log with
  | done a =>
      constructor
      · intro h
        exact ⟨a, [], log, rfl, .done a, h⟩
      · rintro ⟨a', first, second, rfl, hfirst, hsecond⟩
        obtain ⟨rfl, rfl⟩ := done_iff.mp hfirst
        exact hsecond
  | perform request next ih =>
      rw [perform_bind, perform_iff]
      constructor
      · rintro ⟨answer, rest, rfl, h⟩
        obtain ⟨a, first, second, rfl, hfirst, hsecond⟩ := (ih answer).mp h
        exact ⟨a, ⟨request, answer⟩ :: first, second, rfl, .perform answer hfirst, hsecond⟩
      · rintro ⟨a, first, second, rfl, hfirst, hsecond⟩
        obtain ⟨answer, rest, rfl, hrest⟩ := perform_iff.mp hfirst
        exact ⟨answer, rest ++ second, rfl, (ih answer).mpr ⟨a, rest, second, rfl, hrest, hsecond⟩⟩

/-- A run of two programs in sequence that may fail is a run of the first that fails, or one that
does not, and then one of the second. -/
theorem except_bind_iff {ε : Type} {x : ExceptT ε (Program I) α} {f : α → ExceptT ε (Program I) β}
    {log : List (Exchange I)} {result : Except ε β} :
    Run (x >>= f).run log result ↔
      (∃ e, Run x.run log (.error e) ∧ result = .error e) ∨
        ∃ a first second, log = first ++ second ∧ Run x.run first (.ok a) ∧
          Run (f a).run second result := by
  rw [ExceptT.run_bind, bind_iff]
  constructor
  · rintro ⟨r, first, second, rfl, hfirst, hsecond⟩
    cases r with
    | error e =>
        obtain ⟨rfl, rfl⟩ := done_iff.mp hsecond
        rw [List.append_nil]
        exact .inl ⟨e, hfirst, rfl⟩
    | ok a => exact .inr ⟨a, first, second, rfl, hfirst, hsecond⟩
  · rintro (⟨e, hrun, rfl⟩ | ⟨a, first, second, rfl, hfirst, hsecond⟩)
    · exact ⟨.error e, log, [], (List.append_nil log).symm, hrun, .done _⟩
    · exact ⟨.ok a, first, second, rfl, hfirst, hsecond⟩

/-- If two programs in sequence do not fail, then neither of them does. -/
theorem of_except_bind_ok {ε : Type} {x : ExceptT ε (Program I) α}
    {f : α → ExceptT ε (Program I) β} {log : List (Exchange I)} {b : β}
    (h : Run (x >>= f).run log (.ok b)) :
    ∃ a first second, log = first ++ second ∧ Run x.run first (.ok a) ∧
      Run (f a).run second (.ok b) := by
  rcases except_bind_iff.mp h with ⟨e, -, herror⟩ | hok
  · cases herror
  · exact hok

end Run

/-- What is left of a program after some exchanges. -/
inductive Reaches : Program I α → List (Exchange I) → Program I α → Prop where
  | refl (p : Program I α) : Reaches p [] p
  | perform {request : I.Request} {next : I.Answer request → Program I α}
      {log : List (Exchange I)} {p : Program I α} (answer : I.Answer request) :
      Reaches (next answer) log p → Reaches (.perform request next) (⟨request, answer⟩ :: log) p

namespace Reaches

variable {p q : Program I α} {log rest : List (Exchange I)}

theorem answer {request : I.Request} {next : I.Answer request → Program I α}
    (h : p.Reaches log (.perform request next)) (reply : I.Answer request) :
    p.Reaches (log ++ [⟨request, reply⟩]) (next reply) := by
  generalize hq : (Program.perform request next : Program I α) = q at h
  induction h with
  | refl =>
      subst hq
      exact .perform reply (.refl _)
  | perform first _ ih => exact .perform first (ih hq)

theorem run {a : α} (h : p.Reaches log q) (hrun : q.Run rest a) : p.Run (log ++ rest) a := by
  induction h with
  | refl => exact hrun
  | perform first _ ih => exact .perform first (ih hrun)

/-- A program that has come to its end has made one of its runs. -/
theorem run_of_done {a : α} (h : p.Reaches log (.done a)) : p.Run log a := by
  have hrun := h.run (.done a)
  rwa [List.append_nil] at hrun

end Reaches

/-- If every request can be answered, then a program can come to its end. -/
theorem exists_run [∀ request, Inhabited (I.Answer request)] (p : Program I α) :
    ∃ log a, p.Run log a := by
  induction p with
  | done a => exact ⟨[], a, .done a⟩
  | perform request next ih =>
      obtain ⟨log, a, hrun⟩ := ih default
      exact ⟨_, a, .perform default hrun⟩

end Program

/-- Answers every request in view of what was asked and answered before. -/
abbrev World (I : Interface) := List (Exchange I) → (request : I.Request) → I.Answer request

namespace World

variable {I : Interface} {α : Type}

/-- Runs a program in a world with a past. The result and the exchanges of the run are returned. -/
def play (w : World I) (past : List (Exchange I)) : Program I α → α × List (Exchange I)
  | .done a => (a, [])
  | .perform request next =>
    let exchange : Exchange I := ⟨request, w past request⟩
    let (a, log) := w.play (past ++ [exchange]) (next exchange.answer)
    (a, exchange :: log)

/-- What a program does in a world is one of its runs. -/
theorem run_play (w : World I) (past : List (Exchange I)) (p : Program I α) :
    p.Run (w.play past p).2 (w.play past p).1 := by
  induction p generalizing past with
  | done a => exact .done a
  | perform request next ih => exact .perform _ (ih (w past request) _)

/-- Two programs in sequence are played one after the other. -/
theorem play_bind {β : Type} (w : World I) (past : List (Exchange I)) (p : Program I α)
    (f : α → Program I β) :
    w.play past (p >>= f) =
      let (a, first) := w.play past p
      let (b, second) := w.play (past ++ first) (f a)
      (b, first ++ second) := by
  induction p generalizing past with
  | done a => simp [play]
  | perform request next ih => simp [play, ih]

/-- The first request of a run is answered by what the world says at that moment. -/
theorem head_play {w : World I} {past rest : List (Exchange I)} {p : Program I α}
    {exchange : Exchange I} (h : (w.play past p).2 = exchange :: rest) :
    exchange.answer = w past exchange.request := by
  cases p with
  | done a => cases h
  | perform request next =>
      cases h
      rfl

/-- Every request of a run is answered by what the world says at that moment. -/
theorem exists_past_of_mem_play {w : World I} {past : List (Exchange I)} {p : Program I α}
    {exchange : Exchange I} (h : exchange ∈ (w.play past p).2) :
    ∃ earlier, exchange.answer = w earlier exchange.request := by
  induction p generalizing past with
  | done a => cases h
  | perform request next ih =>
      rcases List.mem_cons.mp h with rfl | hrest
      · exact ⟨past, rfl⟩
      · exact ih _ hrest

end World

end QueryGateway
