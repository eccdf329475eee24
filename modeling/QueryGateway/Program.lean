/-! # Programs over an interface

A component that talks to the world is written as a tree of requests: it performs one, receives
its answer and goes on. Whoever runs the component decides what the answers are, so one component
runs on a network, on a virtual clock, or against every possible answer in a proof.
-/

namespace QueryGateway

/-- The requests a program may make, and the type of the answer to each. -/
structure Interface where
  Request : Type
  Answer : Request → Type

/-- A program over an interface, with a result of type `α`. -/
inductive Program (I : Interface) (α : Type) where
  | done (result : α)
  | perform (request : I.Request) (next : I.Answer request → Program I α)

namespace Program

variable {I : Interface} {α β σ : Type}

/-- Makes one request and returns its answer. -/
def ask (request : I.Request) : Program I (I.Answer request) :=
  .perform request .done

/-- Goes on with the result of a program. -/
def bind : Program I α → (α → Program I β) → Program I β
  | .done a, f => f a
  | .perform request next, f => .perform request fun answer => (next answer).bind f

instance : Monad (Program I) where
  pure := .done
  bind := bind

@[simp] theorem pure_eq (a : α) : (pure a : Program I α) = .done a := rfl

@[simp] theorem done_bind (a : α) (f : α → Program I β) : (.done a >>= f) = f a := rfl

@[simp] theorem perform_bind (request : I.Request) (next : I.Answer request → Program I α)
    (f : α → Program I β) :
    (.perform request next >>= f) = .perform request fun answer => next answer >>= f := rfl

theorem bind_done (p : Program I α) : (p >>= Program.done) = p := by
  induction p with
  | done a => rfl
  | perform request next ih => simp [ih]

theorem bind_assoc {γ : Type} (p : Program I α) (f : α → Program I β) (g : β → Program I γ) :
    (p >>= f >>= g) = p >>= fun a => f a >>= g := by
  induction p with
  | done a => rfl
  | perform request next ih => simp [ih]

instance : LawfulMonad (Program I) :=
  LawfulMonad.mk' _ bind_done (fun _ _ => rfl) bind_assoc

/-- How a world in state `σ` answers requests. Without an answer the program waits for ever. -/
abbrev Handler (I : Interface) (σ : Type) :=
  (request : I.Request) → σ → Option (I.Answer request) × σ

/-- Runs a program in a world. There is no result if a request is never answered. -/
def run (handle : Handler I σ) : Program I α → σ → Option α × σ
  | .done a, s => (some a, s)
  | .perform request next, s =>
    match handle request s with
    | (some answer, s) => (next answer).run handle s
    | (none, s) => (none, s)

/-- Runs a program in a monad whose actions answer its requests. -/
def interpret {m : Type → Type} [Monad m]
    (answer : (request : I.Request) → m (I.Answer request)) : Program I α → m α
  | .done a => pure a
  | .perform request next => do
    let reply ← answer request
    (next reply).interpret answer

/-- Running two programs in sequence is running the first, then the second. -/
theorem interpret_bind {m : Type → Type} [Monad m] [LawfulMonad m]
    (answer : (request : I.Request) → m (I.Answer request))
    (p : Program I α) (f : α → Program I β) :
    (p >>= f).interpret answer = p.interpret answer >>= fun a => (f a).interpret answer := by
  induction p with
  | done a => simp [interpret]
  | perform request next ih => simp [interpret, ih]

end Program

end QueryGateway
