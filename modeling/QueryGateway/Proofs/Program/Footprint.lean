import QueryGateway.Proofs.Program.Runs

/-! # Footprints of programs

A program that only makes requests of one kind depends on the past only as far as the answers to
these requests do. Two programs that make the same requests can be played after two such pasts, in
step with each other.
-/

namespace QueryGateway

namespace Program

variable {I : Interface} {α β γ δ : Type} {P : I.Request → Prop} {R : α → β → Prop}

/-- Two programs make the same requests, all of one kind, and their results are related. -/
inductive Alike (P : I.Request → Prop) (R : α → β → Prop) : Program I α → Program I β → Prop where
  | done {a : α} {b : β} : R a b → Alike P R (.done a) (.done b)
  | perform {request : I.Request} {next : I.Answer request → Program I α}
      {next' : I.Answer request → Program I β} : P request →
      (∀ answer, Alike P R (next answer) (next' answer)) →
      Alike P R (.perform request next) (.perform request next')

theorem Alike.bind {S : γ → δ → Prop} {p : Program I α} {q : Program I β} {f : α → Program I γ}
    {g : β → Program I δ} (h : Alike P R p q) (hnext : ∀ a b, R a b → Alike P S (f a) (g b)) :
    Alike P S (p >>= f) (q >>= g) := by
  induction h with
  | done hR => exact hnext _ _ hR
  | perform hP _ ih => exact .perform hP ih

/-- The requests of a run are of the kind that its program makes. -/
theorem Alike.of_run {p : Program I α} {q : Program I β} {log : List (Exchange I)} {a : α}
    (h : Alike P R p q) (hrun : p.Run log a) : (∃ b, R a b) ∧ ∀ e ∈ log, P e.request := by
  induction h generalizing log with
  | @done _ b hR =>
      obtain ⟨rfl, rfl⟩ := Run.done_iff.mp hrun
      exact ⟨⟨b, hR⟩, fun _ he => absurd he List.not_mem_nil⟩
  | perform hP _ ih =>
      obtain ⟨answer, rest, rfl, hrest⟩ := Run.perform_iff.mp hrun
      obtain ⟨hresult, hkind⟩ := ih answer hrest
      exact ⟨hresult, List.forall_mem_cons.mpr ⟨hP, hkind⟩⟩

/-- So are those of a run that is cut off. -/
theorem Alike.of_reaches {p p' : Program I α} {q : Program I β} {log : List (Exchange I)}
    (h : Alike P R p q) (hreaches : p.Reaches log p') : ∀ e ∈ log, P e.request := by
  induction hreaches generalizing q with
  | refl => exact fun _ he => absurd he List.not_mem_nil
  | perform answer _ ih =>
      cases h with
      | perform hP hnext => exact List.forall_mem_cons.mpr ⟨hP, ih (hnext answer)⟩

end Program

/-- If a world gives the same answers after two pasts, then programs that make the same requests
come to related results. -/
theorem World.play_alike {I : Interface} {α β : Type} {w : World I} {P : I.Request → Prop}
    {R : α → β → Prop} {A : List (Exchange I) → List (Exchange I) → Prop}
    (hanswer : ∀ past past' request, A past past' → P request → w past request = w past' request)
    (hkeep : ∀ past past' e, A past past' → P e.request → A (past ++ [e]) (past' ++ [e]))
    {p : Program I α} {q : Program I β} (h : p.Alike P R q) {past past' : List (Exchange I)}
    (hA : A past past') :
    R (w.play past p).1 (w.play past' q).1 ∧ (w.play past p).2 = (w.play past' q).2 ∧
      A (past ++ (w.play past p).2) (past' ++ (w.play past' q).2) := by
  induction h generalizing past past' with
  | done hR => exact ⟨hR, rfl, by simpa [play] using hA⟩
  | @perform request next next' hP _ ih =>
      have hsame := hanswer past past' request hA hP
      obtain ⟨hresult, hlog, hpast⟩ :=
        ih (w past' request) (hkeep past past' ⟨request, w past' request⟩ hA hP)
      simp only [play, hsame]
      refine ⟨hresult, by rw [hlog], ?_⟩
      rw [List.append_assoc, List.append_assoc] at hpast
      exact hpast

end QueryGateway
