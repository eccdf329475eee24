/-! # Runs of steps -/

namespace QueryGateway.Simulation

/-- Performs steps one after the other and collects their outcomes. -/
def runSteps (step : σ → α → β × σ) : List α → σ → List β × σ
  | [], s => ([], s)
  | a :: rest, s =>
    let (outcome, s) := step s a
    let (outcomes, s) := runSteps step rest s
    (outcome :: outcomes, s)

theorem runSteps_append (step : σ → α → β × σ) (as bs : List α) (s : σ) :
    runSteps step (as ++ bs) s =
      let (outcomes, s) := runSteps step as s
      let (more, s) := runSteps step bs s
      (outcomes ++ more, s) := by
  induction as generalizing s with
  | nil => rfl
  | cons a as ih => simp [runSteps, ih]

end QueryGateway.Simulation
