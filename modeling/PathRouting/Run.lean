/-!
# Runs

A system is asked one thing after another. It answers each time and goes on from where the answer
has left it.
-/

namespace PathRouting.Run

variable {σ ι α : Type}

/-- The answers to inputs one after another. -/
def answers (respond : σ → ι → α × σ) : σ → List ι → List α
  | _, [] => []
  | s, input :: rest =>
    let (answer, s) := respond s input
    answer :: answers respond s rest

/-- The state after inputs one after another. -/
def after (respond : σ → ι → α × σ) : σ → List ι → σ
  | s, [] => s
  | s, input :: rest => after respond (respond s input).2 rest

end PathRouting.Run
