import PathRouting.Run

/-!
# What runs preserve

What every answer of a system preserves is preserved by its runs, and a log that grows by what single
answers add to it can be read off the answers of a run.
-/

namespace PathRouting.Run

variable {σ ι α β : Type} {respond : σ → ι → α × σ}

/-- A run can be interrupted. -/
theorem after_append (s : σ) (inputs later : List ι) :
    after respond s (inputs ++ later) = after respond (after respond s inputs) later := by
  induction inputs generalizing s with
  | nil => rfl
  | cons input rest ih => exact ih (respond s input).2

/-- The answers of a run are those before an interruption and those behind it. -/
theorem answers_append (s : σ) (inputs later : List ι) :
    answers respond s (inputs ++ later) =
      answers respond s inputs ++ answers respond (after respond s inputs) later := by
  induction inputs generalizing s with
  | nil => rfl
  | cons input rest ih => exact congrArg _ (ih (respond s input).2)

/-- What every answer preserves holds after a run. -/
theorem after_preserves {P : σ → Prop} (hstep : ∀ s input, P s → P (respond s input).2) {s : σ}
    (h : P s) (inputs : List ι) : P (after respond s inputs) := by
  induction inputs generalizing s with
  | nil => exact h
  | cons input rest ih => exact ih (hstep s input h)

/-- A log to which every answer adds at most one entry holds, after a run, the entries that the
answers of the run have added, in their order. -/
theorem log_after {log : σ → List β} {added? : ι → α → Option β}
    (hstep : ∀ s input, log (respond s input).2 =
      log s ++ (added? input (respond s input).1).toList) (s : σ) (inputs : List ι) :
    log (after respond s inputs) = log s ++
      (inputs.zip (answers respond s inputs)).filterMap fun (input, answer) =>
        added? input answer := by
  induction inputs generalizing s with
  | nil => exact (List.append_nil _).symm
  | cons input rest ih =>
    rw [after, ih, hstep, answers, List.zip_cons_cons, List.append_assoc]
    congr 1
    cases hadded : added? input (respond s input).1 with
    | none => rw [List.filterMap_cons_none (by exact hadded), Option.toList_none, List.nil_append]
    | some entry =>
      rw [List.filterMap_cons_some (by exact hadded), Option.toList_some, List.singleton_append]

end PathRouting.Run
