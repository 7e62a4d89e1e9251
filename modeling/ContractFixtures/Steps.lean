/-!
# Repeated steps

A step is repeated until it gives a result. A reader of text passes at least one character with
every step but the last, so the length of the text bounds the number of steps.
-/

namespace ContractFixtures

/-- Repeats a step, which gives a new state or the result, a number of times at most. -/
def repeatStep {σ α : Type} (step : σ → Option (σ ⊕ α)) : Nat → σ → Option α
  | 0, _ => none
  | count + 1, s =>
    match step s with
    | none => none
    | some (.inr result) => some result
    | some (.inl next) => repeatStep step count next

end ContractFixtures
