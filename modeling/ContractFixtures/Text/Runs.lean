/-!
# Runs of code points

A property of characters that is constant over long stretches is kept as a list of runs: the
first code point of each run and the value that holds from there up to the next run.
-/

namespace ContractFixtures.Text

/-- Consecutive runs of code points with one value each, in ascending order. -/
structure Runs (α : Type) where
  starts : Array (Nat × α)

namespace Runs

variable {α : Type}

/-- Reads lines of runs written as a name and a length each (`Lu26 Ll26`), the first of which
starts at code point 0. -/
def ofLines (valueOf : List Char → α) (lines : List String) : Runs α :=
  let step := fun (acc : Array (Nat × α) × Nat) (word : String) =>
    let name := word.toList.takeWhile (!·.isDigit)
    let digits := word.toList.dropWhile (!·.isDigit)
    let size := digits.foldl (fun n c => n * 10 + (c.toNat - '0'.toNat)) 0
    (acc.1.push (acc.2, valueOf name), acc.2 + size)
  ⟨((lines.flatMap (·.splitOn " ")).foldl step (#[], 0)).1⟩

/-- Reads lines of lengths of runs in which a property fails and holds by turns. -/
def ofLengths (lines : List String) : Runs Bool :=
  let step := fun (acc : Array (Nat × Bool) × Nat × Bool) (word : String) =>
    (acc.1.push (acc.2.1, acc.2.2), acc.2.1 + word.toNat?.getD 0, !acc.2.2)
  let all := (lines.flatMap (·.splitOn " ")).foldl step (#[], 0, false)
  ⟨all.1.push all.2⟩

/-- Reads lines of runs written as an integer and a length each (`32:26 -32:26`). -/
def ofPairs (lines : List String) : Runs Int :=
  let step := fun (acc : Array (Nat × Int) × Nat) (word : String) =>
    match word.splitOn ":" with
    | [value, size] => (acc.1.push (acc.2, value.toInt?.getD 0), acc.2 + size.toNat?.getD 0)
    | _ => acc
  ⟨((lines.flatMap (·.splitOn " ")).foldl step (#[], 0)).1⟩

/-- The index of the last run in `[low, high)` that starts at or before `code`. -/
def indexOf (runs : Array (Nat × α)) (code low high : Nat) : Nat :=
  if high ≤ low + 1 then low
  else
    let middle := (low + high) / 2
    match runs[middle]? with
    | none => low
    | some (start, _) =>
      if start ≤ code then indexOf runs code middle high else indexOf runs code low middle
termination_by high - low

/-- The stretches between the starts of runs, up to the last code point, whose values have a
property: the first and the last code point of each. -/
def stretches (p : α → Bool) : List (Nat × α) → List (Nat × Nat)
  | [] => []
  | [(first, value)] => if p value && first ≤ 0x10ffff then [(first, 0x10ffff)] else []
  | (first, value) :: (next, value') :: rest =>
    let others := stretches p ((next, value') :: rest)
    if p value && first < next then (first, next - 1) :: others else others

/-- The ranges of code points whose values have a property. -/
def ranges (runs : Runs α) (p : α → Bool) : List (Nat × Nat) :=
  stretches p runs.starts.toList

/-- The value that the runs give to a code point. -/
def valueAt? (runs : Runs α) (code : Nat) : Option α :=
  (runs.starts[indexOf runs.starts code 0 runs.starts.size]?).map (·.2)

end Runs

end ContractFixtures.Text
