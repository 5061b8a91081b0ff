/-
  Rulebook.Text.Runs

  Tables of characters.  A table is an array of runs of code points that have something in common,
  lowest first, and a character is looked up by halving the array.
-/

namespace Rulebook.Text

/-- The first and the last member of a run. -/
abbrev Bounds := Nat × Nat

/-- The run from position `lo` up to `hi` that holds `n`, by halving the range `fuel` times at
most. -/
def findRun {α : Type} (bounds : α → Bounds) (runs : Array α) (n : Nat) :
    (fuel lo hi : Nat) → Option α
  | 0, _, _ => none
  | fuel + 1, lo, hi =>
    if lo < hi then
      let mid := (lo + hi) / 2
      match runs[mid]? with
      | none => none
      | some run =>
        if n < (bounds run).1 then findRun bounds runs n fuel lo mid
        else if (bounds run).2 < n then findRun bounds runs n fuel (mid + 1) hi
        else some run
    else none

/-- The run that holds a code point. -/
def runOf? {α : Type} (bounds : α → Bounds) (runs : Array α) (n : Nat) : Option α :=
  findRun bounds runs n runs.size 0 runs.size

/-- Whether one of the runs holds a character. -/
def inRuns (runs : Array Bounds) (c : Char) : Bool :=
  (runOf? id runs c.toNat).isSome

/-- What the members of the run that holds a character have in common. -/
def valueInRuns? {α : Type} (runs : Array (Nat × Nat × α)) (c : Char) : Option α :=
  (runOf? (fun run => (run.1, run.2.1)) runs c.toNat).map fun run => run.2.2

end Rulebook.Text
