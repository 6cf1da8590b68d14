/-! Sets of characters given as runs of code points, the form in which character properties are
tabulated. -/

namespace DocOptions.Text

/-- The code points from `first` to `last` at a distance of `step`. -/
structure Run where
  first : Nat
  last : Nat
  step : Nat

def Run.contains (run : Run) (n : Nat) : Bool :=
  run.first ≤ n && n ≤ run.last && (n - run.first) % run.step == 0

/-- Whether a character is in one of the runs. -/
def inRuns (runs : Array Run) (c : Char) : Bool :=
  runs.any (·.contains c.toNat)

end DocOptions.Text
