namespace RefExpand.Unicode

/-!
# Runs of code points

The tables of Unicode list code points as runs, whose steps keep the alternating
blocks of capital and small letters short.
-/

/-- The code points from `first` to `last` in steps of `step`. -/
structure CodeRun where
  first : Nat
  last : Nat
  step : Nat
  deriving Repr, DecidableEq

/-- The code point lies in the run. -/
def CodeRun.contains (run : CodeRun) (code : Nat) : Bool :=
  run.first ≤ code && code ≤ run.last && (code - run.first) % run.step == 0

/-- The code points of a run in order. -/
def CodeRun.toList (run : CodeRun) : List Nat :=
  List.range' run.first ((run.last - run.first) / run.step + 1) run.step

/-- The code point lies in one of the runs. -/
def inRuns (runs : List CodeRun) (code : Nat) : Bool :=
  runs.any (·.contains code)

/-- A run of code points whose partner in the other case is `shift` further on. -/
structure CaseRun where
  codes : CodeRun
  shift : Int
  deriving Repr, DecidableEq

end RefExpand.Unicode
