import SnippetProfiler.Metrics.Data

/-!
# Verdicts

Which of two runs did better.  Three metrics count, and a smaller value is better in each:
the time of execution with weight 3, the peak of memory with weight 2, the number of calls
with weight 1.  The score adds up the weights of the metrics in which the second run is
better and subtracts those in which it is worse.  Of a score of zero, the heaviest metric
that differs decides.

Differences are second minus first, so that a negative one is an improvement.  They are given in
any quantity that integers can be rounded to; in the rational numbers nothing is rounded.
-/

namespace SnippetProfiler

open Validation (Checked Fields float int record Reason)

/-- The run that did better. -/
inductive Verdict where
  | first
  | second
  | tie
  deriving DecidableEq, Repr

/-- How a metric differs. -/
structure MetricDelta (τ : Type) where
  delta : τ
  percent : τ
  deriving Repr

/-- How two runs differ, and which did better. -/
structure Comparison (τ : Type) where
  time : MetricDelta τ
  memory : MetricDelta τ
  calls : MetricDelta τ
  verdict : Verdict
  score : Int := 0
  deriving Repr

variable {τ : Type}

/-! ### The verdict -/

/-- The signs of the differences of the metrics, the heaviest metric first. -/
def differenceSigns [Quantity τ] (a b : MetricsSummary τ) : List Int :=
  [Quantity.sign (Quantity.sub b.executionTime a.executionTime),
   (b.peakMemory - a.peakMemory).sign, (b.callCount - a.callCount).sign]

/-- The weights of the metrics, the heaviest first. -/
def weights : List Int := [3, 2, 1]

/-- The score of the second run against the first one. -/
def scoreOf (signs : List Int) : Int :=
  let score := (List.zipWith (fun weight sign => weight * -sign) weights signs).foldl (· + ·) 0
  if score = 0 then -((signs.find? (· ≠ 0)).getD 0) else score

/-- The verdict of a score. -/
def Verdict.ofScore (score : Int) : Verdict :=
  if 0 < score then .second else if score < 0 then .first else .tie

/-- The verdict on two runs. -/
def verdictOn [Quantity τ] (a b : MetricsSummary τ) : Verdict :=
  .ofScore (scoreOf (differenceSigns a b))

/-! ### Differences -/

/-- How integers and their quotients are rounded to quantities, unless they are too large. -/
class Rounding (τ : Type) where
  ofInt? : Int → Option τ
  quotient? : Int → Int → Option τ

instance : Rounding Float where
  ofInt? := Decimal.ofInt?
  quotient? a b := Decimal.nearest? ((a < 0) != (b < 0)) a.natAbs b.natAbs

instance : Rounding Rat where
  ofInt? n := some n
  quotient? a b := some (a / b)

/-- Why a difference cannot be given as a float. -/
inductive DeltaError where
  | integerTooLarge
  | quotientTooLarge
  | deltaTooLarge
  deriving DecidableEq, Repr

/-- The wording of an error; a delta that is too large is a fault of the record. -/
def DeltaError.message : DeltaError → String
  | .integerTooLarge => "int too large to convert to float"
  | .quotientTooLarge => "integer division result too large for a float"
  | .deltaTooLarge => ""

/-- The change in percent from nothing, to something or to nothing. -/
def percentFromZero [Quantity τ] (isSame : Bool) : τ :=
  if isSame then Quantity.zero else Quantity.ofInt 100

/-- How quantities differ. -/
def quantityDelta [Quantity τ] [BEq τ] (a b : τ) : MetricDelta τ :=
  let delta := Quantity.sub b a
  ⟨delta,
    if a == Quantity.zero then percentFromZero (b == Quantity.zero)
    else Quantity.mul (Quantity.div delta a) (Quantity.ofInt 100)⟩

/-- How integers differ; the difference is exact before it becomes a quantity. -/
def intDelta [Quantity τ] [Rounding τ] (a b : Int) : Except DeltaError (MetricDelta τ) :=
  let delta := b - a
  let percent : Except DeltaError τ :=
    if a = 0 then .ok (percentFromZero (b = 0))
    else match Rounding.quotient? delta a with
      | some q => .ok (Quantity.mul q (Quantity.ofInt 100))
      | none => .error .quotientTooLarge
  match percent with
  | .error e => .error e
  | .ok p => match Rounding.ofInt? delta with
    | some d => .ok ⟨d, p⟩
    | none => .error .deltaTooLarge

/-- A measurement: an exact integer or a float. -/
inductive Measure where
  | exact (n : Int)
  | float (x : Float)
  deriving Repr

/-- How measurements differ. -/
def metricDelta : Measure → Measure → Except DeltaError (MetricDelta Float)
  | .exact a, .exact b => intDelta a b
  | .float a, .float b => .ok (quantityDelta a b)
  | .exact a, .float b =>
    match Decimal.ofInt? a with
    | some a => .ok (quantityDelta a b)
    | none => .error .integerTooLarge
  | .float a, .exact b =>
    match Decimal.ofInt? b with
    | some b => .ok (quantityDelta a b)
    | none => .error .integerTooLarge

/-- How two runs differ. -/
def compareMetrics [Quantity τ] [BEq τ] [Rounding τ] (a b : MetricsSummary τ) :
    Except DeltaError (Comparison τ) := do
  let time := quantityDelta a.executionTime b.executionTime
  let memory ← intDelta a.peakMemory b.peakMemory
  let calls ← intDelta a.callCount b.callCount
  return ⟨time, memory, calls, verdictOn a b, scoreOf (differenceSigns a b)⟩

/-! ### Comparisons as data -/

/-- The word for a verdict. -/
def Verdict.word : Verdict → String
  | .first => "first"
  | .second => "second"
  | .tie => "tie"

/-- Reads a verdict. -/
def Verdict.read : Json → Checked Verdict
  | .str s => match [Verdict.first, .second, .tie].find? (·.word = s) with
    | some v => .valid v
    | none => .fault .notTheLiteral
  | _ => .fault .notTheLiteral

/-- Reads how a metric differs. -/
def MetricDelta.read : Json → Checked (MetricDelta Float) :=
  record fun fields =>
    MetricDelta.mk <$> fields.required "delta" float <*> fields.required "percentChange" float

/-- How a metric differs as data. -/
def MetricDelta.toJson (d : MetricDelta Float) : Json :=
  .obj [("delta", .float d.delta), ("percentChange", .float d.percent)]

/-- Reads how two runs differ. -/
def Comparison.read : Json → Checked (Comparison Float) :=
  record fun fields =>
    Comparison.mk <$> fields.required "executionTime" MetricDelta.read
      <*> fields.required "peakMemory" MetricDelta.read
      <*> fields.required "functionCalls" MetricDelta.read
      <*> fields.required "verdict" Verdict.read
      <*> fields.optional "score" 0 int

/-- How two runs differ as data. -/
def Comparison.toJson (c : Comparison Float) : Json :=
  .obj [("executionTime", c.time.toJson), ("peakMemory", c.memory.toJson),
    ("functionCalls", c.calls.toJson), ("verdict", .str c.verdict.word), ("score", .int c.score)]

end SnippetProfiler
