import SnippetProfiler.Decimal.Sum
import SnippetProfiler.Decimal.Text
import SnippetProfiler.Sorting
import SnippetProfiler.Validation.Record

/-!
# Estimates of growth

How the duration of a snippet grows with the size of its input.  Durations measured for at
least two sizes are fitted by least squares to `a · g(n) + b` with `0 ≤ a`, for each of the
usual growth classes `g`; of the classes whose error is close to the best one, the slowest
growing is chosen.  With fewer sizes the estimate is a hint from the source of the snippet.
-/

namespace SnippetProfiler

/-! ### Powers and logarithms -/

/-- A power of a factor; nothing for the power zero. -/
def powerText (base plain : String) (power : Nat) (suffix : String) : List String :=
  if power = 0 then [] else if power = 1 then [plain] else [base ++ toString power ++ suffix]

/-- The text of the growth `n^power · log^logs n`. -/
def polylog (power logs : Nat) : String :=
  let parts := powerText "n^" "n" power "" ++ powerText "log^" "log n" logs " n"
  "O(" ++ (if parts.isEmpty then "1" else " ".intercalate parts) ++ ")"

open Validation (Checked Fields float string list record)

/-! ### Growth classes -/

/-- The growth classes, the slowest growing first. -/
inductive GrowthClass where
  | constant
  | logarithmic
  | linear
  | linearithmic
  | quadratic
  | cubic
  | exponential
  deriving DecidableEq, Repr

/-- Why an estimate fails. -/
inductive EstimateError where
  | sum (e : Decimal.SumError)
  | powerTooLarge
  | flat
  | noClass
  deriving DecidableEq, Repr

namespace EstimateError

/-- The wording of an error. -/
def message : EstimateError → String
  | sum e => e.message
  | powerTooLarge => "(34, 'Numerical result out of range')"
  | flat => "x is constant"
  | noClass => ""

end EstimateError

namespace GrowthClass

/-- All growth classes, the slowest growing first. -/
def all : List GrowthClass :=
  [constant, logarithmic, linear, linearithmic, quadratic, cubic, exponential]

/-- How a growth class is written. -/
def text : GrowthClass → String
  | constant => "O(1)"
  | logarithmic => "O(log n)"
  | linear => "O(n)"
  | linearithmic => "O(n log n)"
  | quadratic => "O(n^2)"
  | cubic => "O(n^3)"
  | exponential => "O(2^n)"

/-- A power, if it is not too large. -/
def powerOf (x : Float) (n : Nat) : Except EstimateError Float :=
  match Decimal.power? x n with
  | some y => .ok y
  | none => .error .powerTooLarge

/-- The value of a growth function at a size. -/
def value (g : GrowthClass) (n : Float) : Except EstimateError Float :=
  match g with
  | constant => .ok 1
  | logarithmic => .ok (if n > 1 then Float.log2 n else 0)
  | linear => .ok n
  | linearithmic => .ok (if n > 1 then n * Float.log2 n else 0)
  | quadratic => powerOf n 2
  | cubic => powerOf n 3
  | exponential =>
    if Decimal.isFinite n && n ≥ 1024 then .error .powerTooLarge else .ok (Float.pow 2 n)

end GrowthClass

/-! ### Data points and estimates -/

/-- A duration measured for an input of some size. -/
structure DataPoint where
  size : Float
  duration : Float
  deriving Repr

/-- What the source of a snippet says about its growth, and why. -/
structure GrowthHint where
  growth : String
  derivation : String
  deriving DecidableEq, Repr

/-- An estimate of growth with the measurements it rests on. -/
structure GrowthEstimate where
  growth : String
  confidence : Float
  points : List DataPoint := []
  derivation : String := ""
  deriving Repr

/-- The hint for a snippet that was not looked at. -/
def GrowthHint.unknown : GrowthHint := ⟨GrowthClass.linear.text, "No static analysis available."⟩

/-! ### Fitting -/

namespace GrowthEstimate

/-- The confidence in an estimate that rests on a single size. -/
def leastConfidence : Float := 0.1

/-- How much worse than the best one the error of a slower growing class may be. -/
def tolerance : Float := 1.05

/-- The error that counts as none. -/
def negligible : Float := 1e-12

/-- The largest size for which exponential growth is considered. -/
def exponentialBound : Float := 64

/-- The values of a function at each of some points, if it has a value at all of them. -/
def valuesOf {α : Type} (f : α → Except EstimateError Float) :
    List α → Except EstimateError (List Float)
  | [] => .ok []
  | a :: rest =>
    match f a with
    | .error e => .error e
    | .ok x =>
      match valuesOf f rest with
      | .error e => .error e
      | .ok xs => .ok (x :: xs)

/-- The exact sum of floats, rounded once. -/
def exactSum (xs : List Float) : Except EstimateError Float :=
  match Decimal.sum xs with
  | .ok x => .ok x
  | .error e => .error (.sum e)

/-- The sum of floats from left to right. -/
def plainSum (xs : List Float) : Float := xs.foldl (· + ·) 0

/-- The sum of the squares of floats. -/
def squares (xs : List Float) : Except EstimateError Float :=
  match valuesOf (fun x => GrowthClass.powerOf x 2) xs with
  | .error e => .error e
  | .ok ys => .ok (plainSum ys)

/-- The number of points, as a float. -/
def count {α : Type} (xs : List α) : Float := Decimal.ofInt xs.length

/-- Whether the values of a list are not all the same. -/
def varies : List Float → Bool
  | [] => false
  | x :: xs => xs.any fun y => !(x == y)

/-- A line `slope · x + intercept`. -/
structure Line where
  slope : Float
  intercept : Float

/-- The line of least squares through the points of two lists. -/
def regression (xs ys : List Float) : Except EstimateError Line := do
  let xMean := (← exactSum xs) / count xs
  let yMean := (← exactSum ys) / count xs
  let sxy ← exactSum (List.zipWith (fun x y => (x - xMean) * (y - yMean)) xs ys)
  let sxx ← exactSum (xs.map fun x => (x - xMean) * (x - xMean))
  if sxx == 0 then .error .flat
  else
    let slope := sxy / sxx
    return ⟨slope, yMean - slope * xMean⟩

/-- The sum of the squared errors of the line of least squares; `none` if the line falls or
there is nothing to fit. -/
def fit (xs ys : List Float) : Except EstimateError (Option Float) := do
  if !varies xs then return none
  let line ← regression xs ys
  if line.slope < 0 then return none
  return some (← squares (List.zipWith (fun x y => y - (line.slope * x + line.intercept)) xs ys))

/-- The growth classes that are fitted to sizes up to `largest`. -/
def fitted (largest : Float) : List GrowthClass :=
  GrowthClass.all.tail.filter fun g => !(g = .exponential && largest > exponentialBound)

/-- The errors of the classes that fit. -/
def classErrors (points : List DataPoint) :
    List GrowthClass → Except EstimateError (List (GrowthClass × Float))
  | [] => .ok []
  | g :: rest => do
    let xs ← valuesOf (fun p => g.value p.size) points
    let error ← fit xs (points.map DataPoint.duration)
    let others ← classErrors points rest
    return (error.map (g, ·)).toList ++ others

/-- The least of some floats, the first one of those that are not ordered. -/
def least (first : Float) (xs : List Float) : Float := xs.foldl (fun a x => if x < a then x else a) first

/-- The greatest of some floats, the first one of those that are not ordered. -/
def greatest (first : Float) (xs : List Float) : Float :=
  xs.foldl (fun a x => if x > a then x else a) first

/-- The slowest growing class whose error is close to the best one. -/
def choose (flat : Float) (errors : List (GrowthClass × Float)) : Option (GrowthClass × Float) :=
  let best := least flat (errors.map Prod.snd)
  ((.constant, flat) :: errors).find? fun (_, e) => e ≤ best * tolerance + negligible

/-- How much of the variation a class explains.  A flat line explains none and is judged by
how far the durations spread. -/
def explained (g : GrowthClass) (error total mean n : Float) : Float :=
  if g = .constant then
    if mean == 0 then 1 else greatest 0 [1 - Float.sqrt (total / n) / mean]
  else if total == 0 then 1
  else greatest 0 [1 - error / total]

/-- The confidence in a fit over `n` points. -/
def confidenceOf (explained n : Float) : Float :=
  let c := greatest leastConfidence [explained * greatest 0 [(n - 2) / (n + 1)]]
  Decimal.roundPlaces 4 (least c [1])

/-- The estimate from a hint. -/
def ofHint (hint : GrowthHint) : GrowthEstimate :=
  ⟨hint.growth, leastConfidence, [], hint.derivation ++ " Single run, estimate is a hint only."⟩

/-- The estimate from points that are sorted by size and have two sizes at least. -/
def ofPoints (points : List DataPoint) : Except EstimateError GrowthEstimate := do
  let ys := points.map DataPoint.duration
  let n := count points
  let mean := (← exactSum ys) / n
  let total ← squares (ys.map (· - mean))
  let largest := match points.map DataPoint.size with
    | [] => 0
    | x :: xs => greatest x xs
  let errors ← classErrors points (fitted largest)
  match choose total errors with
  | none => .error .noClass
  | some (g, error) =>
    let r := explained g error total mean n
    return ⟨g.text, confidenceOf r n, points,
      "Least-squares fit over " ++ toString points.length ++ " runs (R^2=" ++ Decimal.fixed 3 r ++ ")."⟩

/-- Points in the order of their sizes; points of one size keep their order. -/
def sortedBySize (points : List DataPoint) : List DataPoint :=
  Sorting.sort (fun a b => decide (a.size < b.size)) (fun p => !p.size.isNaN) points

/-- The estimate from measurements, or from a hint if they have no two sizes. -/
def estimate (points : List DataPoint) (hint : Option GrowthHint) :
    Except EstimateError GrowthEstimate :=
  let sorted := sortedBySize points
  if varies (sorted.map DataPoint.size) then ofPoints sorted
  else .ok (ofHint (hint.getD .unknown))

end GrowthEstimate

/-! ### Estimates as data -/

/-- Reads a data point. -/
def DataPoint.read : Json → Checked DataPoint :=
  record fun fields =>
    DataPoint.mk <$> fields.required "inputSize" float <*> fields.required "durationMs" float

/-- A data point as data. -/
def DataPoint.toJson (p : DataPoint) : Json :=
  .obj [("inputSize", .float p.size), ("durationMs", .float p.duration)]

/-- Reads an estimate. -/
def GrowthEstimate.read : Json → Checked GrowthEstimate :=
  record fun fields =>
    GrowthEstimate.mk <$> fields.required "notation" string
      <*> fields.required "confidence" float
      <*> fields.optional "dataPoints" [] (list DataPoint.read)
      <*> fields.optional "derivation" "" string

/-- An estimate as data. -/
def GrowthEstimate.toJson (e : GrowthEstimate) : Json :=
  .obj [("notation", .str e.growth), ("confidence", .float e.confidence),
    ("dataPoints", Json.list DataPoint.toJson e.points), ("derivation", .str e.derivation)]

end SnippetProfiler
