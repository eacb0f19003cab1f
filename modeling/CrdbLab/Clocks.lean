import CrdbLab.Loader
import CrdbLab.Lib.Double

/-!
How the generator's clock maps onto the harness clock, and where the fault falls on each.

Where both clocks were recorded the offset between them is measured, in doubles; its rounded
value is kept as the decimal. Otherwise it is only known to lie between two bounds, and a point of
one clock is an interval of the other.
-/

namespace CrdbLab.Clocks

open CrdbLab.Lib.Rounding CrdbLab.Lib.Double CrdbLab.Lib.OrderStat CrdbLab.Optional
open CrdbLab.Loader

inductive Method where
  | measured
  | bounded
  deriving DecidableEq, Repr

/-- `wall_offset_s = elapsed_s + offset_s`; the offset lies in `[lowerS, upperS]`. -/
structure ClockAlignment where
  method : Method
  offsetS : Option ℚ
  lowerS : ℚ
  upperS : ℚ
  spreadS : Option ℚ
  detail : String
  deriving DecidableEq, Repr

def ClockAlignment.exact (alignment : ClockAlignment) : Bool := alignment.method = .measured

/-- A position on a clock, where it is known, or the interval it lies in. -/
inductive Position where
  | point (at_ : ℚ)
  | interval (lower upper : ℚ)
  deriving DecidableEq, Repr

/-- Place a harness-clock offset on the generator's clock. -/
def toGenerator (alignment : ClockAlignment) (wallOffsetS : ℚ) : Position :=
  if alignment.exact then .point (wallOffsetS - orZero alignment.offsetS)
  else .interval (wallOffsetS - alignment.upperS) (wallOffsetS - alignment.lowerS)

/-- `lower, upper = …`, which only an interval supports. -/
def unpack : Position → Except String (ℚ × ℚ)
  | .point _ => .error "cannot unpack non-iterable float object"
  | .interval lower upper => .ok (lower, upper)

lemma unpack_toGenerator {alignment : ClockAlignment} (h : alignment.exact = false)
    (wallOffsetS : ℚ) :
    unpack (toGenerator alignment wallOffsetS) =
      .ok (wallOffsetS - alignment.upperS, wallOffsetS - alignment.lowerS) := by
  simp [toGenerator, unpack, h]

/-- The middle entry, or the rounded mean of the two middle ones. -/
def medianDouble (l : List ℚ) : Option ℚ :=
  if l.length % 2 = 1 then (sorted l)[l.length / 2]?
  else do
    return double (double ((← (sorted l)[l.length / 2 - 1]?) + (← (sorted l)[l.length / 2]?)) / 2)

/-- The offset measured per interval where both clocks are recorded, otherwise bounded by
what the run's envelope leaves beside the generator's span. -/
def align (run : Run) : Except String ClockAlignment :=
  let lastElapsed := (run.metrics.map MetricsRow.elapsedS).max?
  if recordsWallClock run then
    let offsets := run.metrics.filterMap fun r =>
      r.wallOffsetS.map fun wall => double (wall - r.elapsedS)
    let middle := orZero (medianDouble offsets)
    let lower := orZero offsets.min?
    let upper := orZero offsets.max?
    .ok
      { method := .measured
        offsetS := some (roundTo 3 middle)
        lowerS := lower
        upperS := upper
        spreadS := some (roundTo 3 (double (upper - lower)))
        detail := "both clocks recorded per interval; the generator's zero falls " ++
          fixed 3 middle ++ " s after the run's epoch, constant to within " ++
          fixed 3 (double (upper - lower)) ++ " s across " ++ toString offsets.length ++ " intervals" }
  else
    match run.events.tStartUtc, run.events.tEndUtc with
    | some started, some finished =>
      let envelope := finished - started
      let upper := lastElapsed.elim 0 fun last => max 0 (envelope - last)
      .ok
        { method := .bounded
          offsetS := none
          lowerS := 0
          upperS := roundTo 3 upper
          spreadS := none
          detail := "schema " ++ run.schemaVersion ++ " run: only the generator's clock was " ++
            "recorded, so the offset between the two timelines is bounded rather than " ++
            "measured. The run occupied " ++ fixed 2 envelope ++ " s of wall clock and the " ++
            "generator reported " ++ lastElapsed.elim "nan" (fixed 0) ++ " s of intervals, so " ++
            "its zero falls between 0 and " ++ fixed 2 upper ++ " s after the run's epoch. " ++
            "Every timing crossing the two clocks is therefore reported as an interval of " ++
            "that width; re-run under schema 2.1 to measure it" }
    | _, _ =>
      .error (run.runId ++ " records neither per-interval wall offsets nor a run envelope, so " ++
        "its throughput series cannot be placed on the same axis as its event timeline at all")

/-- A bounded alignment is an interval from zero on. -/
lemma align_bounded {run : Run} {alignment : ClockAlignment} (h : align run = .ok alignment)
    (hbounded : alignment.exact = false) : alignment.lowerS = 0 ∧ 0 ≤ alignment.upperS := by
  unfold align at h
  dsimp only at h
  split at h
  · cases h
    simp [ClockAlignment.exact] at hbounded
  · split at h
    · cases h
      refine ⟨rfl, roundTo_nonneg ?_⟩
      cases (run.metrics.map MetricsRow.elapsedS).max? <;> simp
    · cases h

/-- An offset that is only known to lie between zero and a bound. -/
def boundedBy (upperS : ℚ) : ClockAlignment where
  method := .bounded
  offsetS := none
  lowerS := 0
  upperS := upperS
  spreadS := none
  detail := ""

/-- Where the fault landed, on both clocks. -/
structure FaultOffsets where
  wallOffsetS : Option ℚ
  target : Option String := none
  mode : Option String := none
  requestedAtS : Option ℚ := none
  generatorElapsedS : Option ℚ := none
  generatorElapsedBoundsS : Option (ℚ × ℚ) := none
  caveat : Option String := none
  detail : Option String := none
  deriving DecidableEq, Repr

def faultOffsets (run : Run) (alignment : ClockAlignment) : FaultOffsets :=
  match run.events.injectedAtOffsetS with
  | none => { wallOffsetS := none, detail := some "no fault was injected" }
  | some wall =>
    let out : FaultOffsets :=
      { wallOffsetS := some wall
        target := run.events.target
        mode := run.events.mode
        requestedAtS := run.chaos.injectAtS }
    match toGenerator alignment wall with
    | .interval lower upper =>
      { out with
        generatorElapsedBoundsS := some (roundTo 3 lower, roundTo 3 upper)
        caveat := some ("the fault's position on the throughput axis is an interval, not a " ++
          "point; a figure must draw it as a band of this width or use the harness clock " ++
          "for both series") }
    | .point at_ => { out with generatorElapsedS := some (roundTo 3 at_) }

@[simp] lemma faultOffsets_wallOffsetS (run : Run) (alignment : ClockAlignment) :
    (faultOffsets run alignment).wallOffsetS = run.events.injectedAtOffsetS := by
  unfold faultOffsets
  cases run.events.injectedAtOffsetS with
  | none => rfl
  | some wall =>
    dsimp only
    split <;> rfl

end CrdbLab.Clocks
