import AiAnalytics.Lib.Earliest
import AiAnalytics.Lib.Grouping
import Mathlib.Algebra.Order.Ring.Rat
import Mathlib.Order.WithBot

/-!
# The practical limiters of a capacity sweep

`determine_practical_limiters` names what limited each context of a live sweep, and what limited the
sweep as a whole. The two verdicts come from two chains of tests: one over the steps of a context,
the other over all steps. -/

namespace AiAnalytics.Experiments

open Lib

/-- A float, as far as it is compared; NaN is `none`. -/
abbrev Reading := Option (WithBot (WithTop ℚ))

namespace Reading

def ofRat (x : ℚ) : Reading := some (x : WithTop ℚ)

/-- `x > y` -/
def gt : Reading → Reading → Bool
  | some x, some y => decide (y < x)
  | _, _ => false

/-- `x >= y` -/
def ge : Reading → Reading → Bool
  | some x, some y => decide (y ≤ x)
  | _, _ => false

def maximum : List Reading → Reading
  | [] => ofRat 0
  | x :: readings => readings.foldl (fun best y => if y.gt best then y else best) x

end Reading

/-- What a load step reports, as far as the limiters read it. A key without a value is `none`, and
so is a null, except for `error_count`: a null there raises `TypeError`, so no step of this type
stands for one. -/
structure Step where
  contextLengthTarget : Option Int := none
  actualPromptTokens : Option Int := none
  concurrency : Int
  peakRunning : Option Reading := none
  peakWaiting : Option Reading := none
  peakKvUsage : Option Reading := none
  ttftP50Ms : Option Reading := none
  errorCount : Option Int := none

/-- `reading or 0.0` -/
def orZero (reading : Option Reading) : Reading := reading.getD (.ofRat 0)

namespace Step

/-- `s.get("context_length_target") or s.get("actual_prompt_tokens") or 0` -/
def context (step : Step) : Int :=
  ((step.contextLengthTarget.filter (· ≠ 0)).or step.actualPromptTokens).getD 0

def kvHigh (step : Step) : Bool := (orZero step.peakKvUsage).gt (.ofRat (85 / 100))

def waits (step : Step) : Bool := (orZero step.peakWaiting).gt (.ofRat 0)

def breaches (step : Step) : Bool :=
  (orZero step.ttftP50Ms).gt (.ofRat 1000) || decide (0 < step.errorCount.getD 0)

def saturated (step : Step) : Bool := (orZero step.peakRunning).ge (.ofRat 8)

end Step

inductive Limiter where
  | kvCacheCapacity
  | maxNumSeqsConcurrencyLimit
  | schedulerLongContextBatchedTokensLimit
  | ttftSloBreachComputeContention
  | noneObserved
  | undetermined
deriving DecidableEq

/-- `min(s["concurrency"] for s in steps if p(s), default=None)` -/
def minConcurrency (p : Step → Bool) (steps : List Step) : Option Int :=
  ((steps.filter p).map Step.concurrency).min?

def contextGroups (liveSweep : List Step) : List (Int × List Step) := groupBy Step.context liveSweep

def queueLimiter (step : Step) : Limiter :=
  if step.saturated then .maxNumSeqsConcurrencyLimit else .schedulerLongContextBatchedTokensLimit

def queueStep (steps : List Step) : Option Step :=
  (steps.insertionSort fun s t => s.concurrency ≤ t.concurrency).find? Step.waits

def contextLimiter (steps : List Step) : Limiter :=
  let kvConc := minConcurrency Step.kvHigh steps
  let sloBreachConc := minConcurrency Step.breaches steps
  if kvConc.isSome then .kvCacheCapacity
  else match queueStep steps with
    | some step => queueLimiter step
    | none => if sloBreachConc.isSome then .ttftSloBreachComputeContention else .noneObserved

def limitersByContext (liveSweep : List Step) : List (String × Limiter) :=
  ((contextGroups liveSweep).insertionSort fun g h => g.1 ≤ h.1).map fun (ctx, steps) =>
    (toString ctx, contextLimiter steps)

def earliestQueueStep (liveSweep : List Step) : Option Step :=
  minBy Step.concurrency (liveSweep.filter Step.waits)

def queueFirst (earliestSloBreachConc : Option Int) (step : Step) : Bool :=
  match earliestSloBreachConc with
  | none => true
  | some conc => decide (step.concurrency ≤ conc)

def observedLimiter (liveSweep : List Step) : Limiter :=
  let peakWaitingOverall := Reading.maximum (liveSweep.map fun s => orZero s.peakWaiting)
  let earliestKvConc := minConcurrency Step.kvHigh liveSweep
  let earliestSloBreachConc := minConcurrency Step.breaches liveSweep
  if earliestKvConc.isSome then .kvCacheCapacity
  else match (earliestQueueStep liveSweep).filter (queueFirst earliestSloBreachConc) with
    | some step => queueLimiter step
    | none =>
        if earliestSloBreachConc.isSome then .ttftSloBreachComputeContention
        else if peakWaitingOverall.gt (.ofRat 0) then .schedulerLongContextBatchedTokensLimit
        else if liveSweep.any fun s => decide (8 ≤ s.concurrency) &&
          s.saturated then .maxNumSeqsConcurrencyLimit
        else .undetermined

def determinePracticalLimiters (liveSweep : List Step) : Limiter × List (String × Limiter) :=
  (observedLimiter liveSweep, limitersByContext liveSweep)

end AiAnalytics.Experiments
