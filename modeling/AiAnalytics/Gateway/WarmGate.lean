import AiAnalytics.Lib.Machine
import Mathlib.Algebra.Order.Ring.Rat
import Mathlib.Logic.Function.Basic

/-!
# The warm gate

A worker takes traffic only after some successful scrapes in a row and one successful probe. Scrapes
of the workers, probes in the background and `mark_cold` interleave at the `await`s: a step is what
runs between two of them.
-/

namespace AiAnalytics.Gateway

open Lib

section Snapshots

structure GateSettings where
  requireWarm : Bool
  /-- As given: the registry takes `max(1, warm_min_scrapes)`. -/
  warmMinScrapes : Int
  rampSteps : List Int
  rampStepS : ℚ
  rampMinKvFree : ℚ

def GateSettings.minScrapes (settings : GateSettings) : Nat := (max 1 settings.warmMinScrapes).toNat

structure GateSnapshot where
  observedAt : Option ℚ := none
  running : Int := 0
  waiting : Int := 0
  kvFreeRatio : ℚ := 1
  healthy : Bool := false
  warm : Bool := false
  healthyStreak : Nat := 0
  healthEpoch : Nat := 0
  warmedAt : Option ℚ := none
  warmCount : Nat := 0
  requestsSinceWarm : Nat := 0
  rampCap : Option Int := none
  rampStage : Nat := 0
  rampNextAt : ℚ := 0

/-- The gauges of a scrape, and the readings of the clocks that follow it. A `kvUsed` that is not
finite leaves `max(0.0, 1.0 - kv_used)` at 0 or without bound, as a large finite one of its sign
does. -/
structure ScrapeValues where
  running : Int
  waiting : Int
  kvUsed : ℚ
  observedAt : ℚ
  rampNow : ℚ
  rampThen : ℚ
  warmedAt : ℚ

variable (settings : GateSettings)

def GateSnapshot.markCold (snap : GateSnapshot) : GateSnapshot :=
  let snap := { snap with healthyStreak := 0, healthEpoch := snap.healthEpoch + 1 }
  if settings.requireWarm && snap.warm then
    { snap with warm := false, warmedAt := none, rampCap := none } else snap

/-- `_scrape` when the worker does not answer as it should -/
def GateSnapshot.scrapeFailed (snap : GateSnapshot) : GateSnapshot :=
  let snap :=
    { snap with healthy := false, healthyStreak := 0, healthEpoch := snap.healthEpoch + 1 }
  let snap := if settings.requireWarm &&
    snap.warm then { snap with warm := false, warmedAt := none } else snap
  { snap with rampCap := none }

def GateSnapshot.startRamp (snap : GateSnapshot) (now : ℚ) : GateSnapshot :=
  match settings.rampSteps with
  | [] => snap
  | cap :: _ =>
      if snap.warmCount > 1 then
        { snap with rampStage := 0, rampCap := some cap, rampNextAt := now + settings.rampStepS }
      else snap

def GateSnapshot.advanceRamp (snap : GateSnapshot) (now then_ : ℚ) : GateSnapshot :=
  if snap.rampCap = none ∨ now < snap.rampNextAt then snap
  else
    let snap := { snap with rampNextAt := then_ + settings.rampStepS }
    if snap.waiting > 0 ∨ snap.kvFreeRatio < settings.rampMinKvFree then snap
    else
      let snap := { snap with rampStage := snap.rampStage + 1 }
      { snap with rampCap := settings.rampSteps[snap.rampStage]? }

/-- `_scrape` of a worker that answers, up to the start of a probe -/
def GateSnapshot.scraped (snap : GateSnapshot) (values : ScrapeValues) : GateSnapshot :=
  let snap := { snap with
    running := values.running
    waiting := values.waiting
    kvFreeRatio := max 0 (1 - values.kvUsed)
    observedAt := some values.observedAt
    healthy := true
    healthyStreak := snap.healthyStreak + 1 }
  let snap := snap.advanceRamp settings values.rampNow values.rampThen
  if ¬ settings.requireWarm ∧ ¬ snap.warm then
    { snap with warm := true, warmedAt := some values.warmedAt, requestsSinceWarm := 0 }
  else snap

def GateSnapshot.wantsProbe (snap : GateSnapshot) : Bool :=
  settings.requireWarm && !snap.warm && settings.minScrapes ≤ snap.healthyStreak

/-- `_probe` when its request has succeeded within the epoch it began in -/
def GateSnapshot.warmed (snap : GateSnapshot) (warmedAt rampNow : ℚ) : GateSnapshot :=
  let snap := { snap with
    warm := true, warmedAt := some warmedAt, requestsSinceWarm := 0, warmCount :=
      snap.warmCount + 1 }
  snap.startRamp settings rampNow

end Snapshots

section Registry

variable {Worker : Type} [DecidableEq Worker]

inductive ProbeStage where
  | created
  /-- The request is under way; `epoch` was read when the probe began. -/
  | posted (epoch : Nat)
  | done
deriving DecidableEq

structure ProbeTask (Worker : Type) where
  worker : Worker
  stage : ProbeStage

inductive PostResult where
  | ok
  | httpError
  /-- An exception that `_probe` does not catch, or a cancellation. -/
  | crashed

inductive ProbeResult where
  | ok | error | stale
deriving DecidableEq

inductive GateEntry (Worker : Type) where
  | scraped (worker : Worker) (succeeded : Bool)
  | markedCold (worker : Worker)
  | probeBegan (task : Nat) (worker : Worker)
  | probeEnded (task : Nat) (worker : Worker) (result : ProbeResult)
deriving DecidableEq

structure WarmRegistry (Worker : Type) where
  snapshots : Worker → GateSnapshot
  /-- `_probes`: the last task of each worker. -/
  probes : Worker → Option Nat
  tasks : Nat → Option (ProbeTask Worker)
  created : Nat
  log : List (GateEntry Worker)

def WarmRegistry.start : WarmRegistry Worker := ⟨fun _ => {}, fun _ => none, fun _ => none, 0, []⟩

/-- `task is not None and not task.done()` -/
def WarmRegistry.probing (registry : WarmRegistry Worker) (worker : Worker) : Bool :=
  match registry.probes worker with
  | none => false
  | some task => match registry.tasks task with
    | some probe => probe.stage ≠ .done
    | none => false

def WarmRegistry.startProbe (registry : WarmRegistry Worker) (worker : Worker) :
    WarmRegistry Worker :=
  if registry.probing worker then registry
  else
    { registry with
      probes := Function.update registry.probes worker (some registry.created)
      tasks := Function.update registry.tasks registry.created (some ⟨worker, .created⟩)
      created := registry.created + 1 }

def WarmRegistry.setSnapshot (registry : WarmRegistry Worker) (worker : Worker)
    (snap : GateSnapshot) : WarmRegistry Worker :=
  { registry with snapshots := Function.update registry.snapshots worker snap }

def WarmRegistry.setStage (registry : WarmRegistry Worker) (task : Nat) (worker : Worker)
    (stage : ProbeStage) : WarmRegistry Worker :=
  { registry with tasks := Function.update registry.tasks task (some ⟨worker, stage⟩) }

def WarmRegistry.record (registry : WarmRegistry Worker) (entry : GateEntry Worker) :
    WarmRegistry Worker :=
  { registry with log := registry.log ++ [entry] }

variable (settings : GateSettings)

def probeResult (snap : GateSnapshot) (epoch : Nat) : PostResult → ProbeResult
  | .ok =>
      if ¬ snap.healthy ∨ snap.healthEpoch ≠ epoch ∨ snap.healthyStreak < settings.minScrapes then
        .stale else .ok
  | _ => .error

inductive GateLabel (Worker : Type) where
  | scrapeOk (worker : Worker) (values : ScrapeValues)
  | scrapeFailed (worker : Worker)
  /-- An answer whose `running` or `waiting` is NaN or infinite: `int` raises after the `except`
  clause of `_scrape`, before anything is written. -/
  | scrapeRaised (worker : Worker)
  | markCold (worker : Worker)
  | probeBegins (task : Nat)
  | probeEnds (task : Nat) (result : PostResult) (warmedAt rampNow : ℚ)

def warmGate : Machine (WarmRegistry Worker) (GateLabel Worker) where
  step registry
    | .scrapeOk worker values =>
        let snap := (registry.snapshots worker).scraped settings values
        let registry := (registry.setSnapshot worker snap).record (.scraped worker true)
        some (if snap.wantsProbe settings then registry.startProbe worker else registry)
    | .scrapeFailed worker =>
        let snap := (registry.snapshots worker).scrapeFailed settings
        some ((registry.setSnapshot worker snap).record (.scraped worker false))
    | .scrapeRaised worker => some (registry.record (.scraped worker false))
    | .markCold worker =>
        let snap := (registry.snapshots worker).markCold settings
        some ((registry.setSnapshot worker snap).record (.markedCold worker))
    | .probeBegins task =>
        match registry.tasks task with
        | some ⟨worker, .created⟩ =>
            let epoch := (registry.snapshots worker).healthEpoch
            some ((registry.setStage task worker (.posted epoch)).record (.probeBegan task worker))
        | _ => none
    | .probeEnds task post warmedAt rampNow =>
        match registry.tasks task with
        | some ⟨worker, .posted epoch⟩ =>
            let snap := registry.snapshots worker
            let result := probeResult settings snap epoch post
            let registry :=
              (registry.setStage task worker .done).record (.probeEnded task worker result)
            some (if result = .ok then registry.setSnapshot worker
              (snap.warmed settings warmedAt rampNow) else registry)
        | some ⟨worker, .created⟩ =>
            -- A task that is cancelled before its first step has read no epoch.
            match post with
            | .crashed => some (registry.setStage task worker .done)
            | _ => none
        | _ => none

end Registry

end AiAnalytics.Gateway
