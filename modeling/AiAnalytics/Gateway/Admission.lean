import AiAnalytics.Gateway.Queueing
import AiAnalytics.Gateway.Tenants
import AiAnalytics.Gateway.Workers
import AiAnalytics.Lib.Pool

/-!
# Admission

`should_shed`: whether the fleet should accept work now, given the snapshots of the workers and the
clock. `none` is an exception, which ends the request before it is placed.
-/

namespace AiAnalytics.Gateway

open Lib

variable {Float : Type}

structure AdmitConfig (Float : Type) where
  maxDecodeSlots : Int := 32
  kvFreeMin : Float
  prefillTokensPerS : Float
  queueWaitPerWaitingS : Float
  staleAfterS : Float
  retryAfterS : Int := 1
  batchReserve : Float

def AdmitConfig.slotLimit (cfg : AdmitConfig Float) (ops : FloatOps Float) :
    WorkloadClass → Option Int
  | .interactive => some cfg.maxDecodeSlots
  | .batch => do
      let share ← ops.scale cfg.maxDecodeSlots (ops.min (ops.max cfg.batchReserve ops.zero) ops.one)
      let reserved ← ops.ceil share
      some (max 1 (cfg.maxDecodeSlots - reserved))

structure AdmitRequest where
  estTokens : Int := 0
  deadlineMs : Option Int := none
  workloadClass : WorkloadClass := .interactive

inductive AdmitReason where
  | noSignal
  | kvPressure
  | decodeSlots
  | deadlineUnachievable
deriving DecidableEq, Repr

structure WorkerInputs (Float : Type) where
  id : String
  healthy : Bool
  ageS : Option Float
  running : Int
  waiting : Int
  kvFreeRatio : Float
  inflightTokens : Int
deriving DecidableEq

structure AdmitInputs (Float : Type) where
  workloadClass : WorkloadClass
  estTokens : Int
  deadlineMs : Option Int
  workers : List (WorkerInputs Float)
  estimatedS : Option Float := none
deriving DecidableEq

abbrev AdmitShed (Float : Type) := Shed AdmitReason (AdmitInputs Float)

variable (ops : FloatOps Float) (request : AdmitRequest) (snapshots : List (WorkerSnapshot Float))
  (now : Float)

def admitInputs : AdmitInputs Float :=
  { workloadClass := request.workloadClass, estTokens := request.estTokens
    deadlineMs := request.deadlineMs
    workers := snapshots.map fun worker =>
      { id := worker.id, healthy := worker.healthy
        ageS := worker.observedAt.map fun _ => ops.round3 (worker.age ops now)
        running := worker.running, waiting := worker.waiting, kvFreeRatio := worker.kvFreeRatio
        inflightTokens := worker.inflightTokens } }

def WorkerSnapshot.fresh (threshold : Float) (worker : WorkerSnapshot Float) : Bool :=
  worker.healthy && !worker.isStale ops threshold now

variable (cfg : AdmitConfig Float)

def checkDeadline (inputs : AdmitInputs Float) (eligible : Pool (WorkerSnapshot Float)) :
    Option (Except (AdmitShed Float) (AdmitInputs Float)) :=
  match request.deadlineMs with
  | none => some (.ok inputs)
  | some deadlineMs => do
      let shortest := (eligible.best fun worker front => worker.waiting < front.waiting).waiting
      let wait ← ops.scale shortest cfg.queueWaitPerWaitingS
      let prefill ← ops.perUnit request.estTokens (ops.max cfg.prefillTokensPerS ops.one)
      let estimate := ops.add wait prefill
      let deadline ← ops.trueDiv deadlineMs 1000
      if ops.lt deadline estimate then
        let seconds ← ops.ceil wait
        some (.error
          { code := 504, reason := .deadlineUnachievable
            retryAfterSeconds := max cfg.retryAfterS seconds
            inputs := { inputs with estimatedS := some (ops.round3 estimate) } })
      else some (.ok inputs)

def shouldShed : Option (Except (AdmitShed Float) (AdmitInputs Float)) :=
  let inputs := admitInputs ops request snapshots now
  let shed (reason : AdmitReason) : Except (AdmitShed Float) (AdmitInputs Float) :=
    .error { code := 503, reason, retryAfterSeconds := cfg.retryAfterS, inputs }
  match Pool.ofList (snapshots.filter (WorkerSnapshot.fresh ops now cfg.staleAfterS)) with
  | none => some (shed .noSignal)
  | some eligible =>
      let most := (eligible.best fun worker front =>
        ops.lt front.kvFreeRatio worker.kvFreeRatio).kvFreeRatio
      if ops.lt most cfg.kvFreeMin then some (shed .kvPressure)
      else do
        let limit ← cfg.slotLimit ops request.workloadClass
        if eligible.toList.all fun worker => limit ≤ worker.occupied ops then
          some (shed .decodeSlots)
        else checkDeadline ops request cfg inputs eligible

end AiAnalytics.Gateway
