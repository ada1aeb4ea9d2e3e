import AiAnalytics.Gateway.Dispatching
import AiAnalytics.Gateway.WarmGate
import AiAnalytics.Lib.Counting

/-!
# Where the requests of a worker are counted

Three counters of a snapshot make up its load: `inflight`, `queued` and `pending`. Each is kept at
other points of a request's life than the others. Beside them the model says where every placed
request stands, and lets the handler of a dispatched one be left without `free_worker`. The registry
then serves the snapshots that the warm gate and the ramp leave.
-/

namespace AiAnalytics.Gateway

open Lib

variable {Float : Type}

section Requests

inductive RequestStage where
  /-- In the queue of its worker, or granted a slot and not yet resumed. -/
  | waiting
  | dispatched
  /-- Its handler was cancelled or left by an exception while the worker was at work for it. -/
  | abandoned
  /-- Answered, rejected or cancelled. -/
  | ended
deriving DecidableEq, Repr

structure LoadState (Float : Type) where
  slots : SlotState Float
  abandoned : List Nat

def LoadState.start (kvFreeRatio dispatchGraceS : Float) : LoadState Float where
  slots := .start kvFreeRatio dispatchGraceS
  abandoned := []

def requestStage (suspended dispatched abandoned : Bool) : RequestStage :=
  if suspended then .waiting else if !dispatched then .ended else if abandoned then .abandoned
    else .dispatched

variable (state : LoadState Float)

def LoadState.stands (id : Nat) : Option (String × RequestStage) :=
  match state.slots.queues.calls[id]?, state.slots.placed[id]? with
  | some call, some request =>
      some (call.worker,
        requestStage (call.phase = .suspended) request.token.isSome (id ∈ state.abandoned))
  | _, _ => none

def LoadState.count (worker : String) (stage : RequestStage) : Nat :=
  census state.slots.placed.length state.stands (worker, stage)

def LoadState.outstanding (worker : String) : Nat :=
  state.count worker .waiting + state.count worker .dispatched

inductive LoadLabel (Float : Type) where
  | slot (label : SlotLabel Float)
  | abandon (id : Nat)

def SlotLabel.completes : SlotLabel Float → Option Nat
  | .complete id _ => some id
  | _ => none

/-- A handler that was left runs no `free_worker`. -/
def loadMachine (cfg : SlotConfig Float) : Machine (LoadState Float) (LoadLabel Float) where
  step state
    | .slot label =>
        if label.completes.any (· ∈ state.abandoned) then none
        else ((slotMachine cfg).step state.slots label).map fun slots => { state with slots }
    | .abandon id =>
        if state.slots.placed[id]?.any (·.token.isSome) ∧ id ∉ state.abandoned then
          some { state with abandoned := id :: state.abandoned }
        else none

end Requests

section Serving

structure GatewayState (Float : Type) where
  gate : WarmRegistry String
  load : LoadState Float

inductive GatewayLabel (Float : Type) where
  | scrapeOk (worker : String) (values : ScrapeValues) (gauges : SlotGauges Float)
  | scrapeFailed (worker : String)
  | gate (label : GateLabel String)
  | load (label : LoadLabel Float)

structure GatewayConfig (Float : Type) where
  workers : List String
  settings : GateSettings
  slots : SlotConfig Float

variable (cfg : GatewayConfig Float) (state : GatewayState Float)

def GatewayState.warm : List String :=
  cfg.workers.filter fun worker => !cfg.settings.requireWarm || (state.gate.snapshots worker).warm

def GatewayState.isOpen (worker : String) : Bool :=
  (state.gate.snapshots worker).rampCap.all fun cap =>
    (state.load.slots.snapshots worker).inflight + (state.load.slots.snapshots worker).queued < cap

def GatewayState.servingSnapshots : List String :=
  if cfg.settings.rampSteps = [] then state.warm cfg
  else match (state.warm cfg).filter state.isOpen with
    | [] => state.warm cfg
    | served => served

def GatewayState.counted : GatewayState Float :=
  { state with load := { state.load with slots := state.load.slots.countQueued } }

def Arrival.served (serving : List String) (arrival : Arrival Float) : Arrival Float :=
  { arrival with serving }

def LoadLabel.served (serving : List String) : LoadLabel Float → LoadLabel Float
  | .slot (.arrive arrival) => .slot (.arrive (arrival.served serving))
  | label => label

def gatewayMachine : Machine (GatewayState Float) (GatewayLabel Float) where
  step state
    | .scrapeOk worker values gauges =>
        ((warmGate cfg.settings).step state.gate (.scrapeOk worker values)).bind fun gate =>
          ((loadMachine cfg.slots).step state.load (.slot (.scraped worker gauges))).map fun load =>
            ⟨gate, load⟩
    | .scrapeFailed worker =>
        ((warmGate cfg.settings).step state.gate (.scrapeFailed worker)).bind fun gate =>
          ((loadMachine cfg.slots).step state.load (.slot (.scrapeFailed worker))).map fun load =>
            ⟨gate, load⟩
    | .gate label =>
      ((warmGate cfg.settings).step state.gate label).map fun gate => { state with gate }
    | .load label =>
        let label := label.served (state.counted.servingSnapshots cfg)
        ((loadMachine cfg.slots).step state.load label).map fun load => { state with load }

def GatewayState.start (kvFreeRatio dispatchGraceS : Float) : GatewayState Float where
  gate := .start
  load := .start kvFreeRatio dispatchGraceS

def GatewayState.placement (arrival : Arrival Float) : Option String :=
  cfg.slots.batchLimit.bind fun limit =>
    match state.counted.load.slots.pick cfg.slots limit
        (arrival.served (state.counted.servingSnapshots cfg)) with
    | .ok decision => some decision.chosenWorker
    | .error _ => none

end Serving

end AiAnalytics.Gateway
