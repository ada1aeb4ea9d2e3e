import AiAnalytics.Gateway.Placement
import AiAnalytics.Gateway.Queueing

/-!
# From placement to dispatch

What `serve_completion` does between `pick` and `note_dispatch`, beside the scrapes, completions and
other requests that the event loop runs in between. A request that gets a slot at once is dispatched
in the same step as it is placed; one that waits is dispatched when it resumes with a ticket. A
dispatched request completes in some later step.
-/

namespace AiAnalytics.Gateway

open Lib

variable {Float : Type}

section Snapshots

variable (ops : FloatOps Float) (snap : WorkerSnapshot Float)

def WorkerSnapshot.noteDispatch (token : Int) (now : Float) : WorkerSnapshot Float :=
  { snap with recentDispatches := snap.recentDispatches ++ [(token, now)] }

def WorkerSnapshot.noteFinish (token : Int) : WorkerSnapshot Float :=
  { snap with recentDispatches := snap.recentDispatches.filter fun dispatch => dispatch.1 ≠ token }

def WorkerSnapshot.addInflight (requests estTokens : Int) : WorkerSnapshot Float :=
  { snap with
    inflight := snap.inflight + requests,
    inflightTokens := snap.inflightTokens + estTokens }

def WorkerSnapshot.addPending (n : Int) : WorkerSnapshot Float :=
  { snap with pending := snap.pending + n }

structure SlotGauges (Float : Type) where
  running : Int
  waiting : Int
  kvUsed : Float
  observedAt : Float

/-- `_scrape` of a worker that answers -/
def WorkerSnapshot.scraped (gauges : SlotGauges Float) : WorkerSnapshot Float :=
  { snap with
    running := gauges.running
    waiting := gauges.waiting
    kvFreeRatio := ops.max ops.zero (ops.sub ops.one gauges.kvUsed)
    observedAt := some gauges.observedAt
    healthy := true }

/-- `_scrape` of one that does not: the last numbers stay. -/
def WorkerSnapshot.scrapeFailed : WorkerSnapshot Float := { snap with healthy := false }

def WorkerSnapshot.recordPrefix (prefixId : Option String) (tokens : Int) (now : Float) :
    WorkerSnapshot Float :=
  match given prefixId with
  | none => snap
  | some id => { snap with prefixes := (id, ⟨now, tokens⟩) :: snap.prefixes.filter (·.1 ≠ id) }

end Snapshots

section States

structure SlotConfig (Float : Type) where
  ops : FloatOps Float
  admission : AdmitConfig Float
  settings : PlacementSettings Float
  queue : QueueConfig

structure PlacedRequest where
  capped : Bool
  estTokens : Int
  /-- The token of its dispatch, until it completes. -/
  token : Option Int := none
deriving DecidableEq

structure DispatchEntry where
  worker : String
  capped : Bool
  occupied : Int
deriving DecidableEq, Repr

structure SlotState (Float : Type) where
  snapshots : String → WorkerSnapshot Float
  dispatchIds : String → Int
  queues : WorkerQueues String
  placed : List PlacedRequest
  log : List DispatchEntry

def SlotState.start (kvFreeRatio dispatchGraceS : Float) : SlotState Float where
  snapshots id := { id, kvFreeRatio, dispatchGraceS }
  dispatchIds _ := 0
  queues := .empty
  placed := []
  log := []

structure Arrival (Float : Type) where
  request : PlacementRequest
  /-- `x-prefix-tokens`, at most the estimate -/
  prefixTokens : Option Int := none
  allowForced : Bool := false
  serving : List String
  policy : String
  rng : Rng
  rrIndex : Int := 0
  deadlineAt : Option ℚ := none
  pickedAt : Float
  enqueuedAt : ℚ
  dispatchedAt : Float
  /-- Whether `hop.prepare` returns. -/
  prepared : Bool := true

def Arrival.capped (arrival : Arrival Float) : Bool :=
  arrival.request.workloadClass = .batch &&
    !((given arrival.request.forcedWorker).isSome && arrival.allowForced)

variable (cfg : SlotConfig Float) (state : SlotState Float)

def SlotConfig.batchLimit : Option Int := cfg.admission.slotLimit cfg.ops .batch

def SlotState.setSnapshot (worker : String) (snap : WorkerSnapshot Float) : SlotState Float :=
  { state with snapshots := Function.update state.snapshots worker snap }

def SlotState.countQueued : SlotState Float :=
  { state with
    snapshots := fun id => { state.snapshots id with queued := state.queues.depth id none } }

def SlotState.pick (limit : Int) (arrival : Arrival Float) :
    Except PlacementError (PlacementDecision Float) :=
  Gateway.pick cfg.ops arrival.rng
    { cfg.settings with
      rrIndex := arrival.rrIndex, allowForced := arrival.allowForced, batchSlotLimit := some limit }
    arrival.request (arrival.serving.map state.snapshots) arrival.pickedAt arrival.policy

def SlotState.dispatch (id : Nat) (request : PlacedRequest) (worker : String) (now : Float) :
    SlotState Float :=
  let token := state.dispatchIds worker + 1
  { state with
    snapshots := Function.update state.snapshots worker
      (((state.snapshots worker).addInflight 1 request.estTokens).noteDispatch token now)
    dispatchIds := Function.update state.dispatchIds worker token
    placed := state.placed.modify id fun request => { request with token := some token }
    log := state.log ++ [⟨worker, request.capped, (state.snapshots worker).occupied cfg.ops⟩] }

def SlotState.enqueue (worker : String) (arrival : Arrival Float) : SlotState Float :=
  let id := state.queues.calls.length
  let queues :=
    state.queues.acquire cfg.queue worker arrival.request.workloadClass arrival.request.estTokens
    arrival.deadlineAt arrival.enqueuedAt
  let request : PlacedRequest := ⟨arrival.capped, arrival.request.estTokens, none⟩
  let state := { state with queues, placed := state.placed ++ [request] }
  match queues.calls[id]?.map AcquireCall.phase with
  | some (.holding _) =>
    if arrival.prepared then state.dispatch cfg id request worker arrival.dispatchedAt else state
  | some .suspended => state.setSnapshot worker ((state.snapshots worker).addPending 1)
  | _ => state

def SlotState.arrive (arrival : Arrival Float) : SlotState Float :=
  let state := state.countQueued
  match cfg.batchLimit with
  | none => state
  | some limit => match state.pick cfg limit arrival with
    | .error _ => state
    | .ok decision =>
        let worker := decision.chosenWorker
        let snap := (state.snapshots worker).recordPrefix arrival.request.prefixId
          (arrival.prefixTokens.getD arrival.request.estTokens) arrival.pickedAt
        (state.setSnapshot worker snap).enqueue cfg worker arrival

def SlotState.resumed (id : Nat) (request : PlacedRequest) (worker : String)
    (queues : WorkerQueues String) (dispatches : Bool) (now : Float) : SlotState Float :=
  let state := { state with queues }
  let state := state.setSnapshot worker ((state.snapshots worker).addPending (-1))
  if dispatches then state.dispatch cfg id request worker now else state

/-- `free_worker` -/
def SlotState.freed (id : Nat) (request : PlacedRequest) (token : Int) (worker : String)
    (queues : WorkerQueues String) : SlotState Float :=
  let snap := ((state.snapshots worker).addInflight (-1) (-request.estTokens)).noteFinish token
  { state.setSnapshot worker snap with
    queues, placed := state.placed.modify id fun request => { request with token := none } }

inductive SlotLabel (Float : Type) where
  | arrive (arrival : Arrival Float)
  | timerFires (id : Nat)
  | cancelTask (id : Nat)
  | resume (id : Nat) (outcome : WaitOutcome) (clock : Nat → ℚ) (dispatchedAt : Float)
    (prepared : Bool)
  | complete (id : Nat) (clock : Nat → ℚ)
  | scraped (worker : String) (gauges : SlotGauges Float)
  | scrapeFailed (worker : String)

def SlotState.queueOnly (event : QueueEvent String) : Option (SlotState Float) :=
  (queueStep cfg.queue state.queues event).map fun queues => { state with queues }

def slotMachine : Machine (SlotState Float) (SlotLabel Float) where
  step state
    | .arrive arrival => some (state.arrive cfg arrival)
    | .timerFires id => state.queueOnly cfg (.timerFires id)
    | .cancelTask id => state.queueOnly cfg (.cancelTask id)
    | .resume id outcome clock dispatchedAt prepared =>
        match state.queues.calls[id]?, state.placed[id]?,
            queueStep cfg.queue state.queues (.resume id outcome clock) with
        | some call, some request, some queues =>
            some (state.resumed cfg id request call.worker queues (outcome = .result && prepared)
              dispatchedAt)
        | _, _, _ => none
    | .complete id clock =>
        match state.queues.calls[id]?, state.placed[id]?,
            queueStep cfg.queue state.queues (.release id clock) with
        | some call, some request, some queues =>
            request.token.map fun token => state.freed id request token call.worker queues
        | _, _, _ => none
    | .scraped worker gauges =>
        some (state.setSnapshot worker ((state.snapshots worker).scraped cfg.ops gauges))
    | .scrapeFailed worker => some (state.setSnapshot worker (state.snapshots worker).scrapeFailed)

end States

/-! ## The life of one snapshot

The scrapes of a worker, and the dispatches to it and their ends, in the order in which the event
loop runs them. What a scrape writes is written after its last `await`, so it is one event. -/

section Life

inductive SnapshotEvent (Float : Type) where
  | scraped (gauges : SlotGauges Float)
  | scrapeFailed
  | noteDispatch (now : Float)
  | noteFinish (token : Int)

structure CountedSnapshot (Float : Type) where
  snap : WorkerSnapshot Float
  dispatchId : Int

def CountedSnapshot.start (id : String) (kvFreeRatio dispatchGraceS : Float) :
    CountedSnapshot Float :=
  ⟨{ id, kvFreeRatio, dispatchGraceS }, 0⟩

def CountedSnapshot.after (ops : FloatOps Float) (counted : CountedSnapshot Float) :
    SnapshotEvent Float → CountedSnapshot Float
  | .scraped gauges => { counted with snap := counted.snap.scraped ops gauges }
  | .scrapeFailed => { counted with snap := counted.snap.scrapeFailed }
  | .noteDispatch now =>
      let token := counted.dispatchId + 1
      ⟨counted.snap.noteDispatch token now, token⟩
  | .noteFinish token => { counted with snap := counted.snap.noteFinish token }

def CountedSnapshot.afterAll (ops : FloatOps Float) (counted : CountedSnapshot Float)
    (events : List (SnapshotEvent Float)) : CountedSnapshot Float :=
  events.foldl (·.after ops) counted

section History

def dispatches : Int → List (SnapshotEvent Float) → List (Int × Float)
  | _, [] => []
  | id, .noteDispatch now :: events => (id + 1, now) :: dispatches (id + 1) events
  | id, .scraped _ :: events | id, .scrapeFailed :: events | id, .noteFinish _ :: events =>
    dispatches id events

def finishes (events : List (SnapshotEvent Float)) (token : Int) : Bool :=
  events.any fun
    | .noteFinish other => other = token
    | _ => false

def unfinished : Int → List (SnapshotEvent Float) → List (Int × Float)
  | _, [] => []
  | id, .noteDispatch now :: events =>
      let rest := unfinished (id + 1) events
      if finishes events (id + 1) then rest else (id + 1, now) :: rest
  | id, .scraped _ :: events | id, .scrapeFailed :: events | id, .noteFinish _ :: events =>
    unfinished id events

end History

end Life

end AiAnalytics.Gateway
