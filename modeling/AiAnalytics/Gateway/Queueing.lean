import AiAnalytics.Lib.Machine
import Mathlib.Data.List.MinMax
import Mathlib.Data.Prod.Lex
import Mathlib.Algebra.Order.Field.Rat

/-!
# Per-worker dispatch queues

The gateway's `WorkerQueues`: after placement a request waits for one of `max_inflight` dispatch
slots of its worker. `acquire` runs without a suspension point up to its `wait_for`, `release` and
the pump without one at all, so the labels are the pieces the event loop can interleave.

A future is resolved by the pump inside somebody else's `release`; its waiter resumes later. The
timer or a cancellation may land in between, and then the waiter resumes with an exception although
the future holds a ticket.
-/

namespace AiAnalytics.Gateway

inductive WorkloadClass where
  | interactive
  | batch
deriving DecidableEq, Repr

structure QueueConfig where
  maxDepth : Int := 64
  maxInflight : Int := 32
  timeoutS : ℚ := 10
  agingGain : ℚ := 1 / 2
  maxOvertakes : Int := 8
  longPromptTokens : Int := 2000

inductive RejectReason where
  | queueFull
  | timeoutQueue
deriving DecidableEq, Repr

inductive Fut where
  | pending
  | granted
  | cancelled
deriving DecidableEq, Repr

/-- A waiting item. `id` is the identity of its future: dataclass equality compares the future too,
so two items are equal exactly when their ids are. -/
structure QueueItem where
  id : Nat
  workloadClass : WorkloadClass
  estTokens : Int
  deadlineAt : ℚ
  enqueuedAt : ℚ
  passedOver : Nat := 0
deriving DecidableEq

inductive CallPhase where
  | suspended
  | holding (waitS : ℚ)
  | released
  | rejected (reason : RejectReason)
  | cancelled
deriving DecidableEq

structure AcquireCall (Worker : Type) where
  worker : Worker
  startedAt : ℚ
  timeout : ℚ
  fut : Option Fut
  phase : CallPhase
  timerFired : Bool := false
  cancelRequested : Bool := false
deriving DecidableEq

structure WorkerQueues (Worker : Type) where
  waiting : Worker → List QueueItem
  inflight : Worker → Int
  calls : List (AcquireCall Worker)
  grants : List Nat

variable {Worker : Type} [DecidableEq Worker]

def WorkerQueues.empty : WorkerQueues Worker :=
  { waiting := fun _ => []
    inflight := fun _ => 0
    calls := []
    grants := [] }

def WorkerQueues.depth (queues : WorkerQueues Worker) (worker : Worker)
    (klass : Option WorkloadClass) : Nat :=
  (queues.waiting worker).countP fun item => klass.all (item.workloadClass = ·)

def QueueConfig.key (cfg : QueueConfig) (item : QueueItem) (now : ℚ) : ℕ ×ₗ ℕ ×ₗ ℚ ×ₗ ℚ :=
  let starved := cfg.maxOvertakes ≤ item.passedOver
  let rank := if starved ∨ item.workloadClass ≠ .batch then 0 else 1
  let long := if starved ∨ item.estTokens < cfg.longPromptTokens then 0 else 1
  let slack := (item.deadlineAt - now) - cfg.agingGain * item.passedOver
  toLex (rank, toLex (long, toLex (slack, item.enqueuedAt)))

def WorkerQueues.futOf (queues : WorkerQueues Worker) (id : Nat) : Option Fut :=
  queues.calls[id]?.bind (·.fut)

/-- `_remove`: the item leaves the waiting list if it is still in it. -/
def removeItem (id : Nat) (waiting : List QueueItem) : List QueueItem :=
  waiting.eraseP (·.id = id)

def overtake (best other : QueueItem) : QueueItem :=
  if other.enqueuedAt < best.enqueuedAt then
    { other with passedOver := other.passedOver + 1 }
  else other

/-- Resolve the future of `best`, which has just left the waiting list. -/
def WorkerQueues.grant (queues : WorkerQueues Worker) (worker : Worker) (best : QueueItem) :
    WorkerQueues Worker :=
  { waiting := Function.update queues.waiting worker
      ((removeItem best.id (queues.waiting worker)).map (overtake best))
    inflight := Function.update queues.inflight worker (queues.inflight worker + 1)
    calls := queues.calls.modify best.id fun call => { call with fut := some .granted }
    grants := queues.grants ++ [best.id] }

def WorkerQueues.remove (queues : WorkerQueues Worker) (worker : Worker) (id : Nat) :
    WorkerQueues Worker :=
  { queues with
    waiting := Function.update queues.waiting worker (removeItem id (queues.waiting worker)) }

def WorkerQueues.pumpOnce (cfg : QueueConfig) (queues : WorkerQueues Worker) (worker : Worker)
    (now : ℚ) : WorkerQueues Worker :=
  match (queues.waiting worker).argmin (cfg.key · now) with
  | none => queues
  | some best =>
      if queues.futOf best.id = some .pending then queues.grant worker best
      else queues.remove worker best.id

/-- The pump's loop. Each turn takes one item out of the list, so the number of items waiting at the
start is fuel enough. `clock` gives the reading of each turn. -/
def WorkerQueues.pumpLoop (cfg : QueueConfig) (worker : Worker) (clock : Nat → ℚ) :
    Nat → WorkerQueues Worker → WorkerQueues Worker
  | 0, queues => queues
  | fuel + 1, queues =>
      if queues.waiting worker ≠ [] ∧ queues.inflight worker < cfg.maxInflight then
        pumpLoop cfg worker clock fuel (queues.pumpOnce cfg worker (clock fuel))
      else queues

def WorkerQueues.pump (cfg : QueueConfig) (queues : WorkerQueues Worker) (worker : Worker)
    (clock : Nat → ℚ) : WorkerQueues Worker :=
  pumpLoop cfg worker clock (queues.waiting worker).length queues

def WorkerQueues.decrement (queues : WorkerQueues Worker) (worker : Worker) : WorkerQueues Worker :=
  { queues with
    inflight := Function.update queues.inflight worker (queues.inflight worker - 1) }

def WorkerQueues.free (cfg : QueueConfig) (queues : WorkerQueues Worker) (worker : Worker)
    (clock : Nat → ℚ) : WorkerQueues Worker :=
  (queues.decrement worker).pump cfg worker clock

def WorkerQueues.setPhase (queues : WorkerQueues Worker) (id : Nat) (phase : CallPhase) :
    WorkerQueues Worker :=
  { queues with calls := queues.calls.modify id fun call => { call with phase := phase } }

def WorkerQueues.acquire (cfg : QueueConfig) (queues : WorkerQueues Worker) (worker : Worker)
    (workloadClass : WorkloadClass) (estTokens : Int) (deadlineAt : Option ℚ) (now : ℚ) :
    WorkerQueues Worker :=
  if queues.waiting worker = [] ∧ queues.inflight worker < cfg.maxInflight then
    { queues with
      inflight := Function.update queues.inflight worker (queues.inflight worker + 1)
      calls := queues.calls ++ [{ worker, startedAt := now, timeout := 0, fut := none,
                                  phase := .holding 0 }] }
  else if cfg.maxDepth ≤ (queues.waiting worker).length then
    { queues with
      calls := queues.calls ++ [{ worker, startedAt := now, timeout := 0, fut := none,
                                  phase := .rejected .queueFull }] }
  else
    let timeout := match deadlineAt with
      | none => cfg.timeoutS
      | some deadline => min cfg.timeoutS (deadline - now)
    { queues with
      waiting := Function.update queues.waiting worker (queues.waiting worker ++
        [{ id := queues.calls.length, workloadClass, estTokens,
           deadlineAt := deadlineAt.getD (now + cfg.timeoutS), enqueuedAt := now }])
      calls := queues.calls ++ [{ worker, startedAt := now, timeout := max timeout 0,
                                  fut := some .pending, phase := .suspended }] }

/-- `Task.cancel`: cancel the awaited future if it is still pending. A future that already has its
result stays as it is, and the exception is thrown when the task next runs. -/
def AcquireCall.interrupt (call : AcquireCall Worker) : AcquireCall Worker :=
  { call with fut := if call.fut = some .pending then some .cancelled else call.fut }

/-- What `wait_for` gives the waiter when it resumes. -/
inductive WaitOutcome where
  | result
  | timeoutError
  | cancelledError
deriving DecidableEq, Repr

/-- Which outcomes the event loop can deliver. A result needs a resolved future; each exception
needs the timer, or the cancellation, to have come first. -/
def WaitOutcome.Enabled (outcome : WaitOutcome) (call : AcquireCall Worker) : Prop :=
  match outcome with
  | .result => call.fut = some .granted
  | .timeoutError => call.timerFired = true
  | .cancelledError => call.cancelRequested = true

instance (outcome : WaitOutcome) (call : AcquireCall Worker) : Decidable (outcome.Enabled call) :=
  match outcome with
  | .result => inferInstanceAs (Decidable (_ = _))
  | .timeoutError => inferInstanceAs (Decidable (_ = _))
  | .cancelledError => inferInstanceAs (Decidable (_ = _))

def WorkerQueues.resume (cfg : QueueConfig) (queues : WorkerQueues Worker) (id : Nat)
    (call : AcquireCall Worker) (outcome : WaitOutcome) (clock : Nat → ℚ) : WorkerQueues Worker :=
  match outcome with
  | .result => queues.setPhase id (.holding (clock 0 - call.startedAt))
  | .timeoutError => (queues.setPhase id (.rejected .timeoutQueue)).remove call.worker id
  | .cancelledError =>
      let ended := queues.setPhase id .cancelled
      let freed := if call.fut = some .granted then ended.free cfg call.worker clock else ended
      freed.remove call.worker id

inductive QueueEvent (Worker : Type) where
  | acquire (worker : Worker) (workloadClass : WorkloadClass) (estTokens : Int)
      (deadlineAt : Option ℚ) (now : ℚ)
  | timerFires (id : Nat)
  | cancelTask (id : Nat)
  | resume (id : Nat) (outcome : WaitOutcome) (clock : Nat → ℚ)
  | release (id : Nat) (clock : Nat → ℚ)

def WorkerQueues.release (cfg : QueueConfig) (queues : WorkerQueues Worker) (id : Nat)
    (clock : Nat → ℚ) : Option (WorkerQueues Worker) :=
  match queues.calls[id]? with
  | none => none
  | some call =>
      match call.phase with
      | .holding _ => some ((queues.setPhase id .released).free cfg call.worker clock)
      | .released => some queues
      | _ => none

def queueStep (cfg : QueueConfig) (queues : WorkerQueues Worker) :
    QueueEvent Worker → Option (WorkerQueues Worker)
  | .acquire worker workloadClass estTokens deadlineAt now =>
      some (queues.acquire cfg worker workloadClass estTokens deadlineAt now)
  | .timerFires id =>
      match queues.calls[id]? with
      | none => none
      | some call =>
          if call.phase = .suspended ∧ call.timerFired = false then
            some { queues with
              calls := queues.calls.modify id fun c => { c.interrupt with timerFired := true } }
          else none
  | .cancelTask id =>
      match queues.calls[id]? with
      | none => none
      | some call =>
          if call.phase = .suspended then
            some { queues with
              calls := queues.calls.modify id fun c =>
                { c.interrupt with cancelRequested := true } }
          else none
  | .resume id outcome clock =>
      match queues.calls[id]? with
      | none => none
      | some call =>
          if call.phase = .suspended ∧ outcome.Enabled call then
            some (queues.resume cfg id call outcome clock)
          else none
  | .release id clock => queues.release cfg id clock

def queueMachine (cfg : QueueConfig) : Lib.Machine (WorkerQueues Worker) (QueueEvent Worker) :=
  { step := queueStep cfg }

end AiAnalytics.Gateway
