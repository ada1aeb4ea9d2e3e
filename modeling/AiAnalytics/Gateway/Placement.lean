import AiAnalytics.Gateway.Admission
import Mathlib.Data.Prod.Lex

/-!
# Placement

`pick`: the worker that an admitted request goes to. A candidate is a snapshot with its place in the
list of snapshots; the place is what Python's `is` compares.
-/

namespace AiAnalytics.Gateway

open Lib

variable {Float : Type}

def policies : List String := ["round_robin", "least_loaded", "p2c", "prefix_then_load"]

def stickyMaxInflightTokens : Int := 10000

structure PlacementRequest where
  prefixId : Option String := none
  estTokens : Int := 0
  workloadClass : WorkloadClass := .interactive
  forcedWorker : Option String := none

inductive IntendedAction where
  | localReuse
  | destinationHit
  | recompute
  | hop
deriving DecidableEq, Repr

structure PlacementDecision (Float : Type) where
  chosenWorker : String
  priorWorker : Option String
  placementPolicy : String
  placementReason : String
  estimatedReusableTokens : Int
  intendedAction : IntendedAction
  snapshotAge : Float
  fallback : Option String := none
  priorReusableTokens : Int := 0
deriving DecidableEq

inductive PlacementError where
  | noHealthyWorker
  | batchSlotCap
  | unknownForcedWorker
  | unknownPolicy
deriving DecidableEq, Repr

/-- `random.Random`: an element of a list that is not empty, and two places of a list of two or
more. -/
structure Rng where
  choice : (n : Nat) → 0 < n → Fin n
  sample : (n : Nat) → 1 < n → { places : Fin n × Fin n // places.1 ≠ places.2 }

structure PlacementSettings (Float : Type) where
  staleAfter : Float
  rrIndex : Int := 0
  kvUsedMax : Float
  minKvFree : Float
  allowForced : Bool := false
  spillQueue : Int := 4
  batchSlotLimit : Option Int := none

abbrev Candidate (Float : Type) := WorkerSnapshot Float × Nat

def load (worker : WorkerSnapshot Float) : Bool ×ₗ Int :=
  toLex (worker.observedAt.isNone,
    2 * worker.waiting + worker.running + worker.inflight + worker.queued + worker.pending)

/-- `min(candidates, key=load)` -/
def leastLoaded (candidates : Pool (Candidate Float)) : Candidate Float :=
  candidates.best fun candidate front => load candidate.1 < load front.1

def given (text : Option String) : Option String := text.filter (· ≠ "")

def PlacementRequest.belief (request : PlacementRequest) (worker : WorkerSnapshot Float) :
    Option (PrefixBelief Float) :=
  (given request.prefixId).bind fun prefixId => worker.prefixes.lookup prefixId

variable (ops : FloatOps Float) (rng : Rng) (settings : PlacementSettings Float)
  (request : PlacementRequest) (workers : List (WorkerSnapshot Float)) (now : Float)

def heldBefore (x y : Float × String) : Bool :=
  if ops.eq x.1 y.1 then x.2 < y.2 else ops.lt x.1 y.1

def priorWorker : Option String :=
  let held := workers.filterMap fun worker =>
    (request.belief worker).map fun belief => (belief.observedAt, worker.id)
  (Pool.ofList held).map fun held => (held.best fun x front => heldBefore ops front x).2

def byId (id : String) : Option (Candidate Float) :=
  workers.zipIdx.reverse.find? fun candidate => candidate.1.id = id

def priorOwner : Option (Candidate Float) :=
  (given (priorWorker ops request workers)).bind (byId workers)

def decision (fallback : Option String) (worker : WorkerSnapshot Float) (policy reason : String) :
    PlacementDecision Float :=
  let prior := priorWorker ops request workers
  { chosenWorker := worker.id, priorWorker := prior, placementPolicy := policy
    placementReason := reason
    estimatedReusableTokens := ((request.belief worker).map PrefixBelief.tokens).getD 0
    intendedAction :=
      if (request.belief worker).isNone then .recompute
      else if prior = some worker.id then .localReuse
      else .destinationHit
    snapshotAge := worker.age ops now
    fallback
    priorReusableTokens := (((priorOwner ops request workers).bind fun owner =>
      request.belief owner.1).map PrefixBelief.tokens).getD 0 }

def ownerSaturated (owner : WorkerSnapshot Float) : Option String :=
  if ops.le settings.kvUsedMax (ops.sub ops.one owner.kvFreeRatio) then
    some "prefix_owner_kv_pressure"
  else if stickyMaxInflightTokens ≤ owner.inflightTokens then some "prefix_owner_busy"
  else if settings.spillQueue ≤ owner.waiting + owner.queued + owner.pending then
    some "prefix_owner_saturated"
  else none

section Policies

variable (eligible : Pool (Candidate Float))

def roundRobin : Candidate Float :=
  eligible.get ⟨(settings.rrIndex % eligible.toList.length).toNat, by
    have hpos := eligible.length_pos
    have hlt := Int.emod_lt_of_pos settings.rrIndex (Int.natCast_pos.mpr hpos)
    omega⟩

def anyLeastLoaded : Candidate Float :=
  let ties := eligible.prefer fun candidate =>
    load candidate.1 = load (leastLoaded eligible).1
  ties.get (rng.choice _ ties.length_pos)

def p2c : Candidate Float :=
  if h : 1 < eligible.toList.length then
    let places := (rng.sample _ h).1
    leastLoaded { head := eligible.get places.1, tail := [eligible.get places.2] }
  else eligible.head

def prefixThenLoad : Candidate Float × String :=
  match priorOwner ops request workers with
  | none => (p2c rng eligible, "no_prefix_known")
  | some owner =>
      if owner.2 ∉ eligible.toList.map Prod.snd then
        (p2c rng eligible, "prefix_owner_unavailable")
      else
        match Pool.ofList (eligible.toList.filter fun candidate => candidate.2 ≠ owner.2),
            ownerSaturated ops settings owner.1 with
        | some others, some why =>
            let target := leastLoaded others
            if why ≠ "prefix_owner_saturated" ∨ load target.1 < load owner.1 then (target, why)
            else (owner, "prefix_affinity")
        | _, _ => (owner, "prefix_affinity")

def choose (policy : String) : Option (Candidate Float × String) :=
  if policy = "round_robin" then some (roundRobin settings eligible, "round_robin")
  else if policy = "least_loaded" then some (anyLeastLoaded rng eligible, "least_loaded")
  else if policy = "p2c" then some (p2c rng eligible, "p2c")
  else if policy = "prefix_then_load" then
    some (prefixThenLoad ops rng settings request workers eligible)
  else none

end Policies

def freshOrHealthy (healthy : Pool (Candidate Float)) : Pool (Candidate Float) × Option String :=
  match Pool.ofList (healthy.toList.filter fun candidate =>
      !candidate.1.isStale ops settings.staleAfter now) with
  | some fresh => (fresh, none)
  | none => (healthy, some "stale_snapshot")

def withBatchRoom (eligible : Pool (Candidate Float)) : Option (Pool (Candidate Float)) :=
  match request.workloadClass, settings.batchSlotLimit with
  | .batch, some limit =>
      Pool.ofList (eligible.toList.filter fun candidate => candidate.1.occupied ops < limit)
  | _, _ => some eligible

def pickEligible (policy : String) (fallback : Option String) :
    Option (Pool (Candidate Float)) → Except PlacementError (PlacementDecision Float)
  | none => .error .batchSlotCap
  | some eligible =>
      match choose ops rng settings request workers eligible policy with
      | none => .error .unknownPolicy
      | some (chosen, reason) =>
          .ok (decision ops request workers now fallback chosen.1 policy reason)

def pick (policy : String) : Except PlacementError (PlacementDecision Float) :=
  match given request.forcedWorker, settings.allowForced with
  | some forced, true =>
      match byId workers forced with
      | none => .error .unknownForcedWorker
      | some candidate => .ok (decision ops request workers now none candidate.1 "forced" "forced")
  | _, _ =>
      match Pool.ofList (workers.zipIdx.filter fun candidate => candidate.1.healthy) with
      | none => .error .noHealthyWorker
      | some healthy =>
          let (recent, fallback) := freshOrHealthy ops settings now healthy
          let roomy := recent.prefer fun candidate =>
            ops.le settings.minKvFree candidate.1.kvFreeRatio
          pickEligible ops rng settings request workers now policy fallback
            (withBatchRoom ops settings request roomy)

end AiAnalytics.Gateway
