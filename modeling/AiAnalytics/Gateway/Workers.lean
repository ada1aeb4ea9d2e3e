import AiAnalytics.Lib.PyOps

/-!
# Worker snapshots

What the gateway's registry knows of a worker when a request is admitted and placed.

The arithmetic of floats is a parameter of which nothing is assumed, so nothing is taken for granted
about rounding, infinities or numbers that are no numbers.
-/

namespace AiAnalytics.Gateway

open Lib

/-- `none` is an exception: an integer too large for a float, a quotient that is, or `math.ceil` of
what is not finite. -/
structure FloatOps (Float : Type) extends NumOps Float where
  one : Float
  infinity : Float
  negInfinity : Float
  eq : Float → Float → Bool
  lt : Float → Float → Bool
  le : Float → Float → Bool
  trueDiv : Int → Int → Option Float
  ceil : Float → Option Int
  round3 : Float → Float

variable {Float : Type} (ops : FloatOps Float)

/-- `max(x, y)` -/
def FloatOps.max (x y : Float) : Float := if ops.lt x y then y else x

/-- `min(x, y)` -/
def FloatOps.min (x y : Float) : Float := if ops.lt y x then y else x

/-- `n * x` -/
def FloatOps.scale (n : Int) (x : Float) : Option Float := (ops.ofInt n).map fun m => ops.mul m x

def FloatOps.perUnit (n : Int) (x : Float) : Option Float := (ops.ofInt n).map fun m => ops.div m x

structure PrefixBelief (Float : Type) where
  observedAt : Float
  tokens : Int

structure WorkerSnapshot (Float : Type) where
  id : String
  observedAt : Option Float := none
  running : Int := 0
  waiting : Int := 0
  kvFreeRatio : Float
  healthy : Bool := false
  inflight : Int := 0
  inflightTokens : Int := 0
  queued : Int := 0
  pending : Int := 0
  dispatchGraceS : Float
  recentDispatches : List (Int × Float) := []
  prefixes : List (String × PrefixBelief Float) := []

variable (worker : WorkerSnapshot Float)

def WorkerSnapshot.occupied : Int :=
  let horizon := worker.observedAt.getD ops.negInfinity
  worker.running + ((worker.recentDispatches.filter fun dispatch =>
    ops.lt (ops.sub horizon worker.dispatchGraceS) dispatch.2).length : Int)

def WorkerSnapshot.age (now : Float) : Float :=
  match worker.observedAt with
  | none => ops.infinity
  | some observedAt => ops.sub now observedAt

def WorkerSnapshot.isStale (threshold now : Float) : Bool := ops.lt threshold (worker.age ops now)

end AiAnalytics.Gateway
