import AiAnalytics.Gateway.RequestBody
import AiAnalytics.Gateway.Serving

/-!
# What a handler reads, calls and answers

The data of `serve_completion`. Whatever is shared with other requests, and the clocks, the log and
the network, is a call with its arguments; the state is the handler's own variables. A record of the
log is stamped by the clock when it is written, and so is a stage's duration when it is observed.
-/

namespace AiAnalytics.Gateway

section Labels

def WorkloadClass.label : WorkloadClass → String
  | .interactive => "interactive"
  | .batch => "batch"

def QuotaReason.label : QuotaReason → String
  | .tenantTokens => "tenant_tokens"
  | .tenantConcurrency => "tenant_concurrency"

def AdmitReason.label : AdmitReason → String
  | .noSignal => "no_signal"
  | .kvPressure => "kv_pressure"
  | .decodeSlots => "decode_slots"
  | .deadlineUnachievable => "deadline_unachievable"

def PlacementError.label : PlacementError → String
  | .noHealthyWorker => "no_healthy_worker"
  | .batchSlotCap => "batch_slot_cap"
  | .unknownForcedWorker => "unknown_forced_worker"
  | .unknownPolicy => "unknown_policy"

def RejectReason.label : RejectReason → String
  | .queueFull => "queue_full"
  | .timeoutQueue => "timeout_queue"

def IntendedAction.label : IntendedAction → String
  | .localReuse => "local_reuse"
  | .destinationHit => "destination_hit"
  | .recompute => "recompute"
  | .hop => "hop"

end Labels

namespace Handler

open Lib Lib.Prog
open Serve (Interruption overflows)

variable {Float : Type}

section Data

abbrev Headers := OrderedDict String String

def Headers.update (headers : Headers) (entries : List (String × String)) : Headers :=
  entries.foldl (fun headers entry => headers.set entry.1 entry.2) headers

structure RequestHeaders where
  requestId : Option String := none
  conversationId : Option String := none
  agentStep : Option String := none
  prefixId : Option String := none
  tenantId : Option String := none
  requestPriority : Option String := none
  estimatedPromptTokens : Option String := none
  deadlineMs : Option String := none
  prefixTokens : Option String := none

structure ExperimentHeaders where
  forceWorker : Option String := none
  placementPolicyOverride : Option String := none
  admissionMode : Option String := none
  tenantQuotaMode : Option String := none
  kvHopMode : Option String := none
  kvHopCase : Option String := none

structure Request (Float : Type) where
  headers : RequestHeaders
  experiment : ExperimentHeaders
  json : Except Interruption (Option (PyValue Float))

structure OverflowConfig (Float : Type) where
  enabled : Bool := false
  provider : String := ""
  model : String := ""
  url : String := ""
  apiKey : String := ""
  timeoutS : Float

def OverflowConfig.active (cfg : OverflowConfig Float) : Bool :=
  cfg.enabled && cfg.provider ≠ "" && cfg.model ≠ "" && cfg.url ≠ ""

def OverflowConfig.destination (cfg : OverflowConfig Float) : String :=
  cfg.provider ++ "/" ++ cfg.model

def OverflowConfig.headers (cfg : OverflowConfig Float) : List (String × String) :=
  ("content-type", "application/json") ::
    (if cfg.apiKey ≠ "" then [("authorization", "Bearer " ++ cfg.apiKey)] else [])

structure HandlerConfig (Float : Type) where
  ops : FloatOps Float
  lib : PyLibrary Float
  /-- `json.loads`, where it returns. -/
  loads : String → Option (PyValue Float)
  /-- `round(seconds * 1000)` -/
  ms : Float → Int
  getenv : String → Option String
  admission : AdmitConfig Float
  quota : QuotaConfig
  placement : PlacementSettings Float
  placementPolicy : String
  overflow : OverflowConfig Float
  workerUrl : String → String
  /-- 1.5 seconds -/
  minHopBudgetS : Float

structure LocalShed (Float : Type) where
  code : Nat
  reason : String
  retryAfterSeconds : Int
  neverOverflow : Bool
  inputs : QuotaInputs ⊕ AdmitInputs Float

def LocalShed.ofQuota (shed : QuotaShed) : LocalShed Float :=
  ⟨shed.code, shed.reason.label, shed.retryAfterSeconds, shed.neverOverflow, .inl shed.inputs⟩

def LocalShed.ofAdmission (shed : AdmitShed Float) : LocalShed Float :=
  ⟨shed.code, shed.reason.label, shed.retryAfterSeconds, shed.neverOverflow, .inr shed.inputs⟩

inductive Content (Float : Type) where
  | error (code detail : String)
  | upstreamText (text : String)
  | json (value : PyValue Float)

structure Dispatched where
  worker : String
  token : Int
  estTokens : Int

inductive Source where
  | worker (dispatched : Dispatched)
  | overflow (reason : String)

inductive Response (Float : Type) where
  | json (status : Nat) (content : Content Float) (headers : Headers)
  | stream (source : Source) (headers : Headers)

inductive HandlerError where
  | interrupted (by_ : Interruption)
  | httpException (status : Nat) (detail : String) (headers : Headers)

end Data

section Calls

inductive Metric (Float : Type) where
  | requests (status : Nat) (klass : WorkloadClass)
  | guardReject (code : String)
  | stageDuration (stage : String) (klass : WorkloadClass)
  | admitTotal (decision reason : String) (klass : WorkloadClass)
  | shed (reason : String) (klass : WorkloadClass) (code : Nat)
  | tenantRequests (tenant outcome : String)
  | placementErrors (reason : String)
  | picks (policy worker reason : String)
  | staleFallback
  | queueErrors (reason : String) (klass : WorkloadClass)
  | queueWait (worker : String) (klass : WorkloadClass) (seconds : Float)
  | sliceOom (worker : String)
  | overflow (reason provider model outcome : String)
  | overflowError (label : String)
  | ttft (klass : WorkloadClass) (seconds : Float)

inductive LogValue (Float : Type) where
  | text (value : Option String)
  | number (x : Float)

abbrev LogFields (Float : Type) := OrderedDict String (LogValue Float)

inductive RejectExtra (Float : Type) where
  | none
  | shed (inputs : QuotaInputs ⊕ AdmitInputs Float) (neverOverflow : Bool)
  | queue (queueEnter : Float) (waitMs : Int)

inductive LogEvent (Float : Type) where
  | rejected (stage code reason : String) (extra : RejectExtra Float)
  | admitted (inputs : Option (AdmitInputs Float))
  | placed (decision : PlacementDecision Float)
  | queued (queueEnter queueDispatch : Float) (waitMs : Int)
  | hop (fields : HopFields)
  | queueRelease
  | overflow (reason outcome : String) (errorType : Option String)
  | overflowSkipped (reason : String)

structure OverflowArgs where
  code : Nat
  reason : String
  source : String
  neverOverflow : Bool
deriving DecidableEq, Repr

structure OverflowRequest (Float : Type) where
  url : String
  headers : List (String × String)
  timeoutS : Float
  streamed : Bool
  payload : Payload Float

inductive AttemptCall (Float : Type) where
  | monotonic
  | metric (metric : Metric Float)
  | log (fields : LogFields Float) (event : LogEvent Float)
  | send (request : OverflowRequest Float)
  | leave
  | close

inductive HandlerCall (Float : Type) where
  | monotonic
  | time
  | metric (metric : Metric Float)
  | log (fields : LogFields Float) (event : LogEvent Float)
  | quotaAcquire (tenant : Option String) (tokens : Int) (now : Float)
  | leaseRelease (refund : Bool)
  | servingSnapshots
  | countQueued
  | nextRr
  | draw
  | recordPrefix (worker : String) (prefixId : Option String) (tokens : Int)
  | addPending (worker : String) (n : Int)
  | queueAcquire (worker : String) (klass : WorkloadClass) (tokens : Int)
    (deadlineAt : Option Float)
  | ticketRelease
  | addInflight (worker : String) (n tokens : Int)
  | noteDispatch (worker : String)
  | noteFinish (worker : String) (token : Int)
  | warmContext (worker : String)
  | markCold (worker reason : String)
  | send (url : String) (streamed : Bool) (payload : Payload Float)
  | readErrorBody
  | leave
  | close
  /-- A step of the overflow attempt that is made with these arguments. -/
  | attempt (args : OverflowArgs) (call : AttemptCall Float)
  | relay
  | startStream
  | runBackground

inductive QueueReply (Float : Type) where
  | granted (waitS : Float)
  | rejected (reason : RejectReason)
  | cancelled

inductive WorkerReply (Float : Type) where
  /-- `text` is `none` if its character set raises, and `json` if it cannot be decoded. -/
  | status (code : Nat) (text : Option String) (json : Option (PyValue Float))
  | connectError (text : String)
  | requestError (text : String)
  | interrupted (by_ : Interruption)

inductive OverflowReply (Float : Type) where
  /-- The content, or the type of the `ValueError` that decoding it raises. -/
  | status (code : Nat) (content : Except String (PyValue Float))
  /-- An `httpx.HTTPError` or a `ValueError` -/
  | failed (timeout : Bool) (errorType : String)
  /-- A cancellation, or an exception of another class -/
  | interrupted (by_ : Interruption)

inductive RelayFate where
  | finished
  | failed (timeout : Bool) (text errorType : String)
  | interrupted

structure Relayed where
  lines : List String
  fate : RelayFate

def AttemptReply : AttemptCall Float → Type
  | .monotonic => Float
  | .metric _ | .log _ _ => Unit
  | .send _ => OverflowReply Float
  | .leave | .close => Except Interruption Unit

def HandlerReply : HandlerCall Float → Type
  | .monotonic | .time => Float
  | .quotaAcquire _ _ _ => Except QuotaShed Unit
  | .servingSnapshots => List (WorkerSnapshot Float)
  | .nextRr | .noteDispatch _ => Int
  | .draw => Rng
  | .queueAcquire _ _ _ _ => QueueReply Float
  | .warmContext _ => Int × Int
  | .send _ _ _ => WorkerReply Float
  | .readErrorBody => Except Interruption String
  | .leave | .close => Except Interruption Unit
  | .attempt _ call => AttemptReply call
  | .relay => Relayed
  | .startStream | .runBackground => Bool
  | .metric _ | .log _ _ | .leaseRelease _ | .countQueued | .recordPrefix _ _ _ | .addPending _ _
  | .ticketRelease
  | .addInflight _ _ _ | .noteFinish _ _ | .markCold _ _ => Unit

inductive LeaseVar where
  | none
  | noLease
  | held
deriving DecidableEq, Repr

structure Locals (Float : Type) where
  correlation : Headers := .empty
  logFields : LogFields Float := .empty
  body : Option (Payload Float) := none
  lease : LeaseVar := .none
  ttftSeen : Bool := false
  freed : Bool := false
  finished : Bool := false
  overflowDone : Bool := false

abbrev HandlerM (Float : Type) (α : Type) :=
  Prog (HandlerCall Float) HandlerReply (Locals Float) HandlerError α

end Calls

section Steps

def setCorrelation (entries : List (String × String)) : HandlerM Float Unit :=
  modify fun locals => { locals with correlation := locals.correlation.update entries }

def setLogField (name : String) (value : LogValue Float) : HandlerM Float Unit :=
  modify fun locals => { locals with logFields := locals.logFields.set name value }

def metric (m : Metric Float) : HandlerM Float Unit := ask (.metric m : HandlerCall Float)

def log (event : LogEvent Float) : HandlerM Float Unit := do
  let locals ← get
  ask (.log locals.logFields event : HandlerCall Float)

def onlyIf (condition : Bool) (m : HandlerM Float Unit) : HandlerM Float Unit :=
  if condition then m else pure ()

def interrupt {α : Type} (interruption : Interruption) : HandlerM Float α :=
  throw (.interrupted interruption)

def orRaise {α : Type} : Option α → HandlerM Float α
  | some a => pure a
  | none => interrupt .raised

def orInterrupted {α : Type} : Except Interruption α → HandlerM Float α
  | .ok a => pure a
  | .error interruption => interrupt interruption

def close : HandlerM Float Unit := do
  let reply : Except Interruption Unit ← ask (.close : HandlerCall Float)
  orInterrupted reply

def leave : HandlerM Float Unit := do
  let reply : Except Interruption Unit ← ask (.leave : HandlerCall Float)
  orInterrupted reply

/-- `with metrics.timed(stage, klass)` -/
def timed {α : Type} (stage : String) (klass : WorkloadClass) (m : HandlerM Float α) :
    HandlerM Float α := do
  let outcome ← Prog.attempt m
  metric (.stageDuration stage klass)
  match outcome with
  | .ok a => pure a
  | .error error => throw error

def releaseLease (refund : Bool) : HandlerM Float Unit := do
  let locals ← get
  match locals.lease with
  | .held => ask (.leaseRelease refund : HandlerCall Float)
  | _ => pure ()

end Steps

end Handler

end AiAnalytics.Gateway
