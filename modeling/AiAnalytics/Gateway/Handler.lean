import AiAnalytics.Gateway.HandlerCalls
import AiAnalytics.Gateway.StreamRelay

/-!
# The handler of a request, with its data

`serve_completion` with the headers and the body it reads, the decisions it computes from them, and
what it sends on and answers; then the body of a streamed response.
-/

namespace AiAnalytics.Gateway.Handler

open Lib Lib.Prog
open Serve (Interruption overflows)

variable {Float : Type}

structure Context (Float : Type) where
  headers : RequestHeaders
  started : Float
  deadlineMs : Option Int
  klass : WorkloadClass

variable (cfg : HandlerConfig Float) (ctx : Context Float)

section Overflow

def attemptCall (args : OverflowArgs) (call : AttemptCall Float) :
    HandlerM Float (AttemptReply call) :=
  ask (.attempt args call : HandlerCall Float)

def recordFailure (args : OverflowArgs) : Option (String × String) → HandlerM Float Unit
  | none => pure ()
  | some failure => attemptCall args (.metric (.overflowError failure.1))

def record (args : OverflowArgs) (outcome : String) (failure : Option (String × String)) :
    HandlerM Float Unit := do
  attemptCall args (.metric (.overflow args.reason cfg.overflow.provider cfg.overflow.model
    outcome))
  recordFailure args failure
  let locals ← get
  attemptCall args (.log locals.logFields (.overflow args.reason outcome (failure.map Prod.snd)))

def leaveSuppressed (args : OverflowArgs) : HandlerM Float Unit := do
  let reply : Except Interruption Unit ← attemptCall args .leave
  orInterrupted (Serve.suppressed reply)

def closeOverflow (args : OverflowArgs) : HandlerM Float Unit := do
  let reply : Except Interruption Unit ← attemptCall args .close
  orInterrupted reply

def abandonOverflow (args : OverflowArgs) (streamed : Bool) (failure : String × String) :
    HandlerM Float (Option (Response Float)) := do
  onlyIf streamed (leaveSuppressed args)
  closeOverflow args
  record cfg args "error" (some failure)
  pure none

def statusFailure (status : Nat) : String × String :=
  (if 500 ≤ status then "fallback_5xx" else "fallback_error", "_OverflowStatus")

def once (status : Nat) : HandlerM Float Unit := do
  let locals ← get
  if locals.overflowDone then pure ()
  else do
    modify fun locals => { locals with overflowDone := true }
    releaseLease false
    metric (.requests status ctx.klass)

def answerOverflow (args : OverflowArgs) (content : PyValue Float) (headers : Headers) :
    HandlerM Float (Option (Response Float)) := do
  closeOverflow args
  record cfg args "ok" none
  once ctx 200
  pure (some (.json 200 (.json content) headers))

def overflowReplied (args : OverflowArgs) (streamed : Bool) (headers : Headers) :
    OverflowReply Float → HandlerM Float (Option (Response Float))
  | .interrupted interruption => interrupt interruption
  | .failed timeout errorType =>
      abandonOverflow cfg args streamed (if timeout then "fallback_timeout" else "fallback_error",
        errorType)
  | .status code content =>
      if code ≠ 200 then abandonOverflow cfg args streamed (statusFailure code)
      else if streamed then pure (some (.stream (.overflow args.reason) headers))
      else match content with
        | .error errorType => abandonOverflow cfg args streamed ("fallback_error", errorType)
        | .ok content => answerOverflow cfg ctx args content headers

def outHeaders (correlation : Headers) (reason : String) : Headers :=
  correlation.update
    [("x-orchestration-stage", "overflow"), ("x-place-decision", "overflow"),
      ("x-overflow", cfg.overflow.destination), ("x-overflow-reason", reason)]

def skipOverflow (args : OverflowArgs) : HandlerM Float (Option (Response Float)) := do
  attemptCall args (.metric (.overflowError "no_time_remaining"))
  let locals ← get
  attemptCall args (.log locals.logFields (.overflowSkipped args.reason))
  pure none

def overflowTimeout : Option Float → Float
  | none => cfg.overflow.timeoutS
  | some remaining => cfg.ops.min cfg.overflow.timeoutS remaining

def sendOverflow (args : OverflowArgs) (remaining : Option Float) :
    HandlerM Float (Option (Response Float)) := do
  let locals ← get
  match locals.body with
  | none => interrupt .raised
  | some body => do
      let streamed := streams cfg.lib body
      let reply : OverflowReply Float ← attemptCall args (.send
        { url := cfg.overflow.url, headers := cfg.overflow.headers,
          timeoutS := overflowTimeout cfg remaining
          streamed, payload := body.set "model" (.model cfg.overflow.model) })
      overflowReplied cfg ctx args streamed (outHeaders cfg locals.correlation args.reason) reply

/-- The budget that is left of the deadline. The reading of the clock has no effect, so it does not
matter that it comes before a division that may raise. -/
def remainingBudget (args : OverflowArgs) : HandlerM Float (Option Float) :=
  match ctx.deadlineMs with
  | none => pure none
  | some deadlineMs => do
      let now : Float ← attemptCall args .monotonic
      let seconds ← orRaise (cfg.ops.trueDiv deadlineMs 1000)
      pure (some (cfg.ops.sub (cfg.ops.add ctx.started seconds) now))

def timeIsUp : Option Float → Bool
  | none => false
  | some remaining => cfg.ops.le remaining cfg.ops.zero

def tryOverflow (args : OverflowArgs) : HandlerM Float (Option (Response Float)) :=
  if cfg.overflow.active && overflows args.code args.reason args.neverOverflow then do
    let remaining ← remainingBudget cfg ctx args
    modify fun locals => { locals with overflowDone := false }
    if timeIsUp cfg remaining then skipOverflow args else sendOverflow cfg ctx args remaining
  else pure none

structure Refusal (Float : Type) where
  status : Nat
  code : String
  reason : String
  stage : String
  extra : RejectExtra Float := .none
  headers : List (String × String) := []

def reject (refusal : Refusal Float) : HandlerM Float (Response Float) := do
  releaseLease true
  metric (.requests refusal.status ctx.klass)
  log (.rejected refusal.stage refusal.code refusal.reason refusal.extra)
  let locals ← get
  pure (.json refusal.status (.error refusal.code refusal.reason)
    (locals.correlation.update (("x-orchestration-stage", refusal.stage) :: refusal.headers)))

def overflowOrReject (args : OverflowArgs) (refusal : Refusal Float) :
    HandlerM Float (Response Float) := do
  let response ← tryOverflow cfg ctx args
  match response with
  | some response => pure response
  | none => reject ctx refusal

end Overflow

section Failures

/-- The letters that match another one when case is ignored; of the letters in the patterns only `i`
has counterparts beyond ASCII. -/
def foldCase (c : Char) : Char := if c = 'İ' ∨ c = 'ı' then 'i' else c.toLower

/-- `failed to allocate[^.]*memory` -/
def allocationFailed (text : List Char) : Bool :=
  text.tails.any fun rest =>
    "failed to allocate".toList.isPrefixOf rest &&
      contains "memory".toList ((rest.drop "failed to allocate".length).takeWhile (· ≠ '.'))

def reportsOom (body : String) : Bool :=
  let text := body.toList.map foldCase
  contains "out of memory".toList text || contains "outofmemoryerror".toList text ||
    contains "cudaerrormemoryallocation".toList text || allocationFailed text

def classifyError (status : Nat) (body : String) : Option String :=
  if 500 ≤ status && reportsOom body then some Serve.sliceOom else none

def noteSliceOom (worker : String) : HandlerM Float Unit := do
  metric (.sliceOom worker)
  ask (.markCold worker Serve.sliceOom : HandlerCall Float)
  setCorrelation [("x-upstream-reason", Serve.sliceOom)]

end Failures

section Dispatch

def freeWorker (dispatched : Dispatched) : HandlerM Float Unit := do
  let locals ← get
  if locals.freed then pure ()
  else do
    modify fun locals => { locals with freed := true }
    metric (.stageDuration "proxy" ctx.klass)
    ask (.addInflight dispatched.worker (-1) (-dispatched.estTokens) : HandlerCall Float)
    ask (.noteFinish dispatched.worker dispatched.token : HandlerCall Float)
    ask (.ticketRelease : HandlerCall Float)
    log .queueRelease

def finish (status : Nat) : HandlerM Float Unit := do
  let locals ← get
  if locals.finished then pure ()
  else do
    modify fun locals => { locals with finished := true }
    releaseLease (500 ≤ status)
    metric (.requests status ctx.klass)

def release (dispatched : Dispatched) (status : Nat) : HandlerM Float Unit := do
  freeWorker ctx dispatched
  finish ctx status

def upstreamArgs (code : Nat) (reason : String) : OverflowArgs := ⟨code, reason, "upstream", false⟩

def overflowUpstream (status : Nat) (text : String) : HandlerM Float (Option (Response Float)) :=
  if status ∈ Serve.eligibleCodes then
    tryOverflow cfg ctx (upstreamArgs status ((classifyError status text).getD "worker_overloaded"))
  else pure none

def noteOom (dispatched : Dispatched) (status : Nat) (text : String) : HandlerM Float Unit :=
  if classifyError status text = some Serve.sliceOom then noteSliceOom dispatched.worker
    else pure ()

def unreachable (code : Nat) (detail : String) : HandlerM Float (Response Float) := do
  let response ← tryOverflow cfg ctx (upstreamArgs code "worker_unavailable")
  match response with
  | some response => pure response
  | none => do
      finish ctx code
      let locals ← get
      throw (.httpException code detail locals.correlation)

def unavailable (dispatched : Dispatched) (text : String) : String :=
  s!"Worker unavailable at {cfg.workerUrl dispatched.worker}: {text}"

def openFailed (dispatched : Dispatched) (code : Nat) (text : String) :
    HandlerM Float (Response Float) := do
  freeWorker ctx dispatched
  close
  unreachable cfg ctx code (unavailable cfg dispatched text)

def answerError (status : Nat) (text : String) : HandlerM Float (Response Float) := do
  let response ← overflowUpstream cfg ctx status text
  match response with
  | some response => pure response
  | none => do
      finish ctx status
      let locals ← get
      pure (.json status (.upstreamText text) locals.correlation)

def streamRefused (dispatched : Dispatched) (status : Nat) : HandlerM Float (Response Float) := do
  let body : Except Interruption String ← ask (.readErrorBody : HandlerCall Float)
  let text ← orInterrupted body
  freeWorker ctx dispatched
  leave
  close
  noteOom dispatched status text
  answerError cfg ctx status text

def opened (dispatched : Dispatched) : WorkerReply Float → HandlerM Float (Response Float)
  | .connectError text => openFailed cfg ctx dispatched 503 text
  | .requestError text => openFailed cfg ctx dispatched 502 text
  | .interrupted interruption => interrupt interruption
  | .status code _ _ => do
      if code = 200 then do
        let locals ← get
        pure (.stream (.worker dispatched) locals.correlation)
      else streamRefused cfg ctx dispatched code

structure Posted (Float : Type) where
  status : Nat
  text : Option String
  json : Option (PyValue Float)

def posted (dispatched : Dispatched) :
    WorkerReply Float → HandlerM Float (Response Float ⊕ Posted Float)
  | .connectError text => do
      freeWorker ctx dispatched
      let response ← unreachable cfg ctx 503 (unavailable cfg dispatched text)
      pure (.inl response)
  | .requestError text => do
      release ctx dispatched 502
      let locals ← get
      throw (.httpException 502 s!"Error proxying to worker: {text}" locals.correlation)
  | .interrupted interruption => interrupt interruption
  | .status status text json => pure (.inr ⟨status, text, json⟩)

def postedContent (status : Nat) (text : String) (json : Option (PyValue Float)) :
    HandlerM Float (Response Float) := do
  finish ctx status
  let locals ← get
  if status = 200 then do
    let value ← orRaise json
    pure (.json 200 (.json value) locals.correlation)
  else pure (.json status (.upstreamText text) locals.correlation)

def answerPosted (dispatched : Dispatched) (answer : Posted Float) :
    HandlerM Float (Response Float) := do
  freeWorker ctx dispatched
  let text ← orRaise answer.text
  noteOom dispatched answer.status text
  let response ← overflowUpstream cfg ctx answer.status text
  match response with
  | some response => pure response
  | none => postedContent ctx answer.status text answer.json

def postReplied (dispatched : Dispatched) (reply : WorkerReply Float) :
    HandlerM Float (Response Float) := do
  let outcome ← Prog.attempt (posted cfg ctx dispatched reply)
  close
  match outcome with
  | .error error => throw error
  | .ok (.inl response) => pure response
  | .ok (.inr answer) => answerPosted cfg ctx dispatched answer

def proxy (dispatched : Dispatched) : HandlerM Float (Response Float) := do
  let locals ← get
  match locals.body with
  | none => interrupt .raised
  | some body => do
      let url := cfg.workerUrl dispatched.worker ++ "/v1/chat/completions"
      let streamed := streams cfg.lib body
      let reply : WorkerReply Float ← ask (.send url streamed body : HandlerCall Float)
      if streamed then opened cfg ctx dispatched reply else postReplied cfg ctx dispatched reply

def dispatch (worker : String) (estTokens : Int) : HandlerM Float (Response Float) := do
  ask (.addInflight worker 1 estTokens : HandlerCall Float)
  let token : Int ← ask (.noteDispatch worker : HandlerCall Float)
  let warm : Int × Int ← ask (.warmContext worker : HandlerCall Float)
  setCorrelation
    [("x-worker-warm-age-ms", toString warm.1), ("x-worker-requests-since-warm", toString warm.2)]
  proxy cfg ctx ⟨worker, token, estTokens⟩

end Dispatch

section Hop

def hopDeadline : Option Float → HandlerM Float (Option Float)
  | none => pure none
  | some remaining => do
      let now : Float ← ask (.time : HandlerCall Float)
      pure (some (cfg.ops.add now (cfg.ops.max cfg.ops.zero remaining)))

def prepareHop (body : Payload Float) (decision : PlacementDecision Float)
    (remaining : Option Float) (override experimentCase : Option String) :
    HandlerM Float (Payload Float × HopFields) := do
  let allowed := remaining.all fun remaining => cfg.ops.le cfg.minHopBudgetS remaining
  let answer ← orRaise (hopDecision cfg.lib cfg.getenv decision allowed override experimentCase)
  let deadlineEpochS ← hopDeadline cfg remaining
  let locals ← get
  let text (name : String) : String := (locals.correlation.get? name).getD ""
  pure
    ((body.pop connectorKey).set connectorKey
      (.connector
        { load := answer.1, requestId := text "x-request-id",
          conversationId := text "x-conversation-id"
          agentStep := text "x-agent-step", reason := answer.2, deadlineEpochS }),
      ⟨answer.2, if answer.1 then "pending" else "recompute"⟩)

def prepare (body : Payload Float) (decision : PlacementDecision Float) (remaining : Option Float)
    (override experimentCase : Option String) : HandlerM Float (Payload Float × HopFields) :=
  if cfg.getenv "KV_HOP_ENABLED" ≠ some "1" then
    pure (body.pop connectorKey, ⟨"disabled", "not_attempted"⟩)
  else prepareHop cfg body decision remaining override experimentCase

end Hop

section Controls

structure Controls where
  policy : Option String := none
  admissionOff : Bool := false
  quotaOff : Bool := false

def switches : List String := ["on", "off"]

def experimentControls (getenv : String → Option String)
    (policy admission quotaMode : Option String) : Option Controls :=
  if getenv "ALLOW_EXPERIMENT_CONTROLS" ≠ some "1" then some {}
  else if (policy.any (· ∉ policies)) || (admission.any (· ∉ switches)) ||
    (quotaMode.any (· ∉ switches)) then none
  else some ⟨policy, admission = some "off", quotaMode = some "off"⟩

def notePolicy : Option String → HandlerM Float Unit
  | none => pure ()
  | some policy => do
      setCorrelation [("x-policy-override-applied", policy)]
      setLogField "policy_override" (.text policy)

def noteAdmissionMode : Option String → HandlerM Float Unit
  | none => pure ()
  | some mode =>
      if cfg.getenv "ALLOW_EXPERIMENT_CONTROLS" = some "1" ∧ mode ∈ switches then do
        setCorrelation [("x-admission-mode", mode)]
        setLogField "admission_mode" (.text mode)
      else pure ()

def noteControls (controls : Controls) (admissionMode : Option String) : HandlerM Float Unit := do
  notePolicy (given controls.policy)
  noteAdmissionMode cfg admissionMode
  onlyIf controls.quotaOff (setLogField "tenant_quota_mode" (.text "off"))

end Controls

section Stages

abbrev Admission (Float : Type) := Except (LocalShed Float) (Option (AdmitInputs Float))

def servingSnapshots : HandlerM Float (List (WorkerSnapshot Float)) :=
  ask (.servingSnapshots : HandlerCall Float)

def admission (controls : Controls) (estTokens : Int) (now : Float) :
    HandlerM Float (Admission Float) :=
  if controls.admissionOff then pure (.ok none)
  else do
    let snapshots ← servingSnapshots
    let answer ← orRaise (shouldShed cfg.ops ⟨estTokens, ctx.deadlineMs, ctx.klass⟩ snapshots now
      cfg.admission)
    match answer with
    | .error shed => pure (.error (.ofAdmission shed))
    | .ok inputs => pure (.ok (some inputs))

def admitRequest (controls : Controls) (estTokens : Int) (now : Float) :
    HandlerM Float (Admission Float) :=
  if controls.quotaOff then do
    modify fun locals => { locals with lease := .noLease }
    admission cfg ctx controls estTokens now
  else do
    let answer : Except QuotaShed Unit ← ask (.quotaAcquire ctx.headers.tenantId estTokens now :
      HandlerCall Float)
    match answer with
    | .error shed => pure (.error (.ofQuota shed))
    | .ok () => do
        modify fun locals => { locals with lease := .held }
        admission cfg ctx controls estTokens now

def tenant : String := cfg.quota.bucketName ctx.headers.tenantId

def shedResponse (shed : LocalShed Float) : HandlerM Float (Response Float) := do
  metric (.admitTotal "shed" shed.reason ctx.klass)
  metric (.shed shed.reason ctx.klass shed.code)
  metric (.tenantRequests (tenant cfg ctx) "shed")
  overflowOrReject cfg ctx ⟨shed.code, shed.reason, "admit", shed.neverOverflow⟩
    { status := shed.code, code := shed.reason, reason := "request shed by admission",
      stage := "admit"
      extra := .shed shed.inputs shed.neverOverflow
      headers :=
        [("x-admit-decision", "shed:" ++ shed.reason),
          ("retry-after", toString shed.retryAfterSeconds)] }

def remainingTime : Option Float → HandlerM Float (Option Float)
  | none => pure none
  | some deadlineAt => do
      let now : Float ← ask (.monotonic : HandlerCall Float)
      pure (some (cfg.ops.sub deadlineAt now))

def rebind (experiment : ExperimentHeaders) (decision : PlacementDecision Float)
    (remaining : Option Float) : HandlerM Float Unit := do
  let locals ← get
  match locals.body with
  | none => interrupt .raised
  | some body => do
      let prepared ← prepare cfg body decision remaining experiment.kvHopMode experiment.kvHopCase
      modify fun locals => { locals with body := some prepared.1 }
      log (.hop prepared.2)
      setCorrelation [("x-hop-decision", prepared.2.decisionReason)]

def granted (experiment : ExperimentHeaders) (decision : PlacementDecision Float) (estTokens : Int)
    (deadlineAt : Option Float) (queueEnter waitS : Float) : HandlerM Float (Response Float) := do
  let waitMs := cfg.ms waitS
  metric (.queueWait decision.chosenWorker ctx.klass waitS)
  setCorrelation [("x-queue-decision", "dispatched"), ("x-queue-wait-ms", toString waitMs)]
  log (.queued queueEnter (cfg.ops.add queueEnter waitS) waitMs)
  let remaining ← remainingTime cfg deadlineAt
  rebind cfg experiment decision remaining
  dispatch cfg ctx decision.chosenWorker estTokens

def queueRejected (queueEnter : Float) (reason : RejectReason) :
    HandlerM Float (Response Float) := do
  metric (.queueErrors reason.label ctx.klass)
  let response ← tryOverflow cfg ctx ⟨503, reason.label, "queue", false⟩
  match response with
  | some response => pure response
  | none => do
      let logged : Float ← ask (.time : HandlerCall Float)
      let answered : Float ← ask (.time : HandlerCall Float)
      reject ctx
        { status := 503, code := reason.label, reason := "request could not get a dispatch slot",
          stage := "queue"
          extra := .queue queueEnter (cfg.ms (cfg.ops.sub logged queueEnter))
          headers :=
            [("x-queue-decision", reason.label),
              ("x-queue-wait-ms", toString (cfg.ms (cfg.ops.sub answered queueEnter))),
              ("retry-after", toString cfg.admission.retryAfterS)] }

def absoluteDeadline (now : Float) : HandlerM Float (Option Float) :=
  match ctx.deadlineMs with
  | none => pure none
  | some deadlineMs => do
      let seconds ← orRaise (cfg.ops.trueDiv deadlineMs 1000)
      pure (some (cfg.ops.add now seconds))

def enqueue (experiment : ExperimentHeaders) (decision : PlacementDecision Float) (estTokens : Int)
    (now : Float) : HandlerM Float (Response Float) := do
  let deadlineAt ← absoluteDeadline cfg ctx now
  let queueEnter : Float ← ask (.time : HandlerCall Float)
  ask (.addPending decision.chosenWorker 1 : HandlerCall Float)
  let reply : QueueReply Float ←
    ask (.queueAcquire decision.chosenWorker ctx.klass estTokens deadlineAt : HandlerCall Float)
  ask (.addPending decision.chosenWorker (-1) : HandlerCall Float)
  metric (.stageDuration "queue" ctx.klass)
  match reply with
  | .granted waitS => granted cfg ctx experiment decision estTokens deadlineAt queueEnter waitS
  | .rejected reason => queueRejected cfg ctx queueEnter reason
  | .cancelled => do
      releaseLease true
      interrupt .cancelled

def prefixTokens (estTokens : Int) : Option Int :=
  (intOrNone cfg.lib ctx.headers.prefixTokens).map (min · estTokens)

def pickWorker (forceWorker : Option String) (policy : Option String) (estTokens : Int) :
    HandlerM Float (Except PlacementError (PlacementDecision Float)) := do
  let snapshots ← servingSnapshots
  let rrIndex : Int ← ask (.nextRr : HandlerCall Float)
  let limit ← orRaise (cfg.admission.slotLimit cfg.ops .batch)
  let now : Float ← ask (.monotonic : HandlerCall Float)
  let rng : Rng ← ask (.draw : HandlerCall Float)
  pure (pick cfg.ops rng
    { cfg.placement with
      rrIndex
      allowForced := cfg.getenv "ALLOW_FORCED_PLACEMENT" = some "1"
      batchSlotLimit := some limit }
    ⟨ctx.headers.prefixId, estTokens, ctx.klass, forceWorker⟩ snapshots now
    ((given policy).getD cfg.placementPolicy))

def placed (experiment : ExperimentHeaders) (decision : PlacementDecision Float) (estTokens : Int)
    (now : Float) : HandlerM Float (Response Float) := do
  metric (.picks decision.placementPolicy decision.chosenWorker decision.placementReason)
  onlyIf (given decision.fallback).isSome (metric .staleFallback)
  ask (.recordPrefix decision.chosenWorker ctx.headers.prefixId
  ((prefixTokens cfg ctx estTokens).getD estTokens) :
    HandlerCall Float)
  setCorrelation
    [("x-orchestration-stage", "worker_dispatch"), ("x-place-decision", decision.chosenWorker),
      ("x-placement-policy", decision.placementPolicy),
      ("x-placement-reason", decision.placementReason),
      ("x-intended-action", decision.intendedAction.label)]
  log (.placed decision)
  enqueue cfg ctx experiment decision estTokens now

def place (experiment : ExperimentHeaders) (controls : Controls) (estTokens : Int) (now : Float) :
    HandlerM Float (Response Float) := do
  ask (.countQueued : HandlerCall Float)
  let answer ← timed "place" ctx.klass
    (pickWorker cfg ctx experiment.forceWorker controls.policy estTokens)
  match answer with
  | .ok decision => placed cfg ctx experiment decision estTokens now
  | .error error => do
      metric (.placementErrors error.label)
      overflowOrReject cfg ctx ⟨503, error.label, "place", false⟩
        { status := 503, code := error.label, reason := "no worker available for placement",
          stage := "place" }

def serveGuarded (experiment : ExperimentHeaders) (controls : Controls) (body : Payload Float) :
    HandlerM Float (Response Float) := do
  let estTokens := estimatePromptTokens cfg.lib body ctx.headers.estimatedPromptTokens
  let now : Float ← ask (.monotonic : HandlerCall Float)
  let result ← timed "admit" ctx.klass (admitRequest cfg ctx controls estTokens now)
  match result with
  | .error shed => shedResponse cfg ctx shed
  | .ok inputs => do
      metric (.admitTotal "accept" "ok" ctx.klass)
      metric (.tenantRequests (tenant cfg ctx) "admitted")
      log (.admitted inputs)
      place cfg ctx experiment controls estTokens now

def guarded (experiment : ExperimentHeaders) (controls : Controls) :
    HandlerM Float (Response Float) := do
  let locals ← get
  let verdict ← timed "guard" ctx.klass
    (orRaise (inspect cfg.lib cfg.getenv locals.body ctx.headers.estimatedPromptTokens))
  match locals.body, verdict.ok with
  | some body, true => serveGuarded cfg ctx experiment controls body
  | _, _ => do
      metric (.guardReject verdict.code)
      reject ctx
        { status := verdict.httpStatus, code := verdict.code, reason := verdict.reason,
          stage := "guard"
          headers :=
            [("x-guard-decision", "reject:" ++ verdict.code),
              ("x-admit-decision", "not_evaluated")] }

end Stages

section Request

variable (request : Request Float)

def RequestHeaders.klass (headers : RequestHeaders) : WorkloadClass :=
  if headers.requestPriority = some "batch" then .batch else .interactive

/-- `value or default` -/
def orDefault (value : Option String) (default : String) : String := (given value).getD default

def RequestHeaders.correlation (headers : RequestHeaders) : Headers :=
  Headers.update .empty
    [("x-request-id", orDefault headers.requestId "req-untracked"),
      ("x-conversation-id", orDefault headers.conversationId "conv-untracked"),
      ("x-agent-step", orDefault headers.agentStep "0"),
      ("x-prefix-id", orDefault headers.prefixId "prefix-none"),
      ("x-orchestration-stage", "guard"), ("x-guard-decision", "allow"),
      ("x-admit-decision", "accept"),
      ("x-place-decision", "none")]

def RequestHeaders.logFields (headers : RequestHeaders) (receivedAt : Float) : LogFields Float :=
  [("request_id", .text (some (orDefault headers.requestId "req-untracked"))),
    ("conversation_id", .text (some (orDefault headers.conversationId "conv-untracked"))),
    ("agent_step", .text (some (orDefault headers.agentStep "0"))),
    ("received_at", .number receivedAt),
    ("prefix_id", .text headers.prefixId), ("tenant_id", .text headers.tenantId),
    ("workload_class", .text (some headers.klass.label))].foldl
      (fun fields (entry : String × LogValue Float) => fields.set entry.1 entry.2) .empty

def begin (json : Option (PyValue Float)) : HandlerM Float (Context Float) := do
  let started : Float ← ask (.monotonic : HandlerCall Float)
  let receivedAt : Float ← ask (.time : HandlerCall Float)
  modify fun locals =>
    { locals with
      body := Payload.ofJson json
      correlation := request.headers.correlation
      logFields := request.headers.logFields receivedAt }
  pure ⟨request.headers, started, intOrNone cfg.lib request.headers.deadlineMs,
    request.headers.klass⟩

def serveParsed (json : Option (PyValue Float)) :
    HandlerM Float (Context Float × Response Float) := do
  let ctx ← begin cfg request json
  match experimentControls cfg.getenv request.experiment.placementPolicyOverride
      request.experiment.admissionMode request.experiment.tenantQuotaMode with
  | none => do
      noteControls cfg {} request.experiment.admissionMode
      let response ← reject ctx
        { status := 400, code := "invalid_experiment_control"
          reason := "unsupported experiment control header value", stage := "guard" }
      pure (ctx, response)
  | some controls => do
      noteControls cfg controls request.experiment.admissionMode
      let response ← guarded cfg ctx request.experiment controls
      pure (ctx, response)

def serveCompletion : HandlerM Float (Context Float × Response Float) := do
  let json ← orInterrupted request.json
  serveParsed cfg request json

end Request

section Body

def hasContent (line : String) : Bool :=
  if "data:".toList.isPrefixOf line.toList then
    match cfg.loads (String.ofList (line.toList.drop 5)) with
    | some (.dict entries) => match entries.lookup "choices" with
      | some (.list (.dict choice :: _)) =>
          (choice.lookup "text").any (PyValue.truthy cfg.lib.num) ||
            match choice.lookup "delta" with
            | some (.dict delta) => (delta.lookup "content").any (PyValue.truthy cfg.lib.num)
            | _ => false
      | _ => false
    | _ => false
  else false

def observeTtft : HandlerM Float Unit := do
  let locals ← get
  if locals.ttftSeen then pure ()
  else do
    modify fun locals => { locals with ttftSeen := true }
    let now : Float ← ask (.monotonic : HandlerCall Float)
    metric (.ttft ctx.klass (cfg.ops.sub now ctx.started))

def relayed : HandlerM Float Relayed := do
  let reply : Relayed ← ask (.relay : HandlerCall Float)
  onlyIf (reply.lines.any (hasContent cfg)) (observeTtft cfg ctx)
  pure reply

def Relayed.records (reply : Relayed) (errorText : String → String) : List String :=
  reply.lines.filter (· ≠ "") ++ match reply.fate with
    | .failed _ text _ => [errorRecord (errorText text)]
    | _ => []

/-- `stream_generator` -/
def relayWorker (dispatched : Dispatched) : HandlerM Float (List String) := do
  let reply ← relayed cfg ctx
  release ctx dispatched (match reply.fate with
    | .failed _ _ _ => 502
    | _ => 200)
  leave
  close
  pure (reply.records id)

def recordStreamFailure : Option (String × String) → HandlerM Float Unit
  | none => pure ()
  | some failure => metric (.overflowError failure.1)

def recordStream (reason outcome : String) (failure : Option (String × String)) :
    HandlerM Float Unit := do
  metric (.overflow reason cfg.overflow.provider cfg.overflow.model outcome)
  recordStreamFailure failure
  log (.overflow reason outcome (failure.map Prod.snd))

def overflowFate (reason : String) : RelayFate → HandlerM Float Nat
  | .finished => do
      recordStream cfg reason "ok" none
      pure 200
  | .failed timeout _ errorType => do
      recordStream cfg reason "error"
        (some (if timeout then "fallback_timeout" else "fallback_error", errorType))
      pure 502
  | .interrupted => pure 499

def relayOverflow (reason : String) : HandlerM Float (List String) := do
  let reply ← relayed cfg ctx
  let status ← overflowFate cfg reason reply.fate
  let left : Except Interruption Unit ← ask (.leave : HandlerCall Float)
  orInterrupted (Serve.suppressed left)
  close
  once ctx status
  pure (reply.records fun _ => "overflow_stream_error")

def relaySource : Source → HandlerM Float (List String)
  | .worker dispatched => relayWorker cfg ctx dispatched
  | .overflow reason => relayOverflow cfg ctx reason

/-- `stream_cleanup`, and `cleanup` of `_overflow`. -/
def cleanup : Source → HandlerM Float Unit
  | .worker dispatched => do
      release ctx dispatched 499
      close
  | .overflow _ => do
      once ctx 499
      close

def generate (source : Source) (started : Bool) : HandlerM Float (List String) :=
  if started then relaySource cfg ctx source else pure []

def sendBody : Response Float → HandlerM Float (List String)
  | .json _ _ _ => pure []
  | .stream source _ => do
      let started : Bool ← ask (.startStream : HandlerCall Float)
      let records ← generate cfg ctx source started
      let background : Bool ← ask (.runBackground : HandlerCall Float)
      onlyIf background (cleanup ctx source)
      pure records

def serveRequest (request : Request Float) : HandlerM Float (Response Float × List String) := do
  let answer ← serveCompletion cfg request
  let records ← sendBody cfg answer.1 answer.2
  pure (answer.2, records)

end Body

end AiAnalytics.Gateway.Handler
