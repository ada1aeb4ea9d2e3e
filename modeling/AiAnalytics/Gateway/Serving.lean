import AiAnalytics.Lib.Interaction

/-!
# Serving one request

`serve_completion` and the response it returns, to the end of the body. Every request only adds to
and subtracts from the shared counters, so `Ledger` is what this request has added and not yet taken
away, with the number of times it has taken and given back each of the three things it holds.

Every place where the handler can be left is a call: the awaits, and the steps in between that may
raise. A call is labelled with whether the handler holds something then, by its own variables.
-/

namespace AiAnalytics.Gateway.Serve

open Lib Lib.Prog

section State

structure Ledger where
  active : Int := 0
  pending : Int := 0
  inflight : Int := 0
  inflightTokens : Int := 0
  recentDispatches : List Nat := []
  queueInflight : Int := 0
  leases : Nat := 0
  leaseReleases : Nat := 0
  tickets : Nat := 0
  ticketReleases : Nat := 0
  dispatches : Nat := 0
  dispatchReleases : Nat := 0
deriving DecidableEq

def ReturnedOnce (taken returned : Nat) : Prop := returned = taken ∧ taken ≤ 1

instance (taken returned : Nat) : Decidable (ReturnedOnce taken returned) :=
  inferInstanceAs (Decidable (_ ∧ _))

/-- No counter contains a contribution of the request, and what it took it has given back once. -/
def Ledger.Settled (ledger : Ledger) : Prop :=
  ledger.active = 0 ∧ ledger.pending = 0 ∧ ledger.inflight = 0 ∧ ledger.inflightTokens = 0 ∧
    ledger.recentDispatches = [] ∧ ledger.queueInflight = 0 ∧
    ReturnedOnce ledger.leases ledger.leaseReleases ∧
    ReturnedOnce ledger.tickets ledger.ticketReleases ∧
    ReturnedOnce ledger.dispatches ledger.dispatchReleases

instance (ledger : Ledger) : Decidable ledger.Settled :=
  inferInstanceAs (Decidable (_ ∧ _ ∧ _ ∧ _ ∧ _ ∧ _ ∧ _ ∧ _ ∧ _))

inductive LeaseVar where
  | none
  | noLease
  | held
  | released (refund : Bool)
deriving DecidableEq, Repr

inductive TicketVar where
  | none
  | held
  | released
deriving DecidableEq, Repr

structure ServeState where
  ledger : Ledger := {}
  lease : LeaseVar := .none
  ticket : TicketVar := .none
  lostSlot : Bool := false
  dispatchToken : Option Nat := none
  freed : Bool := false
  finished : Bool := false
  overflowDone : Bool := false

def ServeState.Holds (state : ServeState) : Prop :=
  state.lease = .held ∨ state.ticket = .held ∨
    (state.dispatchToken.isSome = true ∧ state.freed = false)

instance (state : ServeState) : Decidable state.Holds :=
  inferInstanceAs (Decidable (_ ∨ _ ∨ _))

structure ServeConfig where
  estTokens : Int
  overflowActive : Bool
  hasDeadline : Bool

namespace ServeState

variable (state : ServeState)

def takeLease : ServeState :=
  { state with
    lease := .held
    ledger :=
      { state.ledger with
        active := state.ledger.active + 1, leases := state.ledger.leases + 1 } }

def releaseLease (refund : Bool) : ServeState :=
  match state.lease with
  | .held =>
      { state with
        lease := .released refund
        ledger :=
          { state.ledger with
            active := state.ledger.active - 1, leaseReleases := state.ledger.leaseReleases + 1 } }
  | _ => state

def addPending (n : Int) : ServeState :=
  { state with ledger := { state.ledger with pending := state.ledger.pending + n } }

def takeTicket : ServeState :=
  { state with
    ticket := .held
    ledger :=
      { state.ledger with
        queueInflight := state.ledger.queueInflight + 1, tickets := state.ledger.tickets + 1 } }

def releaseTicket : ServeState :=
  match state.ticket with
  | .held =>
      { state with
        ticket := .released
        ledger :=
          { state.ledger with
            queueInflight := state.ledger.queueInflight - 1
            ticketReleases := state.ledger.ticketReleases + 1 } }
  | _ => state

def loseSlot : ServeState :=
  { state with
    lostSlot := true
    ledger := { state.ledger with queueInflight := state.ledger.queueInflight + 1 } }

def noteDispatch (estTokens : Int) (token : Nat) : ServeState :=
  { state with
    dispatchToken := some token
    ledger :=
      { state.ledger with
        inflight := state.ledger.inflight + 1
        inflightTokens := state.ledger.inflightTokens + estTokens
        recentDispatches := state.ledger.recentDispatches ++ [token]
        dispatches := state.ledger.dispatches + 1 } }

def noteFinish (token : Nat) : ServeState :=
  { state with
    ledger :=
      { state.ledger with
        recentDispatches := state.ledger.recentDispatches.erase token
        dispatchReleases := state.ledger.dispatchReleases +
          (if token ∈ state.ledger.recentDispatches then 1 else 0) } }

def freeWorker (estTokens : Int) : ServeState :=
  if state.freed then state
  else
    let counted :=
      { state with
        freed := true
        ledger :=
          { state.ledger with
            inflight := state.ledger.inflight - 1
            inflightTokens := state.ledger.inflightTokens - estTokens } }
    match state.dispatchToken with
    | none => counted.releaseTicket
    | some token => (counted.noteFinish token).releaseTicket

def finish (status : Nat) : ServeState :=
  if state.finished then state
  else { state with finished := true }.releaseLease (500 ≤ status)

def release (estTokens : Int) (status : Nat) : ServeState :=
  (state.freeWorker estTokens).finish status

/-- `once` of `try_overflow`: the overflow has consumed the tokens. -/
def overflowFinished : ServeState :=
  if state.overflowDone then state
  else { state with overflowDone := true }.releaseLease false

end ServeState

end State

section Calls

/-- A task cancellation, or an exception that the code at the call has no clause for. -/
inductive Interruption where
  | cancelled
  | raised
deriving DecidableEq, Repr

structure Controls where
  quotaOff : Bool := false
  admissionOff : Bool := false

structure ShedReply where
  code : Nat
  reason : String
  neverOverflow : Bool := false

inductive QueueReply where
  | granted
  | rejected (reason : String) (lostSlot : Bool)
  | cancelled

inductive UpstreamReply where
  | status (code : Nat) (json : Bool)
  | connectError
  | requestError
  | interrupted (by_ : Interruption)

inductive RelayFate where
  | finished
  | failed
  | interrupted

abbrev RequestBody := Option Bool

/-- The steps that the handler has no clause around: it is left if one of them does not return. -/
inductive Unguarded where
  | readBody
  | shouldShed
  | pick
  | deadlineAt
  | hopPrepare
  | remainingTime
  | closeOverflow
  | readErrorBody
  | readText
  | exitWorker
  | closeWorker
deriving DecidableEq, Repr

def UnguardedReply : Unguarded → Type
  | .readBody => RequestBody
  | .shouldShed => Option ShedReply
  | .pick => Option String
  | .remainingTime | .readErrorBody | .readText => Bool
  | .deadlineAt | .hopPrepare | .closeOverflow | .exitWorker | .closeWorker => Unit

inductive Upstream where
  | openOverflow
  | postOverflow
  | openWorker
  | postWorker
deriving DecidableEq, Repr

inductive Site where
  | unguarded (step : Unguarded)
  | upstream (request : Upstream)
  | experimentControls
  | inspect
  | quotaAcquire
  | queueAcquire
  | nextDispatchId
  | exitOverflow
  | startStream
  | relayStream
  | exitStream
  | closeStream
  | runBackground
deriving DecidableEq, Repr

def SiteReply : Site → Type
  | .unguarded step => Except Interruption (UnguardedReply step)
  | .upstream _ => UpstreamReply
  | .experimentControls => Option Controls
  | .inspect => Option Nat
  | .quotaAcquire => Option ShedReply
  | .queueAcquire => QueueReply
  | .nextDispatchId => Nat
  | .exitOverflow | .exitStream | .closeStream => Except Interruption Unit
  | .startStream | .runBackground => Bool
  | .relayStream => RelayFate

structure ServeCall where
  site : Site
  holding : Bool
deriving DecidableEq

def ServeReply (call : ServeCall) : Type := SiteReply call.site

inductive ServeError where
  | interrupted (by_ : Interruption)
  | httpException (status : Nat)
deriving DecidableEq, Repr

abbrev ServeM (α : Type) := Prog ServeCall ServeReply ServeState ServeError α

def await (site : Site) : ServeM (SiteReply site) := do
  let state ← get
  ask (⟨site, decide state.Holds⟩ : ServeCall)

def orInterrupted {α : Type} : Except Interruption α → ServeM α
  | .ok a => pure a
  | .error interruption => throw (.interrupted interruption)

def pass (step : Unguarded) : ServeM (UnguardedReply step) := do
  let reply : Except Interruption (UnguardedReply step) ← await (.unguarded step)
  orInterrupted reply

def onlyIf (condition : Bool) (m : ServeM Unit) : ServeM Unit :=
  if condition then m else pure ()

def suppressed : Except Interruption Unit → Except Interruption Unit
  | .error .raised => .ok ()
  | reply => reply

end Calls

variable (cfg : ServeConfig)

section Overflow

inductive Response where
  | json (status : Nat)
  | workerStream
  | overflowStream
deriving DecidableEq, Repr

def eligibleCodes : List Nat := [503, 529]

def localOnlyReasons : List String := ["slice_oom", "unknown_forced_worker", "unknown_policy"]

/-- `overflow.decide` -/
def overflows (code : Nat) (reason : String) (neverOverflow : Bool) : Bool :=
  !neverOverflow && code ∈ eligibleCodes && reason ∉ localOnlyReasons

def exitOverflow : ServeM Unit := do
  let left : Except Interruption Unit ← await .exitOverflow
  orInterrupted (suppressed left)

def abandonOverflow (streamed : Bool) : ServeM (Option Response) := do
  onlyIf streamed exitOverflow
  pass .closeOverflow
  pure none

def overflowStreamed (reply : UpstreamReply) : ServeM (Option Response) :=
  match reply with
  | .interrupted interruption => throw (.interrupted interruption)
  | .status 200 _ => pure (some .overflowStream)
  | _ => abandonOverflow true

def overflowPosted (reply : UpstreamReply) : ServeM (Option Response) :=
  match reply with
  | .interrupted interruption => throw (.interrupted interruption)
  | .status 200 true => do
      pass .closeOverflow
      modify ServeState.overflowFinished
      pure (some (.json 200))
  | _ => abandonOverflow false

def overflow (streams : Bool) : ServeM (Option Response) := do
  if streams then do
    let reply : UpstreamReply ← await (.upstream .openOverflow)
    overflowStreamed reply
  else do
    let reply : UpstreamReply ← await (.upstream .postOverflow)
    overflowPosted reply

def timeIsUp : ServeM Bool := do
  if cfg.hasDeadline then pass .remainingTime else pure false

def tryOverflow (streams : Bool) (code : Nat) (reason : String) (neverOverflow : Bool) :
    ServeM (Option Response) := do
  if cfg.overflowActive && overflows code reason neverOverflow then do
    modify fun state => { state with overflowDone := false }
    let up ← timeIsUp cfg
    if up then pure none else overflow streams
  else pure none

def reject (status : Nat) : ServeM Response := do
  modify fun state => state.releaseLease true
  pure (.json status)

def overflowOrReject (streams : Bool) (code : Nat) (reason : String) (neverOverflow : Bool) :
    ServeM Response := do
  let response ← tryOverflow cfg streams code reason neverOverflow
  match response with
  | some response => pure response
  | none => reject code

end Overflow

section Dispatch

def sliceOom : String := "slice_oom"

def upstreamReason (status : Nat) (oom : Bool) : String :=
  if 500 ≤ status && oom then sliceOom else "worker_overloaded"

def upstreamError (streams : Bool) (status : Nat) (oom : Bool) : ServeM (Option Response) :=
  if status ∈ eligibleCodes then tryOverflow cfg streams status (upstreamReason status oom) false
  else pure none

def unreachable (streams : Bool) (code : Nat) : ServeM Response := do
  let response ← tryOverflow cfg streams code "worker_unavailable" false
  match response with
  | some response => pure response
  | none => do
      modify fun state => state.finish code
      throw (.httpException code)

def openFailed (code : Nat) : ServeM Response := do
  modify fun state => state.freeWorker cfg.estTokens
  pass .closeWorker
  unreachable cfg true code

def streamRefused (status : Nat) : ServeM Response := do
  let oom : Bool ← pass .readErrorBody
  modify fun state => state.freeWorker cfg.estTokens
  pass .exitWorker
  pass .closeWorker
  let response ← upstreamError cfg true status oom
  match response with
  | some response => pure response
  | none => do
      modify fun state => state.finish status
      pure (.json status)

def openStream : ServeM Response := do
  let reply : UpstreamReply ← await (.upstream .openWorker)
  match reply with
  | .connectError => openFailed cfg 503
  | .requestError => openFailed cfg 502
  | .interrupted interruption => throw (.interrupted interruption)
  | .status code _ => if code = 200 then pure .workerStream else streamRefused cfg code

structure Posted where
  status : Nat
  json : Bool

def postWorker : ServeM (Response ⊕ Posted) := do
  let reply : UpstreamReply ← await (.upstream .postWorker)
  match reply with
  | .connectError => do
      modify fun state => state.freeWorker cfg.estTokens
      let response ← unreachable cfg false 503
      pure (.inl response)
  | .requestError => do
      modify fun state => state.release cfg.estTokens 502
      throw (.httpException 502)
  | .interrupted interruption => throw (.interrupted interruption)
  | .status status json => pure (.inr { status, json })

/-- `upstream_resp.text` raises if the worker names a character set that decodes nothing. -/
def answerPosted (posted : Posted) : ServeM Response := do
  modify fun state => state.freeWorker cfg.estTokens
  let oom : Bool ← pass .readText
  let response ← upstreamError cfg false posted.status oom
  match response with
  | some response => pure response
  | none => do
      modify fun state => state.finish posted.status
      if posted.status = 200 ∧ posted.json = false then throw (.interrupted .raised)
      else pure (.json posted.status)

def postPlain : ServeM Response := do
  let outcome ← attempt (postWorker cfg)
  pass .closeWorker
  match outcome with
  | .error error => throw error
  | .ok (.inl response) => pure response
  | .ok (.inr posted) => answerPosted cfg posted

def dispatch (streams : Bool) : ServeM Response := do
  pass .hopPrepare
  let token : Nat ← await .nextDispatchId
  modify fun state => state.noteDispatch cfg.estTokens token
  if streams then openStream cfg else postPlain cfg

end Dispatch

section Handler

def waitForSlot : ServeM QueueReply := do
  modify fun state => state.addPending 1
  let reply : QueueReply ← await .queueAcquire
  modify fun state => state.addPending (-1)
  pure reply

def enqueue (streams : Bool) : ServeM Response := do
  onlyIf cfg.hasDeadline (pass .deadlineAt)
  let reply ← waitForSlot
  match reply with
  | .granted => do
      modify ServeState.takeTicket
      dispatch cfg streams
  | .rejected reason lostSlot => do
      modify fun state => if lostSlot then state.loseSlot else state
      overflowOrReject cfg streams 503 reason false
  | .cancelled => do
      modify fun state => state.releaseLease true
      throw (.interrupted .cancelled)

def place (streams : Bool) : ServeM Response := do
  let decision : Option String ← pass .pick
  match decision with
  | some reason => overflowOrReject cfg streams 503 reason false
  | none => enqueue cfg streams

def admission (controls : Controls) : ServeM (Option ShedReply) :=
  if controls.admissionOff then pure none else pass .shouldShed

def admitRequest (controls : Controls) : ServeM (Option ShedReply) := do
  if controls.quotaOff then do
    modify fun state => { state with lease := .noLease }
    admission controls
  else do
    let shed : Option ShedReply ← await .quotaAcquire
    match shed with
    | some shed => pure (some shed)
    | none => do
        modify ServeState.takeLease
        admission controls

def serveGuarded (controls : Controls) (streams : Bool) : ServeM Response := do
  let shed ← admitRequest controls
  match shed with
  | some shed => overflowOrReject cfg streams shed.code shed.reason shed.neverOverflow
  | none => place cfg streams

def serveCompletion : ServeM Response := do
  let body : RequestBody ← pass .readBody
  let controls : Option Controls ← await .experimentControls
  match controls with
  | none => reject 400
  | some controls => do
      let refused : Option Nat ← await .inspect
      match refused with
      | some status => reject status
      | none => serveGuarded cfg controls (body.getD false)

end Handler

section Body

def leaveStream (suppress : Bool) : ServeM Bool := do
  let left : Except Interruption Unit ← await .exitStream
  match if suppress then suppressed left else left with
  | .error _ => pure false
  | .ok () => do
      let closed : Except Interruption Unit ← await .closeStream
      match closed with
      | .error _ => pure false
      | .ok () => pure true

/-- `stream_generator`: its `finally` releases before it awaits anything. -/
def relayWorker : ServeM Unit := do
  let fate : RelayFate ← await .relayStream
  modify fun state => state.release cfg.estTokens
    (match fate with
      | .failed => 502
      | _ => 200)
  let _ ← leaveStream false
  pure ()

/-- `gen` of `_overflow`: its `finally` awaits before it releases. -/
def relayOverflow : ServeM Unit := do
  let _ ← await .relayStream
  let left ← leaveStream true
  onlyIf left (modify ServeState.overflowFinished)

/-- A streaming response: the generator runs if the response gets to its first record, and the
background task runs if the response ends without an exception. -/
def streamBody (generator : ServeM Unit) (cleanup : ServeState → ServeState) : ServeM Unit := do
  let started : Bool ← await .startStream
  onlyIf started generator
  let background : Bool ← await .runBackground
  onlyIf background (modify cleanup)

def sendBody : Response → ServeM Unit
  | .json _ => pure ()
  | .workerStream => streamBody (relayWorker cfg) fun state => state.release cfg.estTokens 499
  | .overflowStream => streamBody relayOverflow ServeState.overflowFinished

def serveRequest : ServeM Unit := do
  let response ← serveCompletion cfg
  sendBody cfg response

end Body

end AiAnalytics.Gateway.Serve
