import AiAnalytics.KvTransfer.Identity
import AiAnalytics.Lib.Machine
import Mathlib.Data.Rat.Defs
import Mathlib.Logic.Function.Basic

/-!
# Evidence of KV reuse

An instrumented retrieval announces what it has loaded and appends it to a pending list; the end of
a forward swaps the list under a lock and settles what was in it, as consumed or as failed.
Retrievals and boundaries run on any number of threads. A step of the machine is one access to what
the threads share: the pending list under its lock, or the evidence that is emitted.
-/

namespace AiAnalytics.KvTransfer

open Lib

section Evidence

inductive EvidenceName where
  | kvHop | kvHopAvailable
deriving DecidableEq

inductive HopResult where
  | transferred | failed
deriving DecidableEq

inductive EvidenceConfirm where
  | available | missing | stale
deriving DecidableEq

structure HopParams where
  compatibilityTag : Option String
  hopNamespace : Option String
  prefixIdentity : Option String
  prefixVersion : Option String
  requestId : Option String
  conversationId : Option String
  agentStep : Option String
  sourceWorkerOrStore : Option String
  reason : Option String
  reusableTokens : Int
  lookupMs : ℚ

structure HopEvidence where
  requestId : Option String
  conversationId : Option String
  agentStep : Option String
  prefixIdentity : String
  prefixIdentityVersion : String
  sourceWorkerOrStore : String
  destinationWorker : String
  compatibilityNamespace : String
  hopDecisionReason : Option String
  reusableTokens : Int
  event : EvidenceName
  hopResult : HopResult
  transferredTokens : Int
  transferredBytes : Int
  lookupMs : ℚ
  transferMs : ℚ
  confirmMs : ℚ
  fallbackAction : String
  confirmResult : EvidenceConfirm
  destinationReusedTokens : Int
  destinationConsumed : Bool
  consumed : Bool
  errorType : Option String
deriving DecidableEq

structure HopConfig where
  compatibilityNamespace : String
  destinationWorker : String
  sourceWorkerOrStore : String

def validateRuntimeIdentity (config : HopConfig) (params : HopParams) :
    Except String PrefixIdentity :=
  if params.compatibilityTag ≠ some config.compatibilityNamespace then
    .error "LMCache retrieval is missing the worker-derived compatibility tag"
  else if params.hopNamespace ≠ some config.compatibilityNamespace then
    .error "retrieval compatibility namespace differs from worker configuration"
  else match params.prefixIdentity with
    | none => .error "retrieval is missing canonical prefix identity"
    | some prefixValue =>
        if ¬ "sha256:".toList.isPrefixOf prefixValue.toList then
          .error "retrieval is missing canonical prefix identity"
        else if params.prefixVersion ≠ some identityVersion then
          .error "retrieval prefix identity version is unsupported"
        else
          PrefixIdentity.postInit prefixValue config.compatibilityNamespace params.reusableTokens
            identityVersion

def retrievalEvidence (config : HopConfig) (params : HopParams) (identity : PrefixIdentity)
    (retrievedTokens transferredBytes : Int) (transferMs confirmMs : ℚ) (hopResult : HopResult)
    (confirmResult : EvidenceConfirm) (destinationConsumed : Bool) (fallbackAction : String)
    (errorType : Option String) : HopEvidence where
  requestId := params.requestId
  conversationId := params.conversationId
  agentStep := params.agentStep
  prefixIdentity := identity.value
  prefixIdentityVersion := identity.version
  sourceWorkerOrStore := params.sourceWorkerOrStore.getD config.sourceWorkerOrStore
  destinationWorker := config.destinationWorker
  compatibilityNamespace := identity.compatibilityNamespace
  hopDecisionReason := params.reason
  reusableTokens := params.reusableTokens
  event := .kvHop
  hopResult := hopResult
  transferredTokens := retrievedTokens
  transferredBytes := transferredBytes
  lookupMs := params.lookupMs
  transferMs := transferMs
  confirmMs := confirmMs
  fallbackAction := fallbackAction
  confirmResult := confirmResult
  destinationReusedTokens := if destinationConsumed then retrievedTokens else 0
  destinationConsumed := destinationConsumed
  consumed := destinationConsumed
  errorType := errorType

/-- The evidence that `confirm_forward_consumption` makes of a pending one -/
def consumedEvidence (available : HopEvidence) (transferDone confirmedAt : ℚ) : HopEvidence :=
  { available with
    event := .kvHop
    confirmMs := (confirmedAt - transferDone) * 1000
    destinationReusedTokens := available.transferredTokens
    destinationConsumed := true
    consumed := true }

def discardedEvidence (available : HopEvidence) (reason : String) : HopEvidence :=
  { available with
    event := .kvHop
    hopResult := .failed
    confirmResult := .stale
    fallbackAction := reason
    destinationReusedTokens := 0
    destinationConsumed := false
    consumed := false }

end Evidence

structure PendingHop (Call : Type) where
  retrieval : Call
  available : HopEvidence
  transferDone : ℚ

inductive Boundary where
  | confirmed (at_ : ℚ)
  | discarded (reason : String)
deriving DecidableEq

def Boundary.settle (boundary : Boundary) (available : HopEvidence) (transferDone : ℚ) :
    HopEvidence :=
  match boundary with
  | .confirmed at_ => consumedEvidence available transferDone at_
  | .discarded reason => discardedEvidence available reason

section Machine

variable {Call Thread : Type} [DecidableEq Call] [DecidableEq Thread]

inductive CallStage (Call Thread : Type) where
  /-- In `original_retrieve`. -/
  | retrieving (thread : Thread) (params : HopParams) (identity : PrefixIdentity)
    (expectedTokens : Int) (started : ℚ)
  /-- The availability is emitted, the pending lock not yet taken. -/
  | announced (thread : Thread) (available : HopEvidence) (transferDone : ℚ)
  /-- The pending list is swapped, these are still to be settled. -/
  | settling (boundary : Boundary) (pending : List (PendingHop Call))
  | finished

inductive HopEntry (Call : Type) where
  /-- `call` has emitted evidence about `retrieval`. -/
  | emitted (call retrieval : Call) (event : HopEvidence)
  /-- A retrieval was appended to the pending list. -/
  | recorded (retrieval : Call)
  /-- The pending list was swapped. -/
  | swapped (call : Call) (boundary : Boundary)
  /-- A retrieval has raised. -/
  | raised (retrieval : Call)

structure HopState (Call Thread : Type) where
  pending : List (PendingHop Call)
  transferredBytes : Thread → Int
  calls : Call → Option (CallStage Call Thread)
  log : List (HopEntry Call)

def HopState.start : HopState Call Thread := ⟨[], fun _ => 0, fun _ => none, []⟩

inductive HopLabel (Call Thread : Type) where
  /-- A retrieval begins. -/
  | retrieve (call : Call) (thread : Thread) (params : HopParams) (expectedTokens : Int)
    (started : ℚ)
  /-- `process_tokens` reports the bytes of the thread's retrieval. -/
  | processTokens (call : Call) (transferredBytes : Int)
  /-- `original_retrieve` returns; the three readings of the clock are `started`, this and the
  next. -/
  | retrieved (call : Call) (retrievedTokens : Int) (transferDone availableAt : ℚ)
  /-- `original_retrieve`, the hook it calls or the synchronisation raises; an integrity error has
  no type to report. -/
  | raise (call : Call) (errorType : Option String) (at_ : ℚ)
  /-- A retrieval takes the pending lock. -/
  | record (call : Call)
  /-- The lock section of `confirm_forward_consumption`, with the reading of the clock that follows
  it. -/
  | confirmForwardConsumption (call : Call) (confirmedAt : ℚ)
  /-- The lock section of `fail_forward`. -/
  | failForward (call : Call) (reason : String)
  /-- A boundary emits what it makes of the next retrieval it has taken. -/
  | settle (call : Call)

def beginForward (call : Call) : HopLabel Call Thread :=
  .failForward call "previous_forward_not_confirmed"

namespace HopState

variable (state : HopState Call Thread)

def setCall (call : Call) (stage : CallStage Call Thread) : HopState Call Thread :=
  { state with calls := Function.update state.calls call (some stage) }

def abort (call : Call) (thread : Thread) (evidence : Option HopEvidence) : HopState Call Thread :=
  { state with
    transferredBytes := Function.update state.transferredBytes thread 0
    calls := Function.update state.calls call (some .finished)
    log := state.log ++ (evidence.map (.emitted call call)).toList ++ [.raised call] }

def swap (call : Call) (boundary : Boundary) : HopState Call Thread :=
  { state with
    pending := []
    calls := Function.update state.calls call (some (.settling boundary state.pending))
    log := state.log ++ [.swapped call boundary] }

end HopState

def afterRetrieve (config : HopConfig) (state : HopState Call Thread) (call : Call)
    (thread : Thread) (params : HopParams) (identity : PrefixIdentity) (expectedTokens : Int)
    (started : ℚ)
    (retrievedTokens : Int) (transferDone availableAt : ℚ) : HopState Call Thread :=
  let transferredBytes := state.transferredBytes thread
  let transferMs := (transferDone - started) * 1000
  if retrievedTokens ≠ expectedTokens then
    state.abort call thread
      (some (retrievalEvidence config params identity retrievedTokens transferredBytes
      transferMs 0 .failed .missing false "fail_request_partial_retrieval" none))
  else if retrievedTokens ≤ 0 ∨ transferredBytes ≤ 0 then
    state.abort call thread
      (some (retrievalEvidence config params identity retrievedTokens transferredBytes
      transferMs 0 .failed .missing false "fail_request_empty_retrieval" none))
  else
    let available :=
      { retrievalEvidence config params identity retrievedTokens transferredBytes transferMs
      ((availableAt - transferDone) * 1000) .transferred .available false "none" none with event :=
        .kvHopAvailable }
    { state.setCall call (.announced thread available transferDone) with
      log := state.log ++ [.emitted call call available] }

def hopMachine (config : HopConfig) : Machine (HopState Call Thread) (HopLabel Call Thread) where
  step state
    | .retrieve call thread params expectedTokens started =>
        match state.calls call with
        | some _ => none
        | none => match validateRuntimeIdentity config params with
          | .error _ =>
            some { state.setCall call .finished with log := state.log ++ [.raised call] }
          | .ok identity =>
              some
                { state.setCall call
                    (.retrieving thread params identity expectedTokens started) with
                transferredBytes := Function.update state.transferredBytes thread 0 }
    | .processTokens call transferredBytes =>
        match state.calls call with
        | some (.retrieving thread _ _ _ _) =>
            if transferredBytes < 0 then none
            else some { state with
              transferredBytes := Function.update state.transferredBytes thread transferredBytes }
        | _ => none
    | .retrieved call retrievedTokens transferDone availableAt =>
        match state.calls call with
        | some (.retrieving thread params identity expectedTokens started) =>
            some (afterRetrieve config state call thread params identity expectedTokens started
              retrievedTokens transferDone availableAt)
        | _ => none
    | .raise call errorType at_ =>
        match state.calls call with
        | some (.retrieving thread params identity _ started) =>
            some (state.abort call thread (errorType.map fun name =>
              retrievalEvidence config params identity 0 (state.transferredBytes thread)
                ((at_ - started) * 1000) 0 .failed .missing false "fail_request" (some name)))
        | _ => none
    | .record call =>
        match state.calls call with
        | some (.announced thread available transferDone) =>
            some { state.setCall call .finished with
              pending := state.pending ++ [⟨call, available, transferDone⟩]
              transferredBytes := Function.update state.transferredBytes thread 0
              log := state.log ++ [.recorded call] }
        | _ => none
    | .confirmForwardConsumption call confirmedAt =>
        match state.calls call with
        | some _ => none
        | none => some (state.swap call (.confirmed confirmedAt))
    | .failForward call reason =>
        match state.calls call with
        | some _ => none
        | none => some (state.swap call (.discarded reason))
    | .settle call =>
        match state.calls call with
        | some (.settling boundary (hop :: pending)) =>
            some { state.setCall call (.settling boundary pending) with
              log := state.log ++
                [.emitted call hop.retrieval (boundary.settle hop.available hop.transferDone)] }
        | _ => none

end Machine

end AiAnalytics.KvTransfer
