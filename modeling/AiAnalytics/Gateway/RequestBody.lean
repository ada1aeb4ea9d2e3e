import AiAnalytics.Gateway.Placement
import AiAnalytics.Lib.OrderedDict
import AiAnalytics.Lib.PyLibrary

/-!
# The body of a request

The variable `body` of `serve_completion` from the parsed request to what is sent on: what the guard
checks of it, and what `hop.prepare` makes of it. A field of the body knows who has put its value
there. -/

namespace AiAnalytics.Gateway

open Lib

variable {Float : Type}

section Payload

structure HopParams (Float : Type) where
  load : Bool
  requestId : String
  conversationId : String
  agentStep : String
  reason : String
  deadlineEpochS : Option Float

def HopParams.value (params : HopParams Float) : PyValue Float :=
  .dict
    ([("lmcache.hop.load", .bool params.load), ("lmcache.hop.request_id", .str params.requestId),
      ("lmcache.hop.conversation_id", .str params.conversationId),
      ("lmcache.hop.agent_step", .str params.agentStep), ("lmcache.hop.reason", .str params.reason)]
        ++
      (params.deadlineEpochS.map fun x => ("lmcache.hop.deadline_epoch_s", .float x)).toList)

inductive Field (Float : Type) where
  | sent (value : PyValue Float)
  | connector (params : HopParams Float)
  | model (name : String)

def Field.value : Field Float → PyValue Float
  | .sent value => value
  | .connector params => params.value
  | .model name => .str name

abbrev Payload (Float : Type) := OrderedDict String (Field Float)

def Payload.ofEntries (entries : List (String × PyValue Float)) : Payload Float :=
  entries.foldl (fun payload entry => payload.set entry.1 (.sent entry.2)) .empty

/-- `payload.get(key)` -/
def Payload.value (payload : Payload Float) (key : String) : Option (PyValue Float) :=
  (payload.get? key).map Field.value

def Payload.ofJson : Option (PyValue Float) → Option (Payload Float)
  | some (.dict entries) => some (.ofEntries entries)
  | _ => none

def connectorKey : String := "kv_transfer_params"

def CarriesCallers (payload : Payload Float) : Prop :=
  ∃ value, payload.get? connectorKey = some (.sent value)

def streams (lib : PyLibrary Float) (payload : Payload Float) : Bool :=
  ((payload.value "stream").getD (.bool false)).truthy lib.num

end Payload

variable (lib : PyLibrary Float) (getenv : String → Option String)

/-- `int(os.getenv(name, default))` -/
def envInt (name : String) (default : Int) : Option Int :=
  match getenv name with
  | none => some default
  | some text => readInt lib.digit text.toList

def intOrNone (value : Option String) : Option Int :=
  (value.bind fun text => readInt lib.digit text.toList).filter (0 ≤ ·)

section Guard

def malformedPayload : String := "malformed_payload"
def missingMessages : String := "missing_messages"
def promptTooLong : String := "prompt_too_long"
def contextTooLong : String := "context_window_exceeded"

structure Guard where
  ok : Bool
  code : String := "allow"
  reason : String := ""
deriving DecidableEq, Repr

def Guard.httpStatus (verdict : Guard) : Nat :=
  if verdict.ok then 200
  else if verdict.code = promptTooLong ∨ verdict.code = contextTooLong then 413
  else 400

def dumpsFrame (parts : Nat) : Nat := 2 + 2 * (parts - 1)

mutual

def dumpsLength : PyValue Float → Nat
  | .none => 4
  | .bool b => if b then 4 else 5
  | .int n => (toString n).length
  | .float x => lib.jsonFloat x
  | .decimal _ => 0
  | .str s => (jsonText s).length
  | .list items => dumpsFrame items.length + itemsLength items
  | .dict entries => dumpsFrame entries.length + entriesLength entries

def itemsLength : List (PyValue Float) → Nat
  | [] => 0
  | item :: items => dumpsLength item + itemsLength items

def entriesLength : List (String × PyValue Float) → Nat
  | [] => 0
  | (key, value) :: entries => (jsonText key).length + 2 + dumpsLength value + entriesLength entries

end

def estimatePromptTokens (payload : Payload Float) (header : Option String) : Int :=
  let own : Int := (dumpsLength lib ((payload.value "messages").getD (.list [])) / 4 : Nat)
  match intOrNone lib header with
  | some estimate => max own estimate
  | none => own

def completionTokens : Option (PyValue Float) → Option Int
  | some (.int n) => if 0 ≤ n then some n else none
  | _ => none

def requestedCompletionTokens (payload : Payload Float) : Int :=
  ((completionTokens (payload.value "max_completion_tokens")).or
    (completionTokens (payload.value "max_tokens"))).getD 0

def maxPromptTokens : Option Int := envInt lib getenv "MAX_PROMPT_TOKENS" 32768

def maxModelLen : Option (Option Int) :=
  (envInt lib getenv "MAX_MODEL_LEN" 0).map fun window => if window = 0 then none else some window

def inspectLength (payload : Payload Float) (header : Option String) : Option Guard := do
  let limit ← maxPromptTokens lib getenv
  let tokens := estimatePromptTokens lib payload header
  if limit < tokens then
    some ⟨false, promptTooLong, s!"estimated {tokens} tokens exceeds limit {limit}"⟩
  else
    let window ← maxModelLen lib getenv
    let completion := requestedCompletionTokens payload
    match window with
    | none => some ⟨true, "allow", ""⟩
    | some window =>
        if window < tokens + completion then
          some ⟨false, contextTooLong,
            s!"estimated prompt {tokens} + max_tokens {completion} exceeds context window {window}"⟩
        else some ⟨true, "allow", ""⟩

def isDict : PyValue Float → Bool
  | .dict _ => true
  | _ => false

def inspect (body : Option (Payload Float)) (header : Option String) : Option Guard :=
  match body with
  | none => some ⟨false, malformedPayload, "payload must be a JSON object"⟩
  | some payload => match payload.value "messages" with
    | some (.list (message :: messages)) =>
        if (message :: messages).all isDict then inspectLength lib getenv payload header
        else some ⟨false, malformedPayload, "each message must be an object"⟩
    | _ => some ⟨false, missingMessages, "messages must be a non-empty list"⟩

end Guard

section Hop

def defaultMinTokens : Int := 1024

def experimentCases : List (String × String) :=
  [("same_worker_local_reuse", "local_prefix_present"),
    ("cross_worker_recompute_transfer_disabled", "transfer_disabled"),
    ("independently_warmed_destination_local_hit", "independently_warmed_destination"),
    ("real_mooncake_transfer_consumed", "remote_prefix_candidate")]

structure HopFields where
  decisionReason : String
  result : String
deriving DecidableEq, Repr

def hopReason (decision : PlacementDecision Float) (worthMoving : Bool) : String :=
  if decision.priorWorker = some decision.chosenWorker then "local_prefix_present"
  else if decision.priorWorker.isSome then
    if worthMoving then "remote_prefix_candidate" else "below_min_tokens"
  else "no_prior_worker"

def experimentReason (override experimentCase : Option String) : String :=
  match experimentCase.bind fun name => experimentCases.lookup name with
  | some reason => reason
  | none => if override = some "on" then "experiment_on" else "experiment_off"

def hopDecision (decision : PlacementDecision Float) (allowed : Bool)
    (override experimentCase : Option String) : Option (Bool × String) := do
  let minTokens ← envInt lib getenv "KV_HOP_MIN_TOKENS" defaultMinTokens
  let worthMoving := decide (minTokens ≤ decision.priorReusableTokens)
  let controlled :=
    getenv "ALLOW_EXPERIMENT_CONTROLS" = some "1" ∧ (override = some "on" ∨ override = some "off")
  let load :=
    if controlled then allowed && override = some "on"
    else allowed && worthMoving && decision.priorWorker.isSome && decision.priorWorker ≠
      some decision.chosenWorker
  let reason :=
    if controlled then experimentReason override experimentCase else hopReason decision worthMoving
  some (load, if allowed then reason else "deadline_recompute")

end Hop

end AiAnalytics.Gateway
