import AiAnalytics.Lib.Grouping
import AiAnalytics.Lib.PyOps
import AiAnalytics.Lib.PyText
import Mathlib.Data.List.Dedup
import Mathlib.Data.List.DropRight

/-!
# The evidence of a run

`validate_run` decides whether retained evidence proves the four controlled cases of KV reuse. The
names of the evidence are cases or aliases of them, perhaps with a size tag behind an `@`.
-/

namespace AiAnalytics.KvTransfer

open Lib

variable {Float : Type}

abbrev EvidenceResult (α : Type) := Except (PyError String) α

def fail {α : Type} (reason : String) : EvidenceResult α :=
  .error (.raised (String.ofList (reason.toList.take 180)))

def check (p : Prop) [Decidable p] (reason : String) : EvidenceResult Unit :=
  if p then .ok () else fail reason

section Cases

inductive ControlledCase where
  | localReuse
  | recompute
  | destinationHit
  | realTransfer
deriving DecidableEq, Repr

def ControlledCase.name : ControlledCase → String
  | .localReuse => "same_worker_local_reuse"
  | .recompute => "cross_worker_recompute_transfer_disabled"
  | .destinationHit => "independently_warmed_destination_local_hit"
  | .realTransfer => "real_mooncake_transfer_consumed"

def requiredCases : List ControlledCase := [.localReuse, .recompute, .destinationHit, .realTransfer]

def caseAliases : List (String × ControlledCase) :=
  [("same_worker_local_reuse", .localReuse), ("local_reuse", .localReuse),
    ("cross_worker_recompute_transfer_disabled", .recompute),
    ("cross_worker_recompute", .recompute),
    ("independently_warmed_destination_local_hit", .destinationHit),
    ("independent_destination_hit", .destinationHit),
    ("destination_local_hit", .destinationHit), ("real_mooncake_transfer_consumed", .realTransfer),
    ("real_mooncake_transfer", .realTransfer), ("real_transfer", .realTransfer)]

def baseName (name : String) : String := String.ofList (name.toList.takeWhile (· ≠ '@'))

def sizeTag (name : String) : String := String.ofList ((name.toList.dropWhile (· ≠ '@')).drop 1)

def isTagged (name : String) : Bool := decide ('@' ∈ name.toList)

def asText : PyValue Float → Option String
  | .str s => if strip s.toList = [] then none else some s
  | _ => none

def getField (entries : List (String × PyValue Float)) (k : String) : PyValue Float :=
  (entries.lookup k).getD .none

def caseName (case : PyValue Float) : EvidenceResult ControlledCase :=
  let resolve (candidate : PyValue Float) : EvidenceResult ControlledCase :=
    match (asText candidate).bind fun name => caseAliases.lookup (baseName name) with
    | some controlled => .ok controlled
    | none => fail "unknown controlled evidence case"
  match case with
  | .str s => resolve (.str s)
  | .dict entries => resolve ((entries.lookup "name").getD (getField entries "case"))
  | _ => fail "case must be a name or mapping"

end Cases

section Events

def eventFields : List String :=
  ["request_id", "conversation_id", "agent_step", "source_worker_or_store", "destination_worker",
    "compatibility_namespace", "hop_decision_reason", "hop_result", "reusable_tokens",
    "transferred_tokens",
    "transferred_bytes", "lookup_ms", "transfer_ms", "confirm_ms", "fallback_action", "consumed",
    "evidence_scope"]

inductive EvidenceScope where
  | perRequest
  | isolatedWindow
deriving DecidableEq, Repr

inductive AgentStep where
  | number (n : Nat)
  | text (s : String)
deriving DecidableEq, Repr

structure EvidenceEvent where
  requestId : String
  conversationId : String
  agentStep : AgentStep
  prefixIdentity : String
  prefixVersion : String
  sourceWorkerOrStore : String
  destinationWorker : String
  compatibilityNamespace : String
  hopDecisionReason : String
  hopResult : String
  reusableTokens : Nat
  transferredTokens : Nat
  transferredBytes : Nat
  fallbackAction : String
  consumed : Bool
  evidenceScope : EvidenceScope

structure EvidenceFloats (Float : Type) where
  num : NumOps Float
  isFinite : Float → Bool

def rsplit (sep : Char) (text : String) : Option (String × String) :=
  if sep ∈ text.toList then
    some (String.ofList (text.toList.rdropWhile (· ≠ sep)).dropLast,
      String.ofList (text.toList.rtakeWhile (· ≠ sep)))
  else none

def normalizeIdentity (event : List (String × PyValue Float)) : EvidenceResult (String × String) :=
  let identity := getField event "prefix_identity"
  let version := (event.lookup "prefix_version").getD (getField event "prefix_identity_version")
  match asText identity, asText version with
  | some identity, some version => .ok (identity, version)
  | _, _ => match asText (getField event "prefix_identity/version") with
    | some combined => match (rsplit '@' combined).or (rsplit '/' combined) with
      | some (identity, version) =>
          if (asText (.str identity : PyValue Float)).isSome ∧
            (asText (.str version : PyValue Float)).isSome then
            .ok (identity, version)
          else fail "missing event fields: prefix_identity, prefix_version"
      | none => fail "prefix_identity/version must include both identity and version"
    | none => fail "missing event fields: prefix_identity, prefix_version"

variable (event : List (String × PyValue Float)) (field : String)

def requireTextField : EvidenceResult String :=
  match asText (getField event field) with
  | some s => .ok s
  | none => fail ("event field " ++ field ++ " must be a non-empty string")

def requireStep : EvidenceResult AgentStep :=
  match getField event "agent_step" with
  | .int n => if 0 ≤ n then .ok (.number n.toNat)
      else fail "event field agent_step must be a non-empty string or non-negative integer"
  | .str s => if strip s.toList = [] then
        fail "event field agent_step must be a non-empty string or non-negative integer"
      else .ok (.text s)
  | _ => fail "event field agent_step must be a non-empty string or non-negative integer"

def requireCount : EvidenceResult Nat :=
  match getField event field with
  | .int n =>
    if 0 ≤ n then .ok n.toNat else
      fail ("event field " ++ field ++ " must be a non-negative integer")
  | _ => fail ("event field " ++ field ++ " must be a non-negative integer")

/-- `_require_nonnegative_number`; `math.isfinite` makes a float of an integer. -/
def requireNonnegativeNumber (floats : EvidenceFloats Float) : EvidenceResult Unit :=
  let reason := "event field " ++ field ++ " must be a non-negative finite number"
  match getField event field with
  | .int n => match floats.num.ofInt n with
    | some _ => check (0 ≤ n) reason
    | none => .error .overflowError
  | .float x => check (floats.isFinite x = true ∧ floats.num.gt floats.num.zero x = false) reason
  | _ => fail reason

def requireConsumed : EvidenceResult Bool :=
  match getField event "consumed" with
  | .bool b => .ok b
  | _ => fail "event field consumed must be boolean"

def requireScope : EvidenceResult EvidenceScope :=
  match getField event "evidence_scope" with
  | .str s => if s = "per_request" then .ok .perRequest
      else if s = "isolated_window" then .ok .isolatedWindow
      else fail "event field evidence_scope must be per_request or isolated_window"
  | .list _ | .dict _ => .error .typeError
  | _ => fail "event field evidence_scope must be per_request or isolated_window"

def validateEvent (floats : EvidenceFloats Float) : PyValue Float → EvidenceResult EvidenceEvent
  | .dict event => do
      let missing := eventFields.filter fun field => (event.lookup field).isNone
      check (missing = []) ("missing event fields: " ++ String.intercalate ", " missing)
      let (prefixIdentity, prefixVersion) ← normalizeIdentity event
      let requestId ← requireTextField event "request_id"
      let conversationId ← requireTextField event "conversation_id"
      let sourceWorkerOrStore ← requireTextField event "source_worker_or_store"
      let destinationWorker ← requireTextField event "destination_worker"
      let compatibilityNamespace ← requireTextField event "compatibility_namespace"
      let hopDecisionReason ← requireTextField event "hop_decision_reason"
      let hopResult ← requireTextField event "hop_result"
      let fallbackAction ← requireTextField event "fallback_action"
      let agentStep ← requireStep event
      let reusableTokens ← requireCount event "reusable_tokens"
      let transferredTokens ← requireCount event "transferred_tokens"
      let transferredBytes ← requireCount event "transferred_bytes"
      requireNonnegativeNumber event "lookup_ms" floats
      requireNonnegativeNumber event "transfer_ms" floats
      requireNonnegativeNumber event "confirm_ms" floats
      let consumed ← requireConsumed event
      let evidenceScope ← requireScope event
      return {
        requestId := requestId, conversationId, agentStep, prefixIdentity, prefixVersion,
        sourceWorkerOrStore,
        destinationWorker, compatibilityNamespace, hopDecisionReason, hopResult, reusableTokens,
        transferredTokens,
        transferredBytes, fallbackAction, consumed, evidenceScope }
  | _ => fail "each evidence event must be a mapping"

end Events

section Validators

variable (event : EvidenceEvent)

def requireNoTransfer : EvidenceResult Unit :=
  check (event.transferredTokens = 0 ∧ event.transferredBytes = 0)
    "control case must record zero transferred tokens and bytes"

def validateLocalReuse : EvidenceResult Unit := do
  requireNoTransfer event
  check (event.sourceWorkerOrStore = event.destinationWorker)
    "local reuse source and destination must match"
  check (event.hopResult ∈ ["local_reuse", "already_present", "present"])
    "local reuse must record a local result"
  check (0 < event.reusableTokens) "local reuse requires positive reusable tokens"
  check (event.consumed = true) "local reuse requires destination consumption evidence"

def validateRecompute : EvidenceResult Unit := do
  requireNoTransfer event
  check (event.sourceWorkerOrStore ≠ event.destinationWorker)
    "cross-worker recompute source and destination must differ"
  check (event.hopDecisionReason = "transfer_disabled")
    "recompute control must record transfer_disabled"
  check (event.hopResult ∈ ["recompute", "recomputed"])
    "recompute control must record a recompute result"
  check (event.fallbackAction = "recompute") "recompute control must record recompute fallback"
  check (event.consumed = false) "recompute control cannot claim transferred-KV consumption"

def validateDestinationHit : EvidenceResult Unit := do
  requireNoTransfer event
  check (event.sourceWorkerOrStore = event.destinationWorker)
    "destination local hit source and destination must match"
  check (event.hopDecisionReason ∈
      ["independently_warmed_destination", "independent_destination_hit", "destination_local_hit"])
    "destination local hit must identify independent warming"
  check (event.hopResult ∈ ["already_present", "destination_hit", "local_hit", "local_reuse"])
    "destination local hit must record a local-hit result"
  check (0 < event.reusableTokens) "destination local hit requires positive reusable tokens"
  check (event.consumed = true) "destination local hit requires destination consumption evidence"

def validateRealTransfer : EvidenceResult Unit := do
  check (event.hopResult = "transferred") "real hop requires a transferred result"
  check (event.sourceWorkerOrStore ≠ event.destinationWorker)
    "real hop source and destination must differ"
  check (0 < event.transferredTokens) "real hop requires positive transferred tokens"
  check (0 < event.transferredBytes) "real hop requires positive transferred bytes"
  check (0 < event.reusableTokens) "real hop requires positive reusable tokens"
  check (event.transferredTokens ≤ event.reusableTokens)
    "transferred tokens cannot exceed reusable tokens"
  check (event.consumed = true) "real hop requires destination consumption evidence"

/-- `_CASE_VALIDATORS` -/
def ControlledCase.validator : ControlledCase → EvidenceEvent → EvidenceResult Unit
  | .localReuse => validateLocalReuse
  | .recompute => validateRecompute
  | .destinationHit => validateDestinationHit
  | .realTransfer => validateRealTransfer

end Validators

section Runs

variable (floats : EvidenceFloats Float)

structure Correlation where
  requestId : String
  conversationId : String
  agentStep : AgentStep
  prefixIdentity : String
  prefixVersion : String
  destinationWorker : String
  compatibilityNamespace : String
deriving DecidableEq

def EvidenceEvent.correlation (event : EvidenceEvent) : Correlation where
  requestId := event.requestId
  conversationId := event.conversationId
  agentStep := event.agentStep
  prefixIdentity := event.prefixIdentity
  prefixVersion := event.prefixVersion
  destinationWorker := event.destinationWorker
  compatibilityNamespace := event.compatibilityNamespace

def validateCorrelations : List EvidenceEvent → EvidenceResult Unit
  | [] => .ok ()
  | first :: others =>
      check (∀ event ∈ others, event.correlation = first.correlation)
        "event correlation fields do not match"

structure CaseSummary (Float : Type) where
  case : PyValue Float
  eventCount : Nat
  evidenceScope : EvidenceScope

def eventItems : PyValue Float → EvidenceResult (List (PyValue Float))
  | .list (item :: items) => .ok (item :: items)
  | _ => fail "case evidence must contain at least one event"

def oneScope : List EvidenceEvent → EvidenceResult EvidenceScope
  | first :: others =>
      if ∀ event ∈ others, event.evidenceScope = first.evidenceScope then .ok first.evidenceScope
      else fail "events cannot mix per_request and isolated_window evidence"
  | [] => fail "events cannot mix per_request and isolated_window evidence"

def validateCase (case events : PyValue Float) : EvidenceResult (CaseSummary Float) := do
  let name ← caseName case
  let items ← eventItems events
  let normalized ← items.mapM (validateEvent floats)
  validateCorrelations normalized
  let evidenceScope ← oneScope normalized
  normalized.forM name.validator
  let rawName := match case with
    | .dict entries => (entries.lookup "name").getD ((entries.lookup "case").getD (.str name.name))
    | other => other
  return { case := rawName, eventCount := normalized.length, evidenceScope }

def versionFields : List String :=
  ["model_id", "model_revision", "tokenizer_revision", "chat_template_version",
    "prefix_contract_version",
    "weight_dtype", "kv_dtype", "adapter_namespace", "cache_namespace", "engine_version",
    "block_layout_version",
    "prefix_identity_version"]

def manifestVersions (manifest : List (String × PyValue Float)) :
    EvidenceResult (List (String × PyValue Float)) :=
  match getField manifest "versions" with
  | .dict versions => do
      let missing := versionFields.filter fun field => (asText (getField versions field)).isNone
      check (missing = []) ("manifest versions missing: " ++ String.intercalate ", " missing)
      return versions
  | _ => fail "manifest versions must be a mapping"

def workerOf : PyValue Float → Option String
  | .str s => asText (.str s : PyValue Float)
  | .dict entries => asText ((entries.lookup "id").getD (getField entries "name"))
  | _ => none

def manifestWorkers (manifest : List (String × PyValue Float)) : EvidenceResult (List String) :=
  match getField manifest "topology" with
  | .dict (entry :: entries) => match getField (entry :: entries) "workers" with
    | .list rawWorkers => do
        let workers := (rawWorkers.filterMap workerOf).dedup
        check (2 ≤ workers.length) "manifest topology must list at least two workers"
        return workers
    | _ => fail "manifest topology must list at least two workers"
  | _ => fail "manifest topology must be a non-empty mapping"

structure Provenance where
  workers : List String
  namespaceId : String
  prefixIdentityVersion : String

def versionOf (versions : List (String × PyValue Float)) : String :=
  (asText (getField versions "prefix_identity_version")).getD ""

/-- What `validate_run` reads of a manifest. -/
def manifestProvenance : PyValue Float → EvidenceResult Provenance
  | .dict manifest => do
      let workers ← manifestWorkers manifest
      let versions ← manifestVersions manifest
      match asText (getField manifest "compatibility_namespace") with
      | some namespaceId =>
          check ((asText (getField manifest "control_isolation_statement")).isSome = true)
            "manifest control isolation statement must be non-empty"
          return { workers, namespaceId, prefixIdentityVersion := versionOf versions }
      | none => fail "manifest compatibility namespace must be non-empty"
  | _ => fail "manifest must be a mapping"

structure RunEntry (Float : Type) where
  case : List (String × PyValue Float)
  events : PyValue Float

def iterCases : PyValue Float → EvidenceResult (List (RunEntry Float))
  | .dict cases => .ok <| cases.map fun (key, value) => match value with
      | .dict case =>
          let named := if (case.lookup "name").isSome then case else case ++ [("name", .str key)]
          ⟨named, getField named "events"⟩
      | events => ⟨[("name", .str key)], events⟩
  | .list cases => cases.mapM fun
      | .dict case => .ok ⟨case, getField case "events"⟩
      | _ => fail "each run case must be a mapping"
  | _ => fail "cases must be a mapping or sequence"

def checkProvenance (provenance : Provenance) (event : EvidenceEvent) : EvidenceResult Unit := do
  check (event.destinationWorker ∈ provenance.workers)
    "event destination is absent from manifest topology"
  check (event.compatibilityNamespace = provenance.namespaceId)
    "event compatibility namespace does not match manifest"
  check (event.prefixVersion = provenance.prefixIdentityVersion)
    "event prefix identity version does not match manifest"

structure RunState where
  seen : List String := []
  casesBySize : List (String × List ControlledCase) := []
  hasSizeTags : Bool := false

def validateEntry (provenance : Provenance) (state : RunState) (entry : RunEntry Float) :
    EvidenceResult RunState :=
  match asText (getField entry.case "name") with
  | some rawName => do
      check (rawName ∉ state.seen) "duplicate case in evidence run"
      let name ← caseName (.str (baseName rawName) : PyValue Float)
      let _ ← validateCase floats (.dict entry.case) entry.events
      let items ← eventItems entry.events
      let normalized ← items.mapM (validateEvent floats)
      normalized.forM (checkProvenance provenance)
      return { seen := state.seen ++ [rawName]
               casesBySize := addTo (sizeTag rawName) name state.casesBySize
               hasSizeTags := state.hasSizeTags || isTagged rawName }
  | none => fail "case name must be non-empty string"

def RunState.checkComplete (state : RunState) : EvidenceResult Unit :=
  if state.hasSizeTags then
    state.casesBySize.forM fun (size, groupCases) =>
      check (groupCases ⊆ requiredCases ∧ requiredCases ⊆ groupCases ∧
        groupCases.dedup.length = requiredCases.length)
        ("run prefix size " ++ size ++ " must contain exactly the four controlled cases")
  else
    check (state.seen ⊆ requiredCases.map ControlledCase.name ∧
      requiredCases.map ControlledCase.name ⊆ state.seen ∧
        state.seen.length = requiredCases.length)
      "run must contain exactly the four controlled cases"

structure RunSummary where
  valid : Bool
  caseCount : Nat
  cases : List String
deriving DecidableEq

def validateRun (manifest cases : PyValue Float) : EvidenceResult RunSummary := do
  let provenance ← manifestProvenance manifest
  let entries ← iterCases cases
  let state ← entries.foldlM (validateEntry floats provenance) {}
  state.checkComplete
  return { valid := true, caseCount := state.seen.length, cases := state.seen }

end Runs

end AiAnalytics.KvTransfer
